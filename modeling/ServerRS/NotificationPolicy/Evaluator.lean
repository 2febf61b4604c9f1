import ServerRS.Domain.Action

/-!
# The notification policy evaluator

Models `personal-secretary/src/domain/notification_policy.rs` (the types that
`ServerRS.Domain.Action` does not have, and `NotificationPolicyEvaluator`) and the snapshot of
`application/notification_policy_service.rs` that the evaluator reads.

What the quiet hours take from `chrono` and `chrono_tz` is a parameter (`Chrono`).
-/

namespace ServerRS

/-- `MatchField::matches`: an unknown value matches nothing, not even itself. -/
def MatchField.«matches» {T : Type} [DecidableEq T] : MatchField T → MatchField T → Bool
  | .known expected, .known value => expected = value
  | .absent, .absent => true
  | _, _ => false

namespace NotificationPolicy

structure PolicyRevisionId where
  asStr : String
deriving DecidableEq

inductive NotificationPolicyKind where
  | accountDefault
  | conversation
  | contact
  | category
  | quietHours
  | similarNotification
  | automaticReplyDenied
deriving DecidableEq

inductive RevisionKind where
  | rule
  | tombstone
deriving DecidableEq

inductive ConversationMode where
  | normal
  | fullySilent
deriving DecidableEq

structure ConversationNotificationRule where
  mode : ConversationMode
  allowBypass : Bool
deriving DecidableEq

structure NotificationPolicyRule where
  matchKey : NotificationMatchKeyV1
  outcome : NotificationOutcome
  bypassQuiet : Bool
  conversation : Option ConversationNotificationRule
  quietHours : Option QuietHoursRule
deriving DecidableEq

inductive DecisionReason where
  | candidateExpired
  | conversationFullySilent
  | conversationPolicy
  | contactPolicy
  | categoryPolicy
  | accountDefaultPolicy
  | quietHours
  | scheduleTimeAmbiguous
  | invalidQuietHours
deriving DecidableEq

structure EvaluationPlan where
  outcome : NotificationOutcome
  reason : DecisionReason
  nextAllowedAtUnixSecs : Option Int
deriving DecidableEq

def EvaluationPlan.new (outcome : NotificationOutcome) (reason : DecisionReason) : EvaluationPlan :=
  ⟨outcome, reason, none⟩

/-! ## Quiet hours -/

/-- `chrono_tz::Tz`, the formats `%H:%M` and `%Y-%m-%d`, and local time. A time counts seconds
since midnight, a date days. -/
structure Chrono where
  Tz : Type
  parseTz : String → Option Tz
  parseTime : String → Option ℕ
  parseDate : String → Option Int
  /-- `DateTime::from_timestamp`, then `with_timezone`. -/
  localOf : Tz → Int → Option (Int × ℕ)
  /-- `from_local_datetime` gives `LocalResult::Single`. -/
  isSingle : Tz → Int → ℕ → Bool

/-- The errors of `NotificationPolicyError` that quiet hours have. -/
inductive QuietHoursError where
  | invalidQuietHours (text : String)
  | scheduleTimeAmbiguous
deriving DecidableEq

section

variable (chrono : Chrono) (rule : QuietHoursRule)

def quietField {α : Type} (text : String) : Option α → Except QuietHoursError α
  | some value => .ok value
  | none => .error (.invalidQuietHours text)

def timezone : Except QuietHoursError chrono.Tz :=
  quietField "timezone must be a valid IANA name" (chrono.parseTz rule.timezoneName)

def boundaries : Except QuietHoursError (ℕ × ℕ) := do
  let start ← quietField "start time must use HH:MM" (chrono.parseTime rule.startLocalTime)
  let stop ← quietField "end time must use HH:MM" (chrono.parseTime rule.endLocalTime)
  if start = stop then .error (.invalidQuietHours "start and end local times must differ")
  else .ok (start, stop)

def parseEffectiveDate : Option String → Except QuietHoursError (Option Int)
  | none => .ok none
  | some date =>
    (quietField "effective date must use YYYY-MM-DD" (chrono.parseDate date)).map some

def startsAfter (start stop : Option Int) : Bool :=
  start.any fun start => stop.any fun stop => stop < start

def effectiveRange : Except QuietHoursError (Option Int × Option Int) := do
  let start ← parseEffectiveDate chrono rule.effectiveFromLocalDate
  let stop ← parseEffectiveDate chrono rule.effectiveUntilLocalDate
  if startsAfter start stop then
    .error (.invalidQuietHours "effective start date must not exceed end date")
  else .ok (start, stop)

def appliesOn (date : Int) : Except QuietHoursError Bool := do
  let range ← effectiveRange chrono rule
  .ok ((range.1.all fun start => start ≤ date) && range.2.all fun stop => date ≤ stop)

def containsLocalTime (time : ℕ) : Except QuietHoursError Bool := do
  let (start, stop) ← boundaries chrono rule
  .ok (if start < stop then start ≤ time && time < stop else start ≤ time || time < stop)

def quietHoursResult (nowUnixSecs : Int) : Except QuietHoursError Bool := do
  let timezone ← timezone chrono rule
  let (date, time) ← quietField "clock timestamp is invalid" (chrono.localOf timezone nowUnixSecs)
  let applies ← appliesOn chrono rule date
  if !applies then .ok false
  else do
    let contains ← containsLocalTime chrono rule time
    if !contains then .ok false
    else do
      let (start, stop) ← boundaries chrono rule
      if chrono.isSingle timezone date start && chrono.isSingle timezone date stop then .ok true
      else .error .scheduleTimeAmbiguous

end

/-! ## Evaluation -/

structure EvaluationInput where
  candidateIsCurrent : Bool
  matchingRule : Option NotificationPolicyRule
  conversationRule : Option ConversationNotificationRule
  contactRule : Option NotificationPolicyRule
  categoryRule : Option NotificationPolicyRule
  accountDefaultRule : Option NotificationPolicyRule
  quietHours : Option QuietHoursRule
  nowUnixSecs : Int
deriving DecidableEq

namespace EvaluationInput

/-- The conversation is silent, and the rule that matches does not break its silence. -/
def isSilenced (input : EvaluationInput) : Bool :=
  input.conversationRule.any fun conversation =>
    conversation.mode = .fullySilent &&
      !(input.matchingRule.any fun rule => rule.bypassQuiet && conversation.allowBypass)

def selectedRule (input : EvaluationInput) : Option (NotificationPolicyRule × DecisionReason) :=
  (input.matchingRule.map fun rule => (rule, .conversationPolicy)) <|>
    (input.contactRule.map fun rule => (rule, .contactPolicy)) <|>
    (input.categoryRule.map fun rule => (rule, .categoryPolicy)) <|>
    (input.accountDefaultRule.map fun rule => (rule, .accountDefaultPolicy))

def bypassesQuietHours (input : EvaluationInput) : Bool :=
  (input.selectedRule.any fun selected => selected.1.bypassQuiet) &&
    input.quietHours.any fun rule => rule.allowBypass

def decideBySelected (input : EvaluationInput) : EvaluationPlan :=
  match input.selectedRule with
  | some (rule, reason) => .new rule.outcome reason
  | none => .new .remind .accountDefaultPolicy

end EvaluationInput

/-- `NotificationPolicyEvaluator::evaluate`. -/
def evaluate (chrono : Chrono) (input : EvaluationInput) : EvaluationPlan :=
  if !input.candidateIsCurrent then .new .candidateExpired .candidateExpired
  else if input.isSilenced then .new .suppress .conversationFullySilent
  else
    match input.quietHours.map fun rule => quietHoursResult chrono rule input.nowUnixSecs with
    | some (.ok true) =>
      if input.bypassesQuietHours then input.decideBySelected else .new .suppress .quietHours
    | some (.error .scheduleTimeAmbiguous) => .new .scheduleTimeAmbiguous .scheduleTimeAmbiguous
    | some (.error (.invalidQuietHours _)) => .new .evaluationFailedTerminal .invalidQuietHours
    | some (.ok false) => input.decideBySelected
    | none => input.decideBySelected

/-! ## Snapshots -/

structure OwnerBindingSnapshot where
  managedAccount : SourceAccountRef
  commandAccount : SourceAccountRef
  ownerActorId : String
deriving DecidableEq

structure PolicyRuleSnapshot where
  policyFamilyId : PolicyFamilyId
  policyRevisionId : PolicyRevisionId
  generation : ℕ
  policyKind : NotificationPolicyKind
  rule : NotificationPolicyRule
deriving DecidableEq

structure FamilyGenerationSnapshot where
  policyFamilyId : PolicyFamilyId
  currentRevisionId : PolicyRevisionId
  generation : ℕ
deriving DecidableEq

structure EvaluationSnapshot where
  candidate : NotificationCandidateRef
  candidateMatchKey : NotificationMatchKeyV1
  candidateIsCurrent : Bool
  accountPolicyEpoch : ℕ
  familyGenerations : List FamilyGenerationSnapshot
  activeRules : List PolicyRuleSnapshot
  ownerBinding : OwnerBindingSnapshot
deriving DecidableEq

/-- The error of `NotificationPolicyUseCaseError` that evaluating has. -/
inductive AmbiguousPolicyRules where
  | ambiguousPolicyRules
deriving DecidableEq

def notificationMatchKeyMatches (expected actual : NotificationMatchKeyV1) : Bool :=
  expected.account = actual.account &&
    expected.conversation.«matches» actual.conversation &&
    expected.actorId.«matches» actual.actorId &&
    expected.category.«matches» actual.category &&
    expected.mentionedOwner.«matches» actual.mentionedOwner &&
    expected.structuredImportance.«matches» actual.structuredImportance &&
    expected.eventKind.«matches» actual.eventKind

/-- The first of the rules, unless there is a second one. -/
def onlyRule : List PolicyRuleSnapshot → Except AmbiguousPolicyRules (Option PolicyRuleSnapshot)
  | [] => .ok none
  | [rule] => .ok (some rule)
  | _ => .error .ambiguousPolicyRules

namespace EvaluationSnapshot

variable (snapshot : EvaluationSnapshot)

def matchingRules (kind : NotificationPolicyKind) : List PolicyRuleSnapshot :=
  snapshot.activeRules.filter fun rule =>
    rule.policyKind = kind && notificationMatchKeyMatches rule.rule.matchKey snapshot.candidateMatchKey

def matchingRuleSnapshot (kind : NotificationPolicyKind) :
    Except AmbiguousPolicyRules (Option PolicyRuleSnapshot) :=
  onlyRule (snapshot.matchingRules kind)

def ruleFor (kind : NotificationPolicyKind) :
    Except AmbiguousPolicyRules (Option NotificationPolicyRule) := do
  let rule ← snapshot.matchingRuleSnapshot kind
  .ok (rule.map PolicyRuleSnapshot.rule)

/-- The match key of the rule is not compared. -/
def configuredRuleFor (kind : NotificationPolicyKind) :
    Except AmbiguousPolicyRules (Option NotificationPolicyRule) := do
  let rule ← onlyRule (snapshot.activeRules.filter fun rule => rule.policyKind = kind)
  .ok (rule.map PolicyRuleSnapshot.rule)

def evaluationInput (nowUnixSecs : Int) : Except AmbiguousPolicyRules EvaluationInput := do
  let conversation ← snapshot.ruleFor .conversation
  let contactRule ← snapshot.ruleFor .contact
  let categoryRule ← snapshot.ruleFor .category
  let accountDefaultRule ← snapshot.ruleFor .accountDefault
  let quietHours ← snapshot.configuredRuleFor .quietHours
  .ok {
    candidateIsCurrent := snapshot.candidateIsCurrent
    matchingRule := conversation
    conversationRule := conversation.bind NotificationPolicyRule.conversation
    contactRule
    categoryRule
    accountDefaultRule
    quietHours := quietHours.bind NotificationPolicyRule.quietHours
    nowUnixSecs }

/-- The evaluator that `notification_policy_worker.rs` passes to `evaluate_next`. -/
def plan (chrono : Chrono) (nowUnixSecs : Int) : EvaluationPlan :=
  match snapshot.evaluationInput nowUnixSecs with
  | .ok input => evaluate chrono input
  | .error _ => .new .evaluationFailedTerminal .invalidQuietHours

end EvaluationSnapshot

end NotificationPolicy

end ServerRS
