import ServerRS.ActionGraph.Refinement
import ServerRS.Lib.Timeline

/-!
# After a rejection

A rejection moves a run on to `l0_execute`, which has nothing to do then, and from there to
`replan_decision` and its router. The router does not look at the rejection: it reads the last
receipt. As long as the run has carried out nothing, there is none, and the run ends as it
should (`rejection_ends_run`, first part). Otherwise the receipt that led to the rejected proposal
is still the last one, and leads to the planner once more (second part).
-/

namespace ServerRS.ActionGraph

open Lib AgentCore

section Entries

variable [ActionFormat]

/-- An entry that a run may still have after a rejection: not a call of the planner, no dispatch, no
other route than `finish`, and no response but that there is nothing to do. -/
structure Calm (entry : Entry SecretaryAgentState) : Prop where
  call : call? entry ≠ some planId
  dispatch : dispatch? entry = none
  route : ∀ route, route? entry = some route → route = finishRoute
  draft : ∀ draft, draft? entry = some draft →
    ∃ ids now, buildActionResponseDraft none ids now = .ok draft

/-- Nothing was carried out. -/
def Untouched (history : Story) : Prop := ∀ entry ∈ history, receipt? entry = none

/-- The states at `plan` and while a proposal waits: no answer yet, and if something was carried
out, it is what led to `plan`. -/
def Open (state : ActionState) : Prop :=
  state.outcome = none ∧ (state.business.lastReceipt = none ∨ Returns state.business)

def Position.Open : Position → Prop
  | .atNode .plan state => ActionGraph.Open state
  | .waiting state => ActionGraph.Open state
  | _ => True

/-- The state has a receipt if and only if one was accepted. -/
def ReceiptKept (position : Position) (history : Story) : Prop :=
  ∀ state, position.state? = some state → (state.business.lastReceipt = none ↔ Untouched history)

/-- A run on its way to the end, with nothing carried out. -/
def Position.Ended : Position → Prop
  | .atNode .plan _ => False
  | .atNode .execute state =>
    state.business.phase ≠ .execute ∧ state.outcome = none ∧ state.business.lastReceipt = none
  | .atNode _ state => state.outcome = none ∧ state.business.lastReceipt = none
  | .waiting _ => False
  | .completed _ => True
  | .failed => True

/-- A run on its way to the router, which will lead it back. -/
def Position.Returning : Position → Prop
  | .atNode .execute state =>
    state.business.phase ≠ .execute ∧ state.outcome = none ∧ Returns state.business
  | .atNode .decide state => state.outcome = none ∧ Returns state.business
  | .failed => True
  | _ => False

/-- The first route, if there is one yet, is `continue`. -/
def LedBack (after : Story) (position : Position) : Prop :=
  (Position.Returning position ∧ ∀ entry ∈ after, route? entry = none) ∨
    ∃ before rest, after = before ++ routed continueRoute :: rest ∧
      ∀ entry ∈ before, route? entry = none

end Entries

section Runs

variable [ActionFormat]

/-! ## What leads back to the planner -/

variable {state state' : ActionState} {updates : List (AgentUpdate SecretaryAgentUpdate)}
  {history story : Story} {run : Position × Story} {position position' : Position}

/-- What leads back to `plan` does not look at the working context but for its conflict. -/
theorem Returns.withContext {context : AgentWorkingContextV1} (h : Returns state.business)
    (hconf : context.conflict = (state.business.workingContext.getD {}).conflict) :
    Returns (withContext state context).business := by
  obtain ⟨receipt, toolKind, hrcp, hkind, hcases⟩ := h
  refine ⟨receipt, toolKind, hrcp, hkind, ?_⟩
  rcases hcases with ⟨result, hres, hrecd⟩ | hquery
  · refine .inl ⟨result, hres, ?_⟩
    unfold alreadyRecorded at hrecd ⊢
    cases hwork : state.business.workingContext with
    | none =>
      rw [hwork] at hrecd
      cases hrecd
    | some working =>
      rw [hwork] at hrecd hconf
      rw [show (ActionGraph.withContext state context).business.workingContext = some context from rfl,
        Option.bind_some, hconf]
      exact hrecd
  · exact .inr hquery

/-- Where the last receipt leads back to `plan`, `replan_decision` does not change that. -/
theorem Decision.returns (h : Decision state updates state') (hout : state.outcome = none)
    (hret : Returns state.business) : state'.outcome = none ∧ Returns state'.business := by
  cases h with
  | nothing => exact ⟨hout, hret⟩
  | conflict _ hfdg =>
    obtain ⟨receipt, -, hrcp, -, hres, hunr⟩ := finding_conflict hfdg
    obtain ⟨other, -, hoth, -, ⟨found, hfnd, hrecd⟩ | ⟨hnone, -⟩⟩ := hret
    · obtain rfl := Option.some.inj (hrcp.symm.trans hoth)
      obtain rfl := Option.some.inj (hres.symm.trans hfnd)
      rw [hunr] at hrecd
      cases hrecd
    · obtain rfl := Option.some.inj (hrcp.symm.trans hoth)
      rw [hres] at hnone
      cases hnone
  | repeated _ _ _ _ hmrg =>
    exact ⟨hout, hret.withContext (AgentWorkingContextV1.merge_replanEvidence_conflict hmrg)⟩
  | observed _ hfdg _ hnew hmrg =>
    -- the observation of the last receipt is there already
    obtain ⟨receipt, _, result, hrcp, -, hnone, -, rfl⟩ := finding_observation hfdg
    obtain ⟨other, -, hoth, -, ⟨found, hfnd, -⟩ | ⟨-, -, -, hhas⟩⟩ := hret
    · obtain rfl := Option.some.inj (hrcp.symm.trans hoth)
      rw [hfnd] at hnone
      cases hnone
    · obtain rfl := Option.some.inj (hrcp.symm.trans hoth)
      exact absurd hhas hnew

/-- Without a receipt there is nothing to decide. -/
theorem Decision.nothing_of_untouched (h : Decision state updates state')
    (hrcp : state.business.lastReceipt = none) : updates = [] ∧ state' = state := by
  cases h with
  | nothing => exact ⟨rfl, rfl⟩
  | conflict _ hfdg =>
    obtain ⟨receipt, -, hsome, -⟩ := finding_conflict hfdg
    rw [hrcp] at hsome
    cases hsome
  | repeated _ hfdg =>
    obtain ⟨receipt, -, -, hsome, -⟩ := finding_observation hfdg
    rw [hrcp] at hsome
    cases hsome
  | observed _ hfdg =>
    obtain ⟨receipt, -, -, hsome, -⟩ := finding_observation hfdg
    rw [hrcp] at hsome
    cases hsome

theorem select_untouched (hrcp : state.business.lastReceipt = none) :
    ReplanRouter.select state = finishRoute := by
  unfold ReplanRouter.select
  dsimp only
  rw [hrcp]
  split <;> rfl

theorem routeTarget_untouched (hrcp : state.business.lastReceipt = none) :
    routeTarget state = .respond := by
  unfold routeTarget
  rw [select_untouched hrcp]
  rfl

/-! ## Moves -/

theorem untouched_append {xs ys : Story} :
    Untouched (xs ++ ys) ↔ Untouched xs ∧ Untouched ys := List.forall_mem_append

/-- After an entry with a receipt. -/
theorem not_untouched_of_mem {receipt : SecretaryActionReceipt}
    (h : recorded (.actionCompleted receipt) ∈ history) : ¬ Untouched history := fun hunt =>
  nomatch hunt _ h

theorem begun_open (h : Begun run) : run.1.Open ∧ ReceiptKept run.1 run.2 := by
  obtain ⟨hnew⟩ := h
  obtain ⟨⟨⟩, -, hst⟩ := Except.bind_ok hnew
  cases hst
  refine ⟨⟨rfl, .inl rfl⟩, ?_⟩
  rintro state ⟨⟩
  exact ⟨fun _ => List.forall_mem_nil _, fun _ => rfl⟩

/-- A move that leaves the receipt as it is, and has none in its entries. -/
theorem ReceiptKept.keep (h : ReceiptKept position history) (hst : position.state? = some state)
    (hst' : position'.state? = some state')
    (hsame : state'.business.lastReceipt = state.business.lastReceipt) (hstory : Untouched story) :
    ReceiptKept position' (history ++ story) := by
  intro other hoth
  obtain rfl := Option.some.inj (hst'.symm.trans hoth)
  rw [hsame, h state hst, untouched_append]
  exact ⟨fun hunt => ⟨hunt, hstory⟩, fun hunt => hunt.1⟩

/-- A move with a dispatch that is over. -/
theorem Dispatch.receiptKept {proposal : SecretaryActionProposal} {after : Option ActionState}
    (h : Dispatch proposal state story after) (next : Stage) (history : Story) :
    ReceiptKept (proceed next after) (history ++ story) := by
  cases after with
  | none =>
    rintro state ⟨⟩
  | some state' =>
    rintro other ⟨⟩
    obtain ⟨pending, receipt, -, -, hmem, rfl⟩ := h.after
    refine ⟨nofun, fun hunt => ?_⟩
    exact absurd hunt (not_untouched_of_mem (List.mem_append_right history hmem))

theorem move_open (hmove : Move position story position') (hopen : position.Open)
    (hkept : ReceiptKept position history) :
    position'.Open ∧ ReceiptKept position' (history ++ story) := by
  cases hmove with
  | stopped => exact ⟨trivial, fun state hst => nomatch hst⟩
  | refused => exact ⟨trivial, fun state hst => nomatch hst⟩
  | noAction => exact ⟨trivial, hkept.keep rfl rfl rfl (by simp [Untouched, receipt?])⟩
  | @direct state context proposal story after runStep ids conversations _ _ _ hdisp =>
    refine ⟨?_, ?_⟩
    · cases after <;> trivial
    · have := hdisp.receiptKept .execute (history ++ [called runStep .plan,
        recorded (.workingContext (retrieval ids conversations)), recorded (.proposalAccepted proposal)])
      rwa [List.append_assoc] at this
  | @asked state context proposal next runStep ids conversations hmrg _ _ hnext =>
    have hconf := AgentWorkingContextV1.merge_initialRetrieval_conflict hmrg
    rcases hnext with rfl | rfl
    · refine ⟨⟨hopen.1, ?_⟩, hkept.keep rfl rfl rfl (by simp [Untouched, receipt?])⟩
      rcases hopen.2 with hnone | hret
      · exact .inl hnone
      · exact .inr (hret.withContext hconf)
    · exact ⟨trivial, fun state hst => nomatch hst⟩
  | idle => exact ⟨trivial, hkept.keep rfl rfl rfl (by simp [Untouched, receipt?])⟩
  | @carriedOut state proposal story after runStep _ _ hdisp =>
    refine ⟨?_, ?_⟩
    · cases after <;> trivial
    · have := hdisp.receiptKept .decide (history ++ [called runStep .execute])
      rwa [List.append_assoc] at this
  | @decided state state' updates runStep hdec =>
    refine ⟨?_, ?_⟩
    · unfold routeTarget
      split
      · next hsel =>
        obtain ⟨hout, hret⟩ := select_eq_continue.mp hsel
        exact ⟨hout, .inr hret⟩
      · trivial
    · refine hkept.keep rfl (Eq.refl (some state')) ?_ ?_
      · cases hdec <;> rfl
      · intro entry hent
        rcases List.mem_cons.mp hent with rfl | hent
        · rfl
        rcases List.mem_append.mp hent with hent | hent
        · rcases hdec.mem_updates hent with ⟨update, rfl⟩ | ⟨obs, rfl⟩ <;> rfl
        · rw [List.mem_singleton.mp hent]
          rfl
  | responded => exact ⟨trivial, hkept.keep rfl rfl rfl (by simp [Untouched, receipt?])⟩
  | drafted => exact ⟨trivial, hkept.keep rfl rfl rfl (by simp [Untouched, receipt?])⟩
  | resumed => exact ⟨trivial, hkept.keep rfl rfl rfl (by simp [Untouched, receipt?])⟩

/-! ## After a rejection with nothing carried out -/

theorem calm_called {runStep : RunStep} {stage : Stage} (h : stage ≠ .plan) :
    Calm (called runStep stage) where
  call := fun heq => h (Stage.id_injective (Option.some.inj heq))
  dispatch := rfl
  route := fun _ heq => nomatch heq
  draft := fun _ heq => nomatch heq

theorem move_ended (hmove : Move position story position') (hend : position.Ended) :
    (∀ entry ∈ story, Calm entry) ∧ position'.Ended := by
  cases hmove with
  | stopped => exact ⟨by simp, trivial⟩
  | refused runStep stage state =>
    refine ⟨?_, trivial⟩
    intro entry hent
    rw [List.mem_singleton.mp hent]
    refine calm_called ?_
    rintro rfl
    exact hend
  | noAction => exact absurd hend id
  | direct => exact absurd hend id
  | asked => exact absurd hend id
  | idle =>
    refine ⟨?_, hend.2⟩
    intro entry hent
    rw [List.mem_singleton.mp hent]
    exact calm_called (by decide)
  | carriedOut _ hph => exact absurd hph hend.1
  | @decided state state' updates runStep hdec =>
    obtain ⟨rfl, rfl⟩ := hdec.nothing_of_untouched hend.2
    rw [routeTarget_untouched hend.2, select_untouched hend.2]
    refine ⟨?_, hend⟩
    intro entry hent
    rcases List.mem_cons.mp hent with rfl | hent
    · exact calm_called (by decide)
    · rw [List.mem_singleton.mp hent]
      exact ⟨nofun, rfl, fun _ heq => (Option.some.inj heq).symm, nofun⟩
  | responded _ hout =>
    rw [hend.1] at hout
    cases hout
  | @drafted state context draft runStep hout hdraft =>
    refine ⟨?_, trivial⟩
    intro entry hent
    rcases List.mem_cons.mp hent with rfl | hent
    · exact calm_called (by decide)
    rcases List.mem_cons.mp hent with rfl | hent
    · refine ⟨nofun, rfl, nofun, ?_⟩
      rintro _ ⟨⟩
      rw [BuildResponseNode.receiptDraft, hend.2] at hdraft
      exact ⟨_, _, hdraft⟩
    · rw [List.mem_singleton.mp hent]
      exact ⟨nofun, rfl, nofun, nofun⟩
  | resumed => exact absurd hend id

/-! ## After a rejection with something carried out -/

theorem move_ledBack {after : Story} (hmove : Move position story position')
    (h : LedBack after position) : LedBack (after ++ story) position' := by
  rcases h with ⟨hretur, hnone⟩ | ⟨before, rest, rfl, hnone⟩
  · have hsil : ∀ {more : Story}, (∀ entry ∈ more, route? entry = none) →
        ∀ entry ∈ after ++ more, route? entry = none := fun hmore =>
      List.forall_mem_append.mpr ⟨hnone, hmore⟩
    cases hmove with
    | stopped => exact .inl ⟨trivial, hsil (by simp)⟩
    | refused => exact .inl ⟨trivial, hsil (by simp [route?])⟩
    | noAction => exact absurd hretur id
    | direct => exact absurd hretur id
    | asked => exact absurd hretur id
    | idle => exact .inl ⟨hretur.2, hsil (by simp [route?])⟩
    | carriedOut _ hph => exact absurd hph hretur.1
    | @decided state state' updates runStep hdec =>
      have hsel : ReplanRouter.select state' = continueRoute :=
        select_eq_continue.mpr (hdec.returns hretur.1 hretur.2)
      refine .inr ⟨after ++ called runStep .decide ::
        updates.map (Entry.applied (B := SecretaryAgentState)), [], ?_, hsil ?_⟩
      · rw [hsel, List.append_assoc, List.cons_append]
      · intro entry hent
        rcases List.mem_cons.mp hent with rfl | hent
        · rfl
        · rcases hdec.mem_updates hent with ⟨update, rfl⟩ | ⟨obs, rfl⟩ <;> rfl
    | responded => exact absurd hretur id
    | drafted => exact absurd hretur id
    | resumed => exact absurd hretur id
  · exact .inr ⟨before, rest ++ story, by rw [List.append_assoc, List.cons_append], hnone⟩

/-! ## Every run -/

/-- What the history says of a rejection, and where the run is. -/
def RejectionSeen (run : Position × Story) : Prop :=
  ∀ before input after, run.2 = before ++ recorded (.approvalResolved input) :: after →
    input.decision = .reject →
    (Untouched before → (∀ entry ∈ after, Calm entry) ∧ run.1.Ended) ∧
      (¬ Untouched before → LedBack after run.1)

/-- The moment of the rejection. -/
theorem rejected_now (hopen : Open state) (hkept : ReceiptKept (.waiting state) history) :
    (Untouched history →
      (Position.atNode .execute (withPhase state (SecretaryAgentState.phaseAfter .reject))).Ended) ∧
      (¬ Untouched history → LedBack []
        (.atNode .execute (withPhase state (SecretaryAgentState.phaseAfter .reject)))) := by
  constructor
  · intro hunt
    exact ⟨nofun, hopen.1, (hkept state rfl).mpr hunt⟩
  · intro htouc
    rcases hopen.2 with hnone | hret
    · exact absurd ((hkept state rfl).mp hnone) htouc
    · exact .inl ⟨⟨nofun, hopen.1, hret⟩, by simp⟩

theorem move_rejectionSeen (hmove : Move position story position') (hopen : position.Open)
    (hkept : ReceiptKept position history) (hseen : RejectionSeen (position, history)) :
    RejectionSeen (position', history ++ story) := by
  intro before input after hspl hrej
  rcases split_append hspl with ⟨rest, hhistory, rfl⟩ | ⟨middle, rfl, hstory⟩
  · obtain ⟨hunt, htouc⟩ := hseen before input rest hhistory hrej
    refine ⟨fun hbef => ?_, fun hbef => move_ledBack hmove (htouc hbef)⟩
    obtain ⟨hcalm, hend⟩ := hunt hbef
    obtain ⟨hcalm', hend'⟩ := move_ended hmove hend
    exact ⟨List.forall_mem_append.mpr ⟨hcalm, hcalm'⟩, hend'⟩
  · rcases hmove.decisions with hnone | ⟨state, pending, given, rfl, hpend, hid, rfl, rfl⟩
    · rw [hstory, List.filterMap_append, List.append_eq_nil_iff] at hnone
      cases hnone.2
    · cases middle with
      | nil =>
        cases hstory
        rw [hrej, List.append_nil]
        obtain ⟨hunt, htouc⟩ := rejected_now hopen hkept
        exact ⟨fun hbef => ⟨by simp, hunt hbef⟩, htouc⟩
      | cons entry middle => simp at hstory

theorem machine_rejectionSeen (h : Machine run) : RejectionSeen run := by
  have hall : (run.1.Open ∧ ReceiptKept run.1 run.2) ∧ RejectionSeen run := by
    refine h.invariant (fun run => (run.1.Open ∧ ReceiptKept run.1 run.2) ∧ RejectionSeen run) ?_ ?_
    · rintro _ hbeg
      refine ⟨begun_open hbeg, ?_⟩
      obtain ⟨-⟩ := hbeg
      intro before input after hspl
      simp at hspl
    · rintro _ _ ⟨⟨hopen, hkept⟩, hseen⟩ ⟨history, hmove⟩
      exact ⟨move_open hmove hopen hkept, move_rejectionSeen hmove hopen hkept hseen⟩
  exact hall.2

/-- In every run on action graphs, whatever the planner, the retriever, the executor and the memory
do: if nothing was carried out before the Owner rejects a proposal, then after the rejection the
planner is not called, nothing is dispatched, the route is `finish`, and the response says that
there was nothing to do. If something was carried out, the first route after the rejection is
`continue`, back to the planner. -/
theorem rejection_ends_run {W S : Type} {run : Recorded SecretaryAgentState W S}
    (h : ActionRuns run) {before after : Story} {input : SecretaryActionResumeInput}
    (hsplit : run.2 = before ++ recorded (.approvalResolved input) :: after)
    (hreject : input.decision = .reject) :
    (Untouched before → ∀ entry ∈ after, Calm entry) ∧
      (¬ Untouched before → (∀ entry ∈ after, route? entry = none) ∨
        ∃ first rest, after = first ++ routed continueRoute :: rest ∧
          ∀ entry ∈ first, route? entry = none) := by
  obtain ⟨position, -, hmachine⟩ := actionRuns_machine h
  obtain ⟨hunt, htouc⟩ := machine_rejectionSeen hmachine before input after hsplit hreject
  refine ⟨fun hbef => (hunt hbef).1, fun hbef => ?_⟩
  rcases htouc hbef with ⟨-, hnone⟩ | hled
  · exact .inl hnone
  · exact .inr hled

end Runs

section Scripted

open Scripted

/-- The history of a run, taken apart at the Owner's word. -/
theorem decision_split {history : Story} {n : ℕ} {input : SecretaryActionResumeInput}
    (h : (history[n]?).bind decision? = some input) :
    history = history.take n ++ recorded (.approvalResolved input) :: history.drop (n + 1) := by
  obtain ⟨entry, hent, hin⟩ := Option.bind_eq_some_iff.mp h
  obtain rfl := decision?_eq_some hin
  exact eq_split_of_getElem? hent

theorem untouched_of_all {history : Story}
    (h : history.all (fun entry => (receipt? entry).isNone) = true) : Untouched history :=
  fun entry hent => Option.isNone_iff_eq_none.mp (List.all_eq_true.mp h entry hent)

/-- A task is proposed first, and rejected: the run ends in six entries. -/
theorem rejection_ends_run_task :
    ∃ before after, (played taskScript [decision "p-task" .reject]).2 =
        before ++ recorded (.approvalResolved (decision "p-task" .reject)) :: after ∧
      after.length = 6 ∧ ∀ entry ∈ after, Calm entry := by
  have hruns := played_runs taskScript [decision "p-task" .reject]
  have hword : ((played taskScript [decision "p-task" .reject]).2[3]?).bind decision? =
      some (decision "p-task" .reject) := by decide +kernel
  have hnone : ((played taskScript [decision "p-task" .reject]).2.take 3).all
      (fun entry => (receipt? entry).isNone) = true := by decide +kernel
  have hlen : ((played taskScript [decision "p-task" .reject]).2.drop 4).length = 6 := by
    decide +kernel
  generalize played taskScript [decision "p-task" .reject] = run at *
  have hspl := decision_split hword
  exact ⟨_, _, hspl, hlen, (rejection_ends_run hruns hspl rfl).1 (untouched_of_all hnone)⟩

def statusThenTask : Scripted.Script where
  planned := [.proposal statusProposal, .proposal taskProposal, .noAction "好的"]
  receipts := [receipt "p-status" statusText]

/-- The planner is called once more after the Owner rejected the task. -/
theorem planner_called_after_rejection :
    ¬ ∀ {W S : Type} {run : Recorded SecretaryAgentState W S}, ActionRuns run →
      ∀ {before after : Story} {input : SecretaryActionResumeInput},
        run.2 = before ++ recorded (.approvalResolved input) :: after → input.decision = .reject →
        ∀ entry ∈ after, Calm entry := by
  intro hcl
  have hruns := played_runs statusThenTask [decision "p-task" .reject]
  have hword : ((played statusThenTask [decision "p-task" .reject]).2[13]?).bind decision? =
      some (decision "p-task" .reject) := by decide +kernel
  have hcall : ((played statusThenTask [decision "p-task" .reject]).2.drop 14).any
      (fun entry => call? entry == some planId) = true := by decide +kernel
  generalize played statusThenTask [decision "p-task" .reject] = run at *
  obtain ⟨entry, hent, hplan⟩ := List.any_eq_true.mp hcall
  exact (hcl hruns (decision_split hword) rfl entry hent).call (eq_of_beq hplan)

end Scripted

end ServerRS.ActionGraph
