import ServerRS.Lib.Folds
import ServerRS.ThreadSemantics.Extractor

/-!
# When validation accepts an extracted patch

The extractor passes over texts longer than `max_event_chars`, and validation refuses candidates longer
than 4000 characters. An extracted patch is in order but for that length
(`validate_extracted_iff`): every candidate cites its own event, no two markers fit one text, so a
batch gives at most one claim an event, and a derived resolution cites the last event of the batch.
-/

namespace ServerRS.ThreadSemantics

open Lib Lib.Except

/-! ## Texts -/

variable {text value : String} {starts : List String}

theorem trim_not_blank (h : (trim text).isEmpty = false) : isBlank (trim text) = false := by
  rw [isBlank, ← Bool.not_eq_true, List.all_eq_true]
  intro hall
  have hne : (text.toList.dropWhile Spool.isWhitespace).reverse.dropWhile Spool.isWhitespace ≠ [] := by
    intro hnil
    rw [trim, hnil] at h
    cases h
  have hhead := List.head_dropWhile_not Spool.isWhitespace hne
  rw [hall _ ?_] at hhead
  · cases hhead
  · rw [trim, String.toList_ofList, List.mem_reverse]
    exact List.head_mem hne

/-- The value of a marker is trimmed and not empty. -/
theorem explicitValue_not_blank (h : explicitValue text starts = some value) :
    isBlank value = false := by
  obtain ⟨start, -, h⟩ := List.exists_of_findSome?_eq_some h
  obtain ⟨hvl, hcond⟩ := Option.filter_eq_some_iff.mp h
  obtain ⟨rest, -, rfl⟩ := Option.map_eq_some_iff.mp hvl
  exact trim_not_blank (by simpa using hcond)

theorem requestOf_not_blank (h : requestOf text = some value) : isBlank value = false := by
  rw [requestOf] at h
  split at h
  · cases h
  · exact explicitValue_not_blank h

/-- The first characters of the markers. -/
def heads (starts : List String) : List (Option Char) := starts.map fun start => start.toList.head?

theorem head_of_explicitValue (hstarts : none ∉ heads starts)
    (h : explicitValue text starts = some value) : text.toList.head? ∈ heads starts := by
  obtain ⟨start, hsta, h⟩ := List.exists_of_findSome?_eq_some h
  obtain ⟨hvl, -⟩ := Option.filter_eq_some_iff.mp h
  obtain ⟨rest, hrest, -⟩ := Option.map_eq_some_iff.mp hvl
  obtain ⟨chars, hchars, -⟩ := Option.map_eq_some_iff.mp hrest
  obtain ⟨front, happend, hfront⟩ := List.dropPrefix?_eq_some_iff.mp hchars
  rw [eq_of_beq hfront] at happend
  have hhead : start.toList.head? ∈ heads starts := List.mem_map_of_mem hsta
  cases hlist : start.toList with
  | nil =>
    rw [hlist] at hhead
    exact absurd hhead hstarts
  | cons first others =>
    rw [happend, hlist]
    rw [hlist] at hhead
    exact hhead

theorem requestOf_head (h : requestOf text = some value) :
    text.toList.head? ∈ heads requestMarkers := by
  rw [requestOf] at h
  split at h
  · cases h
  · exact head_of_explicitValue (by decide) h

/-- The markers of the three kinds of claim begin with different characters. -/
theorem length_claimsOf_le (text : String) : (claimsOf text).length ≤ 1 := by
  have hapart : (∀ c ∈ heads requestMarkers, c ∉ heads objectionMarkers) ∧
      (∀ c ∈ heads requestMarkers, c ∉ heads confirmationMarkers) ∧
      ∀ c ∈ heads objectionMarkers, c ∉ heads confirmationMarkers := by
    decide
  unfold claimsOf
  cases hreq : requestOf text with
  | some value =>
    have hhead := requestOf_head hreq
    have hobj : objectionOf text = none := Option.eq_none_iff_forall_ne_some.mpr
      fun other hoth => hapart.1 _ hhead (head_of_explicitValue (by decide) hoth)
    have hcon : confirmationOf text = none := Option.eq_none_iff_forall_ne_some.mpr
      fun other hoth => hapart.2.1 _ hhead (head_of_explicitValue (by decide) hoth)
    simp [hobj, hcon]
  | none =>
    cases hobj : objectionOf text with
    | some value =>
      have hhead := head_of_explicitValue (by decide) hobj
      have hcon : confirmationOf text = none := Option.eq_none_iff_forall_ne_some.mpr
        fun other hoth => hapart.2.2 _ hhead (head_of_explicitValue (by decide) hoth)
      simp [hcon]
    | none => cases confirmationOf text <;> simp

theorem isRead_not_blank {event : ThreadSemanticEvent} {maxEventChars : ℕ}
    (h : event.isRead maxEventChars = true) : isBlank (trim event.normalizedText) = false := by
  unfold ThreadSemanticEvent.isRead at h
  refine trim_not_blank ?_
  simp only [Bool.not_eq_true', Bool.or_eq_false_iff] at h
  exact h.1.2

/-! ## Candidates -/

section

variable {ids : CandidateIds} {maxEventChars : ℕ} {batch : ClaimedThreadSemanticBatch}
  {seen seen' : List String} {source : SourceEventId} {event : ThreadSemanticEvent}

theorem requireSources_singleton (h : source ∈ batch.eventIds) :
    requireSources batch.eventIds [source] = .ok () := by
  rw [requireSources]
  simp only [and_then_eq_ok, require_ok]
  simp [h]

/-- A candidate that cites one event, in order but for its length. -/
theorem validateCandidate_iff {field text key : String} {confidenceBps : UInt16}
    (htext : isBlank text = false) (hconf : confidenceBps ≤ 10000)
    (hsrc : source ∈ batch.eventIds) :
    validateCandidate batch seen batch.threadId field text confidenceBps [source] key = .ok seen' ↔
      text.length ≤ 4000 ∧ key ∉ seen ∧ seen' = seen ++ [key] := by
  have hthr : requireThread batch.threadId batch.threadId = .ok () :=
    require_ok.mpr (decide_eq_true rfl)
  have hbound : requireConfidence confidenceBps = .ok () :=
    require_ok.mpr (decide_eq_true hconf)
  have hlen : requireText field text = .ok () ↔ text.length ≤ 4000 := by
    rw [requireText, requireTextWithMax, require_ok, htext, Bool.not_false, Bool.true_and,
      decide_eq_true_iff]
  rw [validateCandidate, and_then_eq_ok, and_then_eq_ok, and_then_eq_ok, and_then_eq_ok,
    and_then_eq_ok, hlen, require_ok, decide_eq_true_iff]
  constructor
  · rintro ⟨-, htext, -, -, hfr, h⟩
    exact ⟨htext, hfr, (Except.ok.inj h).symm⟩
  · rintro ⟨htext, hfr, rfl⟩
    exact ⟨hthr, htext, hbound, requireSources_singleton hsrc, hfr, rfl⟩

theorem observes_of_mem (h : event ∈ batch.events) : batch.observes event.actor = true :=
  List.any_eq_true.mpr ⟨event, h, decide_eq_true rfl⟩

theorem eventId_mem (h : event ∈ batch.events) :
    event.sourceEventId ∈ batch.eventIds := List.mem_map_of_mem h

def claimKey (claim : ThreadClaimCandidate) : String := "claim:" ++ claim.claimId.asStr

def decisionKey (decision : ThreadDecisionCandidate) : String :=
  "decision:" ++ decision.decisionId.asStr

def questionKey (question : OpenQuestionCandidate) : String :=
  "question:" ++ question.questionId.asStr

theorem validateClaim_iff {claim : ThreadClaimCandidate} (hev : event ∈ batch.events)
    (hthr : claim.threadId = batch.threadId) (hclaim : claim.claimant = event.actor)
    (hsrcs : claim.sourceEventIds = [event.sourceEventId])
    (hstmt : isBlank claim.statement = false) (hconf : claim.confidenceBps ≤ 10000) :
    validateClaim batch seen claim = .ok seen' ↔
      claim.statement.length ≤ 4000 ∧ claimKey claim ∉ seen ∧ seen' = seen ++ [claimKey claim] := by
  rw [validateClaim, hthr, hsrcs]
  constructor
  · intro h
    obtain ⟨middle, hcand, h⟩ := bind_ok h
    obtain ⟨_, -, h⟩ := bind_ok h
    cases h
    exact (validateCandidate_iff hstmt hconf (eventId_mem hev)).mp hcand
  · intro h
    refine bind_eq_of_ok
      ((validateCandidate_iff hstmt hconf (eventId_mem hev)).mpr h) ?_
    rw [hclaim, observes_of_mem hev]
    rfl

theorem validateDecision_iff {decision : ThreadDecisionCandidate} (hev : event ∈ batch.events)
    (hthr : decision.threadId = batch.threadId) (hsup : decision.supersedes = none)
    (hsrcs : decision.sourceEventIds = [event.sourceEventId])
    (hstmt : isBlank decision.statement = false) (hconf : decision.confidenceBps ≤ 10000) :
    validateDecision batch seen decision = .ok seen' ↔
      decision.statement.length ≤ 4000 ∧ decisionKey decision ∉ seen ∧
        seen' = seen ++ [decisionKey decision] := by
  rw [validateDecision, hthr, hsrcs, hsup]
  constructor
  · intro h
    obtain ⟨middle, hcand, h⟩ := bind_ok h
    obtain ⟨_, -, h⟩ := bind_ok h
    cases h
    exact (validateCandidate_iff hstmt hconf (eventId_mem hev)).mp hcand
  · intro h
    exact bind_eq_of_ok
      ((validateCandidate_iff hstmt hconf (eventId_mem hev)).mpr h) rfl

theorem validateQuestion_iff {question : OpenQuestionCandidate} (hev : event ∈ batch.events)
    (hthr : question.threadId = batch.threadId) (hraiser : question.raisedBy = event.actor)
    (hsrcs : question.sourceEventIds = [event.sourceEventId])
    (htext : isBlank question.question = false) (hconf : question.confidenceBps ≤ 10000) :
    validateQuestion batch seen question = .ok seen' ↔
      question.question.length ≤ 4000 ∧ questionKey question ∉ seen ∧
        seen' = seen ++ [questionKey question] := by
  rw [validateQuestion, hthr, hsrcs]
  constructor
  · intro h
    obtain ⟨middle, hcand, h⟩ := bind_ok h
    obtain ⟨_, -, h⟩ := bind_ok h
    cases h
    exact (validateCandidate_iff htext hconf (eventId_mem hev)).mp hcand
  · intro h
    refine bind_eq_of_ok ((validateCandidate_iff htext hconf (eventId_mem hev)).mpr h) ?_
    rw [hraiser, observes_of_mem hev]
    rfl

end

/-! ## Which events fit -/

def statementsOf (text : String) : List String :=
  (requestOf text).toList ++ (objectionOf text).toList ++ (confirmationOf text).toList ++
    (decisionOf text).toList

/-- What the extractor takes from the event is not longer than validation allows. -/
def ThreadSemanticEvent.Fits (maxEventChars : ℕ) (event : ThreadSemanticEvent) : Prop :=
  event.isRead maxEventChars = true →
    (∀ statement ∈ statementsOf (trim event.normalizedText), statement.length ≤ 4000) ∧
      (raisesQuestion (trim event.normalizedText) = true → (trim event.normalizedText).length ≤ 4000)

instance (maxEventChars : ℕ) (event : ThreadSemanticEvent) : Decidable (event.Fits maxEventChars) :=
  inferInstanceAs (Decidable (_ → _))

section

variable {ids : CandidateIds} {maxEventChars : ℕ} {batch : ClaimedThreadSemanticBatch}
  {event : ThreadSemanticEvent}

theorem mem_claims {draft : ThreadSemanticEvent × ClaimKind × UInt16 × String}
    (h : draft ∈ event.claims maxEventChars) :
    draft.1 = event ∧ isBlank draft.2.2.2 = false ∧ draft.2.2.1 ≤ 10000 := by
  have hconf : (9000 : UInt16) ≤ 10000 ∧ (9500 : UInt16) ≤ 10000 := by decide
  unfold ThreadSemanticEvent.claims at h
  split at h
  case isFalse => cases h
  obtain ⟨claim, hcl, rfl⟩ := List.mem_map.mp h
  simp only [claimsOf, List.mem_append, List.mem_map, Option.mem_toList] at hcl
  rcases hcl with (⟨statement, hstmt, rfl⟩ | ⟨statement, hstmt, rfl⟩) |
    ⟨statement, hstmt, rfl⟩
  · exact ⟨rfl, requestOf_not_blank hstmt, hconf.1⟩
  · exact ⟨rfl, explicitValue_not_blank hstmt, hconf.1⟩
  · exact ⟨rfl, explicitValue_not_blank hstmt, hconf.2⟩

theorem mem_decisions {draft : ThreadSemanticEvent × String}
    (h : draft ∈ event.decisions maxEventChars) : draft.1 = event ∧ isBlank draft.2 = false := by
  unfold ThreadSemanticEvent.decisions at h
  split at h
  case isFalse => cases h
  obtain ⟨statement, hstmt, rfl⟩ := List.mem_map.mp h
  exact ⟨rfl, explicitValue_not_blank (Option.mem_toList.mp hstmt)⟩

theorem mem_questions {asked : ThreadSemanticEvent} (h : asked ∈ event.questions maxEventChars) :
    asked = event ∧ isBlank (trim asked.normalizedText) = false := by
  unfold ThreadSemanticEvent.questions at h
  split at h
  case isFalse => cases h
  next hread =>
  cases List.mem_singleton.mp h
  exact ⟨rfl, isRead_not_blank (Bool.and_eq_true_iff.mp hread).1⟩

/-- An event fits when its candidates do. -/
theorem fits_iff : event.Fits maxEventChars ↔
    (∀ draft ∈ event.claims maxEventChars, draft.2.2.2.length ≤ 4000) ∧
      (∀ draft ∈ event.decisions maxEventChars, draft.2.length ≤ 4000) ∧
      ∀ asked ∈ event.questions maxEventChars, (trim asked.normalizedText).length ≤ 4000 := by
  unfold ThreadSemanticEvent.Fits ThreadSemanticEvent.claims ThreadSemanticEvent.decisions
    ThreadSemanticEvent.questions
  cases event.isRead maxEventChars with
  | false => simp
  | true =>
    rw [if_pos rfl, if_pos rfl, Bool.true_and]
    simp only [statementsOf, claimsOf, List.forall_mem_append, List.forall_mem_map, and_assoc]
    cases raisesQuestion (trim event.normalizedText) with
    | false => simp
    | true => simp

theorem length_flatMap_le {β : Type} {f : ThreadSemanticEvent → List β}
    (hf : ∀ event, (f event).length ≤ 1) (events : List ThreadSemanticEvent) :
    (events.flatMap f).length ≤ events.length := by
  induction events with
  | nil => exact Nat.le_refl 0
  | cons event events ih =>
    rw [List.flatMap_cons, List.length_append, List.length_cons]
    have := hf event
    omega

theorem length_claims_le (event : ThreadSemanticEvent) :
    (event.claims maxEventChars).length ≤ 1 := by
  unfold ThreadSemanticEvent.claims
  split
  · rw [List.length_map]
    exact length_claimsOf_le _
  · exact Nat.zero_le 1

theorem length_decisions_le (event : ThreadSemanticEvent) :
    (event.decisions maxEventChars).length ≤ 1 := by
  unfold ThreadSemanticEvent.decisions
  split
  · rw [List.length_map]
    exact Option.length_toList_le
  · exact Nat.zero_le 1

theorem length_questions_le (event : ThreadSemanticEvent) :
    (event.questions maxEventChars).length ≤ 1 := by
  unfold ThreadSemanticEvent.questions
  split
  · exact Nat.le_refl 1
  · exact Nat.zero_le 1

end

/-! ## The ids -/

/-- `Uuid::new_v4` does not draw an id twice. -/
structure CandidateIds.Distinct (ids : CandidateIds) : Prop where
  claims : Function.Injective ids.claimId
  decisions : Function.Injective ids.decisionId
  questions : Function.Injective ids.questionId

theorem append_left_inj {start a b : String} (h : start ++ a = start ++ b) : a = b := by
  have h := congrArg String.toList h
  rw [String.toList_append, String.toList_append] at h
  exact String.toList_inj.mp (List.append_cancel_left h)

section

variable {ids : CandidateIds} {maxEventChars : ℕ} {batch : ClaimedThreadSemanticBatch}

theorem claimKeys_nodup (hids : ids.Distinct) :
    ((extract ids maxEventChars batch).claims.map claimKey).Nodup := by
  have hkey : Function.Injective fun n => "claim:" ++ (ids.claimId n).asStr := fun n m h =>
    hids.claims (congrArg ThreadClaimId.mk (append_left_inj h))
  rw [extract_holds.claimRows]
  exact nodup_mapIdx_key hkey fun n draft => rfl

theorem decisionKeys_nodup (hids : ids.Distinct) :
    ((extract ids maxEventChars batch).decisions.map decisionKey).Nodup := by
  have hkey : Function.Injective fun n => "decision:" ++ (ids.decisionId n).asStr := fun n m h =>
    hids.decisions (congrArg ThreadDecisionId.mk (append_left_inj h))
  rw [extract_holds.decisionRows]
  exact nodup_mapIdx_key hkey fun n draft => rfl

theorem questionKeys_nodup (hids : ids.Distinct) :
    ((extract ids maxEventChars batch).questions.map questionKey).Nodup := by
  have hkey : Function.Injective fun n => "question:" ++ (ids.questionId n).asStr := fun n m h =>
    hids.questions (congrArg OpenQuestionId.mk (append_left_inj h))
  rw [extract_holds.questionRows]
  exact nodup_mapIdx_key hkey fun n draft => rfl

theorem decisionKey_ne_claimKey (decision : ThreadDecisionCandidate)
    (claim : ThreadClaimCandidate) : decisionKey decision ≠ claimKey claim := by
  intro h
  have hhead := congrArg (fun key : String => key.toList.head?) h
  simp [decisionKey, claimKey] at hhead

theorem questionKey_ne (question : OpenQuestionCandidate) :
    (∀ claim : ThreadClaimCandidate, questionKey question ≠ claimKey claim) ∧
      ∀ decision : ThreadDecisionCandidate, questionKey question ≠ decisionKey decision := by
  constructor
  · intro claim h
    have hhead := congrArg (fun key : String => key.toList.head?) h
    simp [questionKey, claimKey] at hhead
  · intro decision h
    have hhead := congrArg (fun key : String => key.toList.head?) h
    simp [questionKey, decisionKey] at hhead

/-! ## The candidates of a patch -/

variable {seen : List String} {patch : ThreadSemanticPatch} {change : ThreadLifecycleChange}

theorem validateClaims_iff (hids : ids.Distinct) :
    (extract ids maxEventChars batch).claims.foldlM (validateClaim batch) [] = .ok seen ↔
      (∀ event ∈ batch.events, ∀ draft ∈ event.claims maxEventChars, draft.2.2.2.length ≤ 4000) ∧
        seen = (extract ids maxEventChars batch).claims.map claimKey := by
  have hstep : ∀ claim ∈ (extract ids maxEventChars batch).claims, ∀ seen seen',
      validateClaim batch seen claim = .ok seen' ↔ claim.statement.length ≤ 4000 ∧
        claimKey claim ∉ seen ∧ seen' = seen ++ [claimKey claim] := by
    intro claim hcl seen seen'
    rw [extract_holds.claimRows] at hcl
    obtain ⟨n, hn, rfl⟩ := List.mem_mapIdx.mp hcl
    obtain ⟨event, hev, hdraft⟩ := List.mem_flatMap.mp (List.getElem_mem hn)
    obtain ⟨rfl, hblank, hconf⟩ := mem_claims hdraft
    exact validateClaim_iff hev rfl rfl rfl hblank hconf
  have hfits : (∀ claim ∈ (extract ids maxEventChars batch).claims, claim.statement.length ≤ 4000) ↔
      ∀ event ∈ batch.events, ∀ draft ∈ event.claims maxEventChars, draft.2.2.2.length ≤ 4000 := by
    rw [extract_holds.claimRows]
    refine (forall_mem_mapIdx fun n draft => ?_).trans List.forall_mem_flatMap
    exact Iff.rfl
  rw [foldlM_collect hstep, hfits]
  constructor
  · rintro ⟨hall, -, -, hseen⟩
    exact ⟨hall, hseen⟩
  · rintro ⟨hall, hseen⟩
    exact ⟨hall, claimKeys_nodup hids, fun key _ => List.not_mem_nil, hseen⟩

theorem validateDecisions_iff (hids : ids.Distinct) :
    (extract ids maxEventChars batch).decisions.foldlM (validateDecision batch)
        ((extract ids maxEventChars batch).claims.map claimKey) = .ok seen ↔
      (∀ event ∈ batch.events, ∀ draft ∈ event.decisions maxEventChars, draft.2.length ≤ 4000) ∧
        seen = (extract ids maxEventChars batch).claims.map claimKey ++
          (extract ids maxEventChars batch).decisions.map decisionKey := by
  have hstep : ∀ decision ∈ (extract ids maxEventChars batch).decisions, ∀ seen seen',
      validateDecision batch seen decision = .ok seen' ↔ decision.statement.length ≤ 4000 ∧
        decisionKey decision ∉ seen ∧ seen' = seen ++ [decisionKey decision] := by
    intro decision hdec seen seen'
    rw [extract_holds.decisionRows] at hdec
    obtain ⟨n, hn, rfl⟩ := List.mem_mapIdx.mp hdec
    obtain ⟨event, hev, hdraft⟩ := List.mem_flatMap.mp (List.getElem_mem hn)
    obtain ⟨rfl, hblank⟩ := mem_decisions hdraft
    have hconf : (9500 : UInt16) ≤ 10000 := by decide
    exact validateDecision_iff hev rfl rfl rfl hblank hconf
  have hfits : (∀ decision ∈ (extract ids maxEventChars batch).decisions,
        decision.statement.length ≤ 4000) ↔
      ∀ event ∈ batch.events, ∀ draft ∈ event.decisions maxEventChars, draft.2.length ≤ 4000 := by
    rw [extract_holds.decisionRows]
    refine (forall_mem_mapIdx fun n draft => ?_).trans List.forall_mem_flatMap
    exact Iff.rfl
  rw [foldlM_collect hstep, hfits]
  constructor
  · rintro ⟨hall, -, -, hseen⟩
    exact ⟨hall, hseen⟩
  · rintro ⟨hall, hseen⟩
    refine ⟨hall, decisionKeys_nodup hids, fun key hkey hcl => ?_, hseen⟩
    obtain ⟨decision, -, rfl⟩ := List.mem_map.mp hkey
    obtain ⟨claim, -, hsame⟩ := List.mem_map.mp hcl
    exact decisionKey_ne_claimKey decision claim hsame.symm

theorem validateQuestions_iff (hids : ids.Distinct) :
    (extract ids maxEventChars batch).questions.foldlM (validateQuestion batch)
        ((extract ids maxEventChars batch).claims.map claimKey ++
          (extract ids maxEventChars batch).decisions.map decisionKey) = .ok seen ↔
      (∀ event ∈ batch.events, ∀ asked ∈ event.questions maxEventChars,
          (trim asked.normalizedText).length ≤ 4000) ∧
        seen = (extract ids maxEventChars batch).claims.map claimKey ++
          (extract ids maxEventChars batch).decisions.map decisionKey ++
          (extract ids maxEventChars batch).questions.map questionKey := by
  have hstep : ∀ question ∈ (extract ids maxEventChars batch).questions, ∀ seen seen',
      validateQuestion batch seen question = .ok seen' ↔ question.question.length ≤ 4000 ∧
        questionKey question ∉ seen ∧ seen' = seen ++ [questionKey question] := by
    intro question hqn seen seen'
    rw [extract_holds.questionRows] at hqn
    obtain ⟨n, hn, rfl⟩ := List.mem_mapIdx.mp hqn
    obtain ⟨event, hev, hasked⟩ := List.mem_flatMap.mp (List.getElem_mem hn)
    obtain ⟨rfl, hblank⟩ := mem_questions hasked
    have hconf : (9000 : UInt16) ≤ 10000 := by decide
    exact validateQuestion_iff hev rfl rfl rfl hblank hconf
  have hfits : (∀ question ∈ (extract ids maxEventChars batch).questions,
        question.question.length ≤ 4000) ↔
      ∀ event ∈ batch.events, ∀ asked ∈ event.questions maxEventChars,
        (trim asked.normalizedText).length ≤ 4000 := by
    rw [extract_holds.questionRows]
    refine (forall_mem_mapIdx fun n draft => ?_).trans List.forall_mem_flatMap
    exact Iff.rfl
  rw [foldlM_collect hstep, hfits]
  constructor
  · rintro ⟨hall, -, -, hseen⟩
    exact ⟨hall, hseen⟩
  · rintro ⟨hall, hseen⟩
    refine ⟨hall, questionKeys_nodup hids, fun key hkey hold => ?_, hseen⟩
    obtain ⟨question, -, rfl⟩ := List.mem_map.mp hkey
    rcases List.mem_append.mp hold with hold | hold
    · obtain ⟨claim, -, hsame⟩ := List.mem_map.mp hold
      exact (questionKey_ne question).1 claim hsame.symm
    · obtain ⟨decision, -, hsame⟩ := List.mem_map.mp hold
      exact (questionKey_ne question).2 decision hsame.symm

/-! ## The derived resolution -/

theorem validateResolution_derived (hkey : batch.eventIds.Nodup) {event : ThreadSemanticEvent}
    (hmem : event ∈ batch.events) (hqns : patch.questions = [])
    (hopen : batch.openQuestionIds = []) {evidence : ThreadResolutionEvidenceKind}
    (hevi : classifyThreadResolutionEvidence event.normalizedText = some evidence)
    (hpres : event.contentOmitted = false) :
    validateResolution batch patch {
      changeId := ids.changeId
      threadId := batch.threadId
      fromStatus := batch.currentStatus
      toStatus := .resolved
      authority := if event.role = .ownerCommand then .ownerConfirmed else .evidenceDerived
      resolutionEvidence := some evidence
      reason := evidence.asReasonCode
      sourceEventIds := [event.sourceEventId] } = .ok () := by
  have hcited : citedEvents batch [event.sourceEventId] = some [event] := by
    rw [citedEvents, List.mapM_cons, find?_key hkey hmem]
    rfl
  unfold validateResolution
  dsimp only
  rw [hcited, hopen, hqns, and_then_eq_ok, and_then_eq_ok, and_then_eq_ok, and_then_eq_ok]
  refine ⟨require_ok.mpr ?_, rfl, require_ok.mpr (decide_eq_true rfl), require_ok.mpr ?_,
    require_ok.mpr ?_⟩
  · split <;> decide
  · simp [hpres, hevi]
  · by_cases hrole : event.role = .ownerCommand <;> simp [hrole]

/-- A resolution that was derived passes, in a patch without questions. -/
theorem validateChange_derived (hkey : batch.eventIds.Nodup) (hqns : patch.questions = [])
    (h : deriveEvidenceBasedResolution ids batch = some change) :
    validateChange batch patch change = .ok () := by
  unfold deriveEvidenceBasedResolution at h
  split at h
  · cases h
  next hrdy =>
  obtain ⟨event, hlast, h⟩ := Option.bind_eq_some_iff.mp h
  split at h
  · cases h
  next hpres =>
  obtain ⟨evidence, hevi, rfl⟩ := Option.map_eq_some_iff.mp h
  have hmem := List.mem_of_getLast? hlast
  have hopen : batch.openQuestionIds = [] ∧
      (batch.currentStatus, ThreadStatus.resolved) ∈ transitions := by
    simp only [Bool.or_eq_true, Bool.not_eq_true', not_or, Bool.not_eq_false, List.isEmpty_iff,
      decide_eq_true_iff] at hrdy
    refine ⟨hrdy.2, ?_⟩
    rcases hrdy.1 with (hstat | hstat) | hstat <;> rw [hstat] <;> decide
  have htr : validateThreadTransition batch.currentStatus .resolved = .ok () := by
    rw [validateThreadTransition]
    split
    · rfl
    · exact if_pos hopen.2
  have hrsn : requireTextWithMax "lifecycle.reason" evidence.asReasonCode 1000 = .ok () := by
    cases evidence <;> decide
  unfold validateChange
  rw [and_then_eq_ok, and_then_eq_ok, and_then_eq_ok, and_then_eq_ok, and_then_eq_ok]
  refine ⟨require_ok.mpr (decide_eq_true rfl), require_ok.mpr (decide_eq_true rfl), htr,
    hrsn, requireSources_singleton (eventId_mem hmem), ?_⟩
  dsimp only
  rw [if_pos rfl, and_then_eq_ok]
  refine ⟨?_, if_neg (by decide)⟩
  exact validateResolution_derived hkey hmem hqns hopen.1 hevi (by simpa using hpres)

/-! ## The patch -/

theorem extractedPatch_eq : extractedPatch ids maxEventChars batch =
    { extract ids maxEventChars batch with
      lifecycleChange := (extractedPatch ids maxEventChars batch).lifecycleChange } := by
  unfold extractedPatch
  dsimp only
  split <;> rfl

/-- A patch changes the status by a derived resolution only. -/
theorem extractedPatch_change
    (h : (extractedPatch ids maxEventChars batch).lifecycleChange = some change) :
    (extract ids maxEventChars batch).questions = [] ∧
      deriveEvidenceBasedResolution ids batch = some change := by
  unfold extractedPatch at h
  dsimp only at h
  split at h
  · next hroom =>
    rw [Bool.and_eq_true, List.isEmpty_iff] at hroom
    exact ⟨hroom.2, h⟩
  · rw [extract_holds.lifecycle] at h
    cases h

theorem length_extract_le :
    (extract ids maxEventChars batch).claims.length ≤ batch.events.length ∧
      (extract ids maxEventChars batch).decisions.length ≤ batch.events.length ∧
      (extract ids maxEventChars batch).questions.length ≤ batch.events.length := by
  rw [extract_holds.claimRows, extract_holds.decisionRows, extract_holds.questionRows,
    List.length_mapIdx, List.length_mapIdx, List.length_mapIdx]
  exact ⟨length_flatMap_le length_claims_le _, length_flatMap_le length_decisions_le _,
    length_flatMap_le length_questions_le _⟩

/-- The patch of a batch passes when every event fits. -/
theorem validate_extracted_iff (hids : ids.Distinct) (hkey : batch.eventIds.Nodup)
    (hlen : batch.events.length ≤ maxItemsPerKind) :
    validateSemanticPatch batch (extractedPatch ids maxEventChars batch) = .ok () ↔
      ∀ event ∈ batch.events, event.Fits maxEventChars := by
  have hspl : (∀ event ∈ batch.events, event.Fits maxEventChars) ↔
      (∀ event ∈ batch.events, ∀ draft ∈ event.claims maxEventChars, draft.2.2.2.length ≤ 4000) ∧
      (∀ event ∈ batch.events, ∀ draft ∈ event.decisions maxEventChars, draft.2.length ≤ 4000) ∧
      ∀ event ∈ batch.events, ∀ asked ∈ event.questions maxEventChars,
        (trim asked.normalizedText).length ≤ 4000 := by
    simp only [fits_iff, forall_and]
  rw [extractedPatch_eq, hspl]
  unfold validateSemanticPatch
  dsimp only
  constructor
  · intro h
    obtain ⟨_, -, h⟩ := bind_ok h
    obtain ⟨seen, hcla, h⟩ := bind_ok h
    obtain ⟨hclaimsFit, rfl⟩ := (validateClaims_iff hids).mp hcla
    obtain ⟨seen, hdecs, h⟩ := bind_ok h
    obtain ⟨hdecisionsFit, rfl⟩ := (validateDecisions_iff hids).mp hdecs
    obtain ⟨seen, hqns, h⟩ := bind_ok h
    exact ⟨hclaimsFit, hdecisionsFit, ((validateQuestions_iff hids).mp hqns).1⟩
  · rintro ⟨hcla, hdecs, hqns⟩
    obtain ⟨hfew, hfewDecisions, hfewQuestions⟩ :=
      @length_extract_le ids maxEventChars batch
    refine bind_eq_of_ok (a := ()) (require_ok.mpr ?_) ?_
    · simp only [Bool.and_eq_true, decide_eq_true_iff]
      exact ⟨⟨hfew.trans hlen, hfewDecisions.trans hlen⟩, hfewQuestions.trans hlen⟩
    refine bind_eq_of_ok ((validateClaims_iff hids).mpr ⟨hcla, rfl⟩) ?_
    refine bind_eq_of_ok ((validateDecisions_iff hids).mpr ⟨hdecs, rfl⟩) ?_
    refine bind_eq_of_ok ((validateQuestions_iff hids).mpr ⟨hqns, rfl⟩) ?_
    cases hchg : (extractedPatch ids maxEventChars batch).lifecycleChange with
    | none => rfl
    | some change =>
      obtain ⟨hnone, hderived⟩ := extractedPatch_change hchg
      exact validateChange_derived hkey hnone hderived

end

end ServerRS.ThreadSemantics
