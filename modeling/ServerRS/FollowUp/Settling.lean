import ServerRS.FollowUp.Repeats

/-!
# Materialised and resolved by one rule

A scan makes an expectation of a question when one of its messages waits for an answer
(`Store.waitingSources`), and resolves an expectation when one of the messages of its question has an
answer, whichever it is (`Store.isSettled`). A question with an answered message and one that waits is
materialised by one scan and resolved by the next (`resolved_before_the_answer`).

The two statements follow one rule exactly when the limit has room for all questions and all settled
expectations, no new question has an answered message, and none is answered later before the messages
that wait (`oneRule_iff`).
-/

namespace ServerRS.FollowUp

open Lib

/-! ## What a scan should do -/

/-- The scan as a transaction: one that fails leaves the store alone. -/
def Store.scanResponses (uuid : Purpose → Uuid) (clock : Nat) (params : ScanParams) (s : Store) :
    Store :=
  match scanResponseExpectations uuid clock params s with
  | .ok (t, _) => t
  | .error _ => s

namespace Store

variable (params : ScanParams) (s : Store)

/-- The thread is neither resolved nor closed. -/
def IsActive (threadId : Uuid) : Prop :=
  ∃ thread, s.threads.find? (fun thread => decide (thread.threadId = threadId)) = some thread ∧
    thread.status ≠ .resolved ∧ thread.status ≠ .closed

/-- The messages that wait at a scan. -/
def waiting (question : OpenQuestion) : List SourceEvent :=
  s.waitingSources params.responseTimeoutSecs params.horizon question

/-- The rows of the questions that a scan may materialise. -/
def eligible : List OverdueQuestion :=
  s.eligibleQuestions params.responseTimeoutSecs params.horizon

/-- The expectations that a scan may resolve. -/
def settledRows : List ResponseExpectation :=
  s.expectations.filter fun row => row.expectationStatus = .active && s.isSettled row

/-- The question is no longer open. -/
def isOver (questionId : Uuid) : Bool :=
  s.questions.any fun question => question.questionId = questionId && question.status ≠ .«open»

/-- A question of the scan has a row, and no expectation yet. -/
def IsNew (question : OpenQuestion) (row : OverdueQuestion) : Prop :=
  s.overdue params.responseTimeoutSecs params.horizon question = some row ∧
    s.hasExpectation question.questionId = false

end Store

/-- A scan of `s`, and a later one of `later`. -/
structure Scans where
  uuid : Nat → Purpose → Uuid
  k : Nat
  clock : Nat
  params : ScanParams
  s : Store
  laterUuid : Nat → Purpose → Uuid
  laterK : Nat
  laterClock : Nat
  laterParams : ScanParams
  later : Store

namespace Scans

variable (scans : Scans)

/-- After the first scan. -/
def scanned : Store := scans.s.scanResponses (scans.uuid scans.k) scans.clock scans.params

def laterScanned : Store :=
  scans.later.scanResponses (scans.laterUuid scans.laterK) scans.laterClock scans.laterParams

/-- The bounds of the scans, the keys of the tables, and identifiers that are not in use. -/
structure Regular : Prop where
  valid : scans.params.Valid
  keyed : scans.s.Keyed
  threads : (scans.s.threads.map EventThread.threadId).Nodup
  fresh : NeverRepeats scans.uuid scans.s.uuids
  laterValid : scans.laterParams.Valid
  laterKeyed : scans.later.Keyed
  laterFresh : NeverRepeats scans.laterUuid scans.later.uuids

/-- An open question of an active thread gets its expectation when a message waits; a new expectation
is resolved later only when its question is over, its thread is finished, or a message that waited
has been answered; and a second scan changes nothing. -/
structure OneRule : Prop where
  materialised : ∀ question ∈ scans.s.questions, question.status = .«open» →
    scans.s.IsActive question.threadId →
      (scans.scanned.hasExpectation question.questionId = true ↔
        scans.s.hasExpectation question.questionId = true ∨ scans.s.waiting scans.params question ≠ [])
  resolved : ∀ question ∈ scans.s.questions,
    scans.s.hasExpectation question.questionId = false →
    scans.scanned.hasExpectation question.questionId = true →
    ∀ kept ∈ scans.later.expectations, kept.sourceQuestionId = question.questionId →
    kept.threadId = question.threadId → kept.expectationStatus = .active →
    kept.finish scans.laterClock .resolved ∈ scans.laterScanned.expectations →
      scans.later.isOver question.questionId = true ∨ scans.later.isFinished question.threadId = true ∨
        ∃ asked ∈ scans.s.waiting scans.params question,
          scans.later.isAnswered question.threadId asked = true
  repeated : ∀ clock, scans.scanned.scanResponses (scans.uuid (scans.k + 1)) clock scans.params =
    scans.scanned

/-- Nothing gets in the way of the rule. -/
structure Undisturbed : Prop where
  room : ∀ row ∈ scans.s.eligible scans.params, scans.s.hasExpectation row.questionId = false →
    rank OverdueQuestion.byOccurrence (scans.s.eligible scans.params) row < scans.params.limit
  backlog : scans.s.backlog ≤ scans.params.limit
  unanswered : ∀ question ∈ scans.s.questions, ∀ row, scans.s.IsNew scans.params question row →
    ∀ asked ∈ scans.s.sourcesOf question.questionId,
      scans.s.isAnswered question.threadId asked = false
  later : ∀ question ∈ scans.s.questions, ∀ row, scans.s.IsNew scans.params question row →
    ∀ kept ∈ scans.later.settledRows, kept.sourceQuestionId = question.questionId →
    kept.threadId = question.threadId →
    rank ResponseExpectation.byUpdate scans.later.settledRows kept < scans.laterParams.limit →
    scans.later.isOver question.questionId = false →
    scans.later.isFinished question.threadId = false →
      ∃ asked ∈ scans.s.waiting scans.params question,
        scans.later.isAnswered question.threadId asked = true

end Scans

variable {uuid : Nat → Purpose → Uuid} {old : List Uuid} {params : ScanParams} {s t : Store}
  {k clock : Nat}

/-! ## The window of a statement -/

section Window

variable {α : Type} {key : α → Nat ×ₗ Uuid} {limit : Nat} {cond : α → Bool} {set : α → α}
  {rows : List α} {row : α}

theorem chosen_iff (hkey : (rows.map fun row => (ofLex (key row)).2).Nodup) (hrow : row ∈ rows) :
    chosen key limit cond rows row = true ↔
      cond row = true ∧ rank key (rows.filter cond) row < limit := by
  have hkeys : ((rows.filter cond).map key).Nodup := by
    refine List.Nodup.of_map (fun pair => (ofLex pair).2) ?_
    rw [List.map_map]
    exact (List.filter_sublist.map _).nodup hkey
  have hmem : chosen key limit cond rows row = true ↔
      row ∈ firstRows key limit (rows.filter cond) := by
    rw [chosen, List.contains_iff_mem, List.mem_map]
    constructor
    · rintro ⟨other, hoth, heq⟩
      have hin := (List.mem_filter.mp (mem_of_mem_firstRows hoth)).1
      rwa [← eq_of_key_eq hkey hin hrow heq]
    · intro h
      exact ⟨row, h, rfl⟩
  rw [hmem, mem_firstRows hkeys, List.mem_filter, and_iff_right hrow]

/-- A window with room for all rows clears them all, and only such a one. -/
theorem updateFirst_clears (hkey : (rows.map fun row => (ofLex (key row)).2).Nodup)
    (hset : ∀ row, cond (set row) = false) :
    (∀ row ∈ updateFirst key limit cond set rows, cond row = false) ↔ rows.countP cond ≤ limit := by
  have hchos : (∀ row ∈ updateFirst key limit cond set rows, cond row = false) ↔
      ∀ row ∈ rows.filter cond, rank key (rows.filter cond) row < limit := by
    constructor
    · intro h row hrow
      obtain ⟨hmem, hcond⟩ := List.mem_filter.mp hrow
      by_contra hbehind
      have hleft : chosen key limit cond rows row = false := by
        rw [Bool.eq_false_iff]
        exact fun hin => hbehind ((chosen_iff hkey hmem).mp hin).2
      have hstays : row ∈ updateFirst key limit cond set rows :=
        mem_updateWhere.mpr ⟨row, hmem, by rw [← chosen, hleft]; rfl⟩
      rw [h row hstays] at hcond
      cases hcond
    · intro h row hrow
      obtain ⟨before, hbef, rfl⟩ := List.mem_map.mp hrow
      split
      · exact hset before
      · next hout =>
        rw [Bool.eq_false_iff]
        intro hcond
        exact hout ((chosen_iff hkey hbef).mpr
          ⟨hcond, h before (List.mem_filter.mpr ⟨hbef, hcond⟩)⟩)
  have hkeys : ((rows.filter cond).map key).Nodup := by
    refine List.Nodup.of_map (fun pair => (ofLex pair).2) ?_
    rw [List.map_map]
    exact (List.filter_sublist.map _).nodup hkey
  have hperm := firstRows_perm (n := limit) hkeys
  have hlen : (firstRows key limit (rows.filter cond)).length =
      min limit (rows.countP cond) := by
    rw [firstRows, List.length_take, List.countP_eq_length_filter, perm_sorted.length_eq]
  rw [hchos]
  constructor
  · intro h
    rw [List.filter_eq_self.mpr fun row hrow => decide_eq_true (h row hrow)] at hperm
    rw [hperm.length_eq, ← List.countP_eq_length_filter] at hlen
    omega
  · intro hroom row hrow
    rw [Nat.min_eq_right hroom, hperm.length_eq, List.countP_eq_length_filter] at hlen
    have hall := (List.length_filter_eq_length_iff.mp hlen) row hrow
    exact of_decide_eq_true hall

end Window

/-! ## The rows of a scan -/

variable {question : OpenQuestion}

theorem overdue_eq_some {timeout horizon : Int} {row : OverdueQuestion} :
    s.overdue timeout horizon question = some row ↔ question.status = .«open» ∧ ∃ thread,
      s.threads.find? (fun thread => decide (thread.threadId = question.threadId)) = some thread ∧
      (thread.status ≠ .resolved ∧ thread.status ≠ .closed) ∧ ∃ first,
        ((s.waitingSources timeout horizon question).map SourceEvent.occurredAtUnixSecs).min? =
          some first ∧
        row = ⟨thread.accountId, question.questionId, question.threadId, first⟩ := by
  rw [Store.overdue]
  split
  · next hover => exact ⟨fun h => absurd h (by simp), fun h => absurd h.1 hover⟩
  · next hopen =>
    rw [and_iff_right (not_not.mp hopen)]
    simp only [Option.bind_eq_bind, Option.bind_eq_some_iff]
    refine exists_congr fun thread => and_congr_right fun _ => ?_
    split
    · next hover =>
      refine ⟨fun h => absurd h (by simp), fun h => ?_⟩
      rcases hover with hover | hover
      · exact absurd hover h.1.1
      · exact absurd hover h.1.2
    · next hactv =>
      rw [and_iff_right (not_or.mp hactv)]
      simp only [Option.bind_eq_some_iff]
      refine exists_congr fun first => and_congr_right fun _ => ?_
      simp [eq_comm, pure]

/-- An open question of an active thread has a row when a message waits. -/
theorem exists_overdue_iff (hopen : question.status = .«open»)
    (hactv : s.IsActive question.threadId) :
    (∃ row, s.overdue params.responseTimeoutSecs params.horizon question = some row) ↔
      s.waiting params question ≠ [] := by
  obtain ⟨thread, hthr, hstat⟩ := hactv
  simp only [overdue_eq_some]
  constructor
  · rintro ⟨row, -, thread, -, -, first, hfst, -⟩ hnone
    rw [Store.waiting] at hnone
    rw [hnone] at hfst
    cases hfst
  · intro hne
    have hsome : ((s.waiting params question).map SourceEvent.occurredAtUnixSecs).min?.isSome := by
      rw [Option.isSome_iff_ne_none]
      simpa using hne
    obtain ⟨first, hfst⟩ := Option.isSome_iff_exists.mp hsome
    exact ⟨_, hopen, thread, hthr, hstat, first, hfst, rfl⟩

theorem mem_eligible {row : OverdueQuestion} : row ∈ s.eligible params ↔ ∃ question ∈ s.questions,
    s.overdue params.responseTimeoutSecs params.horizon question = some row :=
  List.mem_filterMap

theorem Store.IsNew.active {row : OverdueQuestion} (h : s.IsNew params question row) :
    question.status = .«open» ∧
      s.IsActive question.threadId ∧ s.waiting params question ≠ [] := by
  obtain ⟨hopen, thread, hthr, hstat, -⟩ := overdue_eq_some.mp h.1
  have hactv : s.IsActive question.threadId := ⟨thread, hthr, hstat⟩
  exact ⟨hopen, hactv, (exists_overdue_iff hopen hactv).mp ⟨row, h.1⟩⟩

/-- The expectations that a scan makes. -/
def newRows (uuid : Purpose → Uuid) (clock : Nat) (params : ScanParams) (s : Store) :
    List ResponseExpectation :=
  ((firstRows OverdueQuestion.byOccurrence params.limit (s.eligible params)).filter fun question =>
    !s.hasExpectation question.questionId).map
      (responseExpectation uuid clock params.responseTimeoutSecs)

theorem hasExpectation_resolve (questionId : Uuid) :
    (s.resolveExpectations clock params.limit).hasExpectation questionId =
      s.hasExpectation questionId :=
  any_updateWhere fun _ => rfl

theorem readExpectations_eq (hfr : NeverRepeats uuid old) (h : Named uuid old s) :
    (s.readExpectations (uuid k) clock params).expectations =
      (s.resolveExpectations clock params.limit).expectations ++ newRows (uuid k) clock params s := by
  have hres : Named uuid old (s.resolveExpectations clock params.limit) :=
    h.updateExpectations ResponseExpectation.finish_keepsKeys
  have hqns := questions_pairwise params.limit
    (eligibleQuestionIds h.keyed params.responseTimeoutSecs params.horizon)
  have hins := insert_expectations (k := k) hfr hres clock params.responseTimeoutSecs
    hqns
  simp only [hasExpectation_resolve] at hins
  exact hins

theorem mem_newRows (h : s.Keyed) {row : ResponseExpectation} :
    row ∈ newRows (uuid k) clock params s ↔ ∃ question ∈ s.questions, ∃ overdue,
      s.IsNew params question overdue ∧
        rank OverdueQuestion.byOccurrence (s.eligible params) overdue < params.limit ∧
          row = responseExpectation (uuid k) clock params.responseTimeoutSecs overdue := by
  have hkey := OverdueQuestion.byOccurrence_nodup
    (eligibleQuestionIds h params.responseTimeoutSecs params.horizon)
  rw [newRows, List.mem_map]
  constructor
  · rintro ⟨overdue, hoverdue, rfl⟩
    obtain ⟨hwdw, hnew⟩ := List.mem_filter.mp hoverdue
    obtain ⟨hmem, hrank⟩ := (mem_firstRows hkey).mp hwdw
    obtain ⟨question, hqn, hsome⟩ := mem_eligible.mp hmem
    rw [overdue_questionId hsome] at hnew
    exact ⟨question, hqn, overdue, ⟨hsome, by simpa using hnew⟩, hrank, rfl⟩
  · rintro ⟨question, hqn, overdue, ⟨hsome, hnew⟩, hrank, rfl⟩
    refine ⟨overdue, List.mem_filter.mpr ⟨(mem_firstRows hkey).mpr
      ⟨mem_eligible.mpr ⟨question, hqn, hsome⟩, hrank⟩, ?_⟩, rfl⟩
    rw [overdue_questionId hsome, hnew]
    rfl

/-! ## A scan -/

def dueSources (params : ScanParams) (s : Store) : List CandidateSource :=
  (firstRows ResponseExpectation.byDue params.limit (s.dueExpectations params.nowUnixSecs)).map
    ResponseExpectation.source

theorem scanResponses_ok (hval : params.Valid) {production : Production}
    (h : produceAll (uuid k) (s.readExpectations (uuid k) clock params)
      (dueSources params (s.readExpectations (uuid k) clock params)) = .ok (t, production)) :
    s.scanResponses (uuid k) clock params = t := by
  have hscan : ∃ report, scanResponseExpectations (uuid k) clock params s = .ok (t, report) := by
    rw [scanResponseExpectations,
      if_neg (by simp [hval.horizon, hval.responseTimeout, hval.limit])]
    exact ⟨_, congrArg (fun result => Except.bind result _) h⟩
  obtain ⟨report, hscan⟩ := hscan
  rw [Store.scanResponses, hscan]

/-- What a scan leaves. -/
structure Scanned (uuid : Nat → Purpose → Uuid) (old : List Uuid) (params : ScanParams)
    (k clock : Nat) (s t : Store) : Prop where
  grows : Grows (s.readExpectations (uuid k) clock params) t
  served : ∀ source ∈ dueSources params (s.readExpectations (uuid k) clock params), t.Served source
  named : Named uuid old t

theorem scanned_scanResponses (hfr : NeverRepeats uuid old) (hval : params.Valid)
    (h : Named uuid old s) :
    Scanned uuid old params k clock s (s.scanResponses (uuid k) clock params) := by
  have hread : Named uuid old (s.readExpectations (uuid k) clock params) := h.readExpectations
  obtain ⟨t, production, hok, -, hnamed⟩ := produceAll_spec (k := k) hfr hread
    (dueSources params (s.readExpectations (uuid k) clock params))
  rw [scanResponses_ok hval hok]
  exact ⟨(served_of_produceAll hok).1, (served_of_produceAll hok).2, hnamed⟩

namespace Scanned

theorem conversationPart (h : Scanned uuid old params k clock s t) :
    t.conversationPart = s.conversationPart := by
  obtain ⟨_, _, hrest⟩ := h.grows.rest
  rw [hrest]
  rfl

theorem expectations (hfr : NeverRepeats uuid old) (hs : Named uuid old s)
    (h : Scanned uuid old params k clock s t) : t.expectations =
      (s.resolveExpectations clock params.limit).expectations ++ newRows (uuid k) clock params s := by
  obtain ⟨_, _, hrest⟩ := h.grows.rest
  rw [hrest]
  exact readExpectations_eq hfr hs

theorem hasExpectation_iff (hfr : NeverRepeats uuid old) (hs : Named uuid old s)
    (h : Scanned uuid old params k clock s t) {question : OpenQuestion}
    (hqn : question ∈ s.questions) : t.hasExpectation question.questionId = true ↔
      s.hasExpectation question.questionId = true ∨ ∃ row, s.IsNew params question row ∧
        rank OverdueQuestion.byOccurrence (s.eligible params) row < params.limit := by
  have hspl : t.hasExpectation question.questionId = true ↔
      s.hasExpectation question.questionId = true ∨
        ∃ row ∈ newRows (uuid k) clock params s, row.sourceQuestionId = question.questionId := by
    rw [Store.hasExpectation, h.expectations hfr hs, List.any_append, Bool.or_eq_true,
      ← Store.hasExpectation, hasExpectation_resolve, List.any_eq_true]
    simp only [decide_eq_true_iff]
  rw [hspl]
  refine or_congr_right ⟨?_, ?_⟩
  · rintro ⟨row, hrow, hid⟩
    obtain ⟨other, hoth, overdue, hnew, hrank, rfl⟩ := (mem_newRows hs.keyed).mp hrow
    have hsame : other = question := by
      refine eq_of_key_eq hs.keyed.questionIds hoth hqn ?_
      rw [← overdue_questionId hnew.1]
      exact hid
    exact ⟨overdue, hsame ▸ hnew, hrank⟩
  · rintro ⟨overdue, hnew, hrank⟩
    exact ⟨_, (mem_newRows hs.keyed).mpr ⟨question, hqn, overdue, hnew, hrank, rfl⟩,
      overdue_questionId hnew.1⟩

end Scanned

/-! ## Settled rows -/

theorem backlog_eq_zero_iff (hfr : NeverRepeats uuid old) (hs : Named uuid old s)
    (h : Scanned uuid old params k clock s t) : t.backlog = 0 ↔ s.backlog ≤ params.limit ∧
      ∀ row ∈ newRows (uuid k) clock params s, s.isSettled row = false := by
  have hkey : (s.expectations.map fun row => (ofLex row.byUpdate).2).Nodup := hs.keyed.expectationIds
  have hfinish (row : ResponseExpectation) :
      (decide ((row.finish clock .resolved).expectationStatus = .active) &&
        s.isSettled (row.finish clock .resolved)) = false := rfl
  have hclears : (∀ row ∈ (s.resolveExpectations clock params.limit).expectations,
      (decide (row.expectationStatus = .active) && s.isSettled row) = false) ↔ _ :=
    updateFirst_clears hkey hfinish
  rw [Store.backlog, isSettled_congr h.conversationPart, h.expectations hfr hs,
    List.countP_append, Nat.add_eq_zero_iff, List.countP_eq_zero, List.countP_eq_zero,
    Store.backlog, ← hclears]
  refine and_congr (forall₂_congr fun row _ => by rw [Bool.not_eq_true])
      (forall₂_congr fun row hrow => ?_)
  obtain ⟨_, _, overdue, _, _, rfl⟩ := (mem_newRows hs.keyed).mp hrow
  rw [Bool.not_eq_true]
  exact Iff.of_eq (congrArg (· = false) (Bool.true_and _))

theorem mem_settledRows {row : ResponseExpectation} : row ∈ s.settledRows ↔
    row ∈ s.expectations ∧ row.expectationStatus = .active ∧ s.isSettled row = true := by
  rw [Store.settledRows, List.mem_filter, Bool.and_eq_true, decide_eq_true_iff]

theorem isSettled_iff {row : ResponseExpectation} : s.isSettled row = true ↔
    s.isOver row.sourceQuestionId = true ∨ s.isFinished row.threadId = true ∨
      ∃ asked ∈ s.sourcesOf row.sourceQuestionId, s.isAnswered row.threadId asked = true := by
  rw [Store.isSettled, Bool.or_eq_true, Bool.or_eq_true, or_assoc, ← List.any_eq_true]
  rfl

/-- A new expectation is settled when one of the messages of its question has been answered. -/
theorem isSettled_new_iff (hkeyed : s.Keyed) (hthrs : (s.threads.map EventThread.threadId).Nodup)
    (hqn : question ∈ s.questions) {row : OverdueQuestion}
    (hnew : s.IsNew params question row) {uuid : Purpose → Uuid} {timeout : Int} :
    s.isSettled (responseExpectation uuid clock timeout row) = false ↔
      ∀ asked ∈ s.sourcesOf question.questionId, s.isAnswered question.threadId asked = false := by
  obtain ⟨hopen, thread, hfnd, ⟨hres, hcls⟩, first, -, rfl⟩ := overdue_eq_some.mp hnew.1
  have hover : s.isOver question.questionId = false := by
    refine List.any_eq_false.mpr fun other hoth hbad => ?_
    rw [Bool.and_eq_true, decide_eq_true_iff, decide_eq_true_iff] at hbad
    rw [eq_of_key_eq hkeyed.questionIds hoth hqn hbad.1] at hbad
    exact hbad.2 hopen
  have hfin : s.isFinished question.threadId = false := by
    refine List.any_eq_false.mpr fun other hoth hbad => ?_
    rw [Bool.and_eq_true, decide_eq_true_iff] at hbad
    have hfoundId := List.find?_some hfnd
    have hid : thread.threadId = question.threadId := of_decide_eq_true hfoundId
    have hsame := eq_of_key_eq hthrs hoth (List.mem_of_find?_eq_some hfnd)
      (hbad.1.trans hid.symm)
    simp [hsame, hres, hcls] at hbad
  rw [← Bool.not_eq_true, isSettled_iff]
  show ¬ (s.isOver question.questionId = true ∨ s.isFinished question.threadId = true ∨ _) ↔ _
  rw [hover, hfin]
  simp [responseExpectation]

theorem Named.named_of_mem (h : Named uuid old s) {id : Uuid} (hid : id ∈ s.uuids) :
    id ∈ old ∨ ∃ k purpose, id = uuid k purpose := by
  simp only [Store.uuids, List.mem_append, List.mem_map] at hid
  rcases hid with ((⟨item, hitem, rfl⟩ | ⟨row, hrow, rfl⟩) | ⟨row, hrow, rfl⟩) | ⟨row, hrow, rfl⟩
  · rcases h.followUps item hitem with hold | ⟨k, hk⟩
    · exact .inl hold
    · exact .inr ⟨k, _, hk⟩
  · rcases h.expectations row hrow with hold | ⟨k, hk⟩
    · exact .inl hold
    · exact .inr ⟨k, _, hk⟩
  · rcases h.candidates row hrow with hold | ⟨k, hk⟩
    · exact .inl hold
    · exact .inr ⟨k, _, hk⟩
  · rcases h.requests row hrow with hold | ⟨-, k, hk⟩
    · exact .inl hold
    · exact .inr ⟨k, _, hk⟩

/-! ## Scanning again -/

theorem resolveExpectations_of_backlog (h : s.backlog = 0) :
    s.resolveExpectations clock params.limit = s := by
  have hnone : s.expectations.filter (fun row =>
      decide (row.expectationStatus = .active) && s.isSettled row) = [] := by
    rw [List.filter_eq_nil_iff]
    exact List.countP_eq_zero.mp h
  have hrows : (s.resolveExpectations clock params.limit).expectations = s.expectations := by
    rw [Store.resolveExpectations]
    refine updateWhere_of_forall_not fun row _ => ?_
    rw [hnone, firstRows, List.insertionSort_nil, List.take_nil]
    rfl
  calc s.resolveExpectations clock params.limit
      = { s with expectations := (s.resolveExpectations clock params.limit).expectations } := rfl
    _ = s := by rw [hrows]

/-- A scan of the same time that finds nothing to settle changes nothing, and only such a one. -/
theorem scanResponses_again (hfr : NeverRepeats uuid old) (hval : params.Valid)
    (hs : Named uuid old s) (h : Scanned uuid old params k clock s t) :
    (∀ clock', t.scanResponses (uuid (k + 1)) clock' params = t) ↔ t.backlog = 0 := by
  constructor
  · intro hsame
    by_contra hpos
    have hagain : Scanned uuid old params (k + 1) 0 t t := by
      have hscanned : Scanned uuid old params (k + 1) 0 t
          (t.scanResponses (uuid (k + 1)) 0 params) := scanned_scanResponses hfr hval h.named
      rwa [hsame 0] at hscanned
    have hrows := hagain.expectations hfr h.named
    have hlen : (t.resolveExpectations 0 params.limit).expectations.length =
        t.expectations.length := List.length_map _
    have hnone : newRows (uuid (k + 1)) 0 params t = [] := by
      have := congrArg List.length hrows
      rw [List.length_append, hlen] at this
      exact List.eq_nil_of_length_eq_zero (by omega)
    rw [hnone, List.append_nil] at hrows
    have hlt : (t.resolveExpectations 0 params.limit).backlog < t.backlog :=
      backlog_resolve hval.limit.1 (Nat.pos_of_ne_zero hpos)
    have heq : t.resolveExpectations 0 params.limit = t :=
      calc t.resolveExpectations 0 params.limit
          = { t with expectations := (t.resolveExpectations 0 params.limit).expectations } := rfl
        _ = t := by rw [← hrows]
    rw [heq] at hlt
    exact lt_irrefl _ hlt
  · intro hzero clock'
    have hread : t.readExpectations (uuid (k + 1)) clock' params = t := by
      have hrows : (t.readExpectations (uuid (k + 1)) clock' params).expectations =
          (t.resolveExpectations clock' params.limit).expectations ++
            newRows (uuid (k + 1)) clock' params t := readExpectations_eq hfr h.named
      have hnone : newRows (uuid (k + 1)) clock' params t = [] := by
        refine List.eq_nil_iff_forall_not_mem.mpr fun row hrow => ?_
        -- Its question was in the window of the first scan, which made an expectation of it.
        obtain ⟨question, hqn, overdue, hnew, hrank, -⟩ := (mem_newRows h.named.keyed).mp hrow
        have hsame : t.overdue params.responseTimeoutSecs params.horizon =
            s.overdue params.responseTimeoutSecs params.horizon ∧ t.eligible params = s.eligible params ∧
              t.questions = s.questions := by
          obtain ⟨_, _, hrest⟩ := h.grows.rest
          rw [hrest]
          exact ⟨rfl, rfl, rfl⟩
        rw [hsame.2.2] at hqn
        have hhas := (h.hasExpectation_iff hfr hs hqn).not.mp (by rw [hnew.2]; decide)
        rw [not_or, Bool.not_eq_true] at hhas
        rw [hsame.2.1] at hrank
        exact hhas.2 ⟨overdue, ⟨hsame.1 ▸ hnew.1, hhas.1⟩, hrank⟩
      rw [hnone, List.append_nil, resolveExpectations_of_backlog hzero] at hrows
      calc t.readExpectations (uuid (k + 1)) clock' params
          = { t with expectations :=
              (t.readExpectations (uuid (k + 1)) clock' params).expectations } := rfl
        _ = t := by rw [hrows]
    have hdue : dueSources params t = dueSources params (s.readExpectations (uuid k) clock params) := by
      obtain ⟨_, _, hrest⟩ := h.grows.rest
      rw [hrest]
      rfl
    have hsrv : produceAll (uuid (k + 1)) (t.readExpectations (uuid (k + 1)) clock' params)
        (dueSources params (t.readExpectations (uuid (k + 1)) clock' params)) = .ok (t, {}) := by
      rw [hread, hdue]
      exact produceAll_of_served h.served
    exact scanResponses_ok hval hsrv

/-- A scan resolves the first `limit` settled rows. -/
theorem finish_mem_iff (hfr : NeverRepeats uuid old) (hs : Named uuid old s)
    (h : Scanned uuid old params k clock s t) {row : ResponseExpectation}
    (hrow : row ∈ s.expectations) (hactv : row.expectationStatus = .active) :
    row.finish clock .resolved ∈ t.expectations ↔ row ∈ s.settledRows ∧
      rank ResponseExpectation.byUpdate s.settledRows row < params.limit := by
  have hkey : (s.expectations.map fun row => (ofLex row.byUpdate).2).Nodup := hs.keyed.expectationIds
  have hchos : chosen ResponseExpectation.byUpdate params.limit (fun row =>
      decide (row.expectationStatus = .active) && s.isSettled row) s.expectations row = true ↔
        (decide (row.expectationStatus = .active) && s.isSettled row) = true ∧
          rank ResponseExpectation.byUpdate s.settledRows row < params.limit := chosen_iff hkey hrow
  rw [mem_settledRows, and_iff_right hrow, h.expectations hfr hs, List.mem_append]
  rw [Bool.and_eq_true, decide_eq_true_iff] at hchos
  refine Iff.trans ?_ hchos
  constructor
  · rintro (hin | hin)
    · obtain ⟨before, hbef, heq⟩ := mem_updateWhere.mp hin
      have hsame : before = row := by
        refine eq_of_key_eq hs.keyed.expectationIds hbef hrow ?_
        have := congrArg ResponseExpectation.expectationId heq
        split at this <;> exact this
      rw [hsame] at heq
      split at heq
      · assumption
      · have hstat := congrArg ResponseExpectation.expectationStatus heq
        rw [hactv] at hstat
        cases hstat
    · obtain ⟨_, _, overdue, _, _, heq⟩ := (mem_newRows hs.keyed).mp hin
      cases congrArg ResponseExpectation.expectationStatus heq
  · intro hin
    exact .inl (mem_updateWhere.mpr ⟨row, hrow, if_pos hin⟩)

/-! ## One rule -/

namespace Scans

variable {scans : Scans}

theorem Regular.first (h : scans.Regular) : Scanned scans.uuid scans.s.uuids scans.params scans.k
    scans.clock scans.s scans.scanned :=
  scanned_scanResponses h.fresh h.valid (named_initial h.keyed)

theorem Regular.second (h : scans.Regular) : Scanned scans.laterUuid scans.later.uuids
    scans.laterParams scans.laterK scans.laterClock scans.later scans.laterScanned :=
  scanned_scanResponses h.laterFresh h.laterValid (named_initial h.laterKeyed)

theorem Regular.undisturbed (h : scans.Regular) (hrule : scans.OneRule) : scans.Undisturbed := by
  have hnamed : Named scans.uuid scans.s.uuids scans.s := named_initial h.keyed
  have hmade : ∀ question ∈ scans.s.questions, ∀ row, scans.s.IsNew scans.params question row →
      scans.scanned.hasExpectation question.questionId = true := by
    intro question hqn row hnew
    obtain ⟨hopen, hactv, hwaits⟩ := hnew.active
    exact (hrule.materialised question hqn hopen hactv).mpr (.inr hwaits)
  have hwdw : ∀ question ∈ scans.s.questions, ∀ row, scans.s.IsNew scans.params question row →
      rank OverdueQuestion.byOccurrence (scans.s.eligible scans.params) row < scans.params.limit := by
    intro question hqn row hnew
    rcases (h.first.hasExpectation_iff h.fresh hnamed hqn).mp (hmade question hqn row hnew)
      with hhas | ⟨row', hnew', hrank⟩
    · rw [hnew.2] at hhas
      cases hhas
    · rwa [Option.some.inj (hnew.1.symm.trans hnew'.1)]
  obtain ⟨hbacklog, huns⟩ := (backlog_eq_zero_iff h.fresh hnamed h.first).mp
    ((scanResponses_again h.fresh h.valid hnamed h.first).mp hrule.repeated)
  refine ⟨?_, hbacklog, ?_, ?_⟩
  · intro row hrow hhas
    obtain ⟨question, hqn, hsome⟩ := mem_eligible.mp hrow
    rw [overdue_questionId hsome] at hhas
    exact hwdw question hqn row ⟨hsome, hhas⟩
  · intro question hqn row hnew
    exact (isSettled_new_iff h.keyed h.threads hqn hnew).mp (huns _
      ((mem_newRows h.keyed).mpr ⟨question, hqn, row, hnew, hwdw question hqn row hnew,
        rfl⟩))
  · intro question hqn row hnew kept hkept hid hthr hrank hover hfin
    obtain ⟨hmem, hactv, -⟩ := mem_settledRows.mp hkept
    have hres := (finish_mem_iff h.laterFresh (named_initial h.laterKeyed) h.second hmem
      hactv).mpr ⟨hkept, hrank⟩
    rcases hrule.resolved question hqn hnew.2 (hmade question hqn row hnew) kept hmem hid
      hthr hactv hres with hbad | hbad | hansw
    · rw [hover] at hbad
      cases hbad
    · rw [hfin] at hbad
      cases hbad
    · exact hansw

theorem Regular.oneRule (h : scans.Regular) (hclear : scans.Undisturbed) : scans.OneRule := by
  have hnamed : Named scans.uuid scans.s.uuids scans.s := named_initial h.keyed
  refine ⟨?_, ?_, ?_⟩
  · intro question hqn hopen hactv
    rw [h.first.hasExpectation_iff h.fresh hnamed hqn]
    by_cases hhas : scans.s.hasExpectation question.questionId = true
    · simp only [hhas, true_or]
    rw [Bool.not_eq_true] at hhas
    rw [hhas, ← exists_overdue_iff hopen hactv]
    refine or_congr_right ⟨?_, ?_⟩
    · rintro ⟨row, hnew, -⟩
      exact ⟨row, hnew.1⟩
    · rintro ⟨row, hsome⟩
      refine ⟨row, ⟨hsome, hhas⟩, hclear.room row (mem_eligible.mpr ⟨question, hqn, hsome⟩) ?_⟩
      rwa [overdue_questionId hsome]
  · intro question hqn hhas hmade kept hmem hid hthr hactv hres
    obtain ⟨hkept, hrank⟩ := (finish_mem_iff h.laterFresh (named_initial h.laterKeyed) h.second hmem
      hactv).mp hres
    rcases (h.first.hasExpectation_iff h.fresh hnamed hqn).mp hmade with hbad | ⟨row, hnew, -⟩
    · rw [hhas] at hbad
      cases hbad
    cases hover : scans.later.isOver question.questionId with
    | true => exact .inl rfl
    | false =>
      cases hfin : scans.later.isFinished question.threadId with
      | true => exact .inr (.inl rfl)
      | false =>
        exact .inr (.inr (hclear.later question hqn row hnew kept hkept hid hthr hrank hover
          hfin))
  · refine (scanResponses_again h.fresh h.valid hnamed h.first).mpr
      ((backlog_eq_zero_iff h.fresh hnamed h.first).mpr ⟨hclear.backlog, fun row hrow => ?_⟩)
    obtain ⟨question, hqn, overdue, hnew, -, rfl⟩ := (mem_newRows h.keyed).mp hrow
    exact (isSettled_new_iff h.keyed h.threads hqn hnew).mpr
      (hclear.unanswered question hqn overdue hnew)

end Scans

/-- Expectations are made and resolved by one rule if and only if nothing gets in its way. -/
theorem oneRule_iff (scans : Scans) (h : scans.Regular) : scans.OneRule ↔ scans.Undisturbed :=
  ⟨h.undisturbed, h.oneRule⟩

/-! ## A question with two messages -/

namespace Scripted

def externalMessage (sourceEventId : Uuid) (occurredAtUnixSecs : Int) : SourceEvent where
  sourceEventId := sourceEventId
  accountId := 1
  conversationId := 1
  actorKind := .external
  messageRole := .externalObservation
  occurredAtUnixSecs := occurredAtUnixSecs
  replyToEventId := none

def ownerReply (sourceEventId : Uuid) (occurredAtUnixSecs : Int) : SourceEvent :=
  { externalMessage sourceEventId occurredAtUnixSecs with
    actorKind := .owner, messageRole := .ownerObservation }

/-- A question asked twice in a private conversation. -/
def askedTwice : Store where
  facts := []
  followUps := []
  questions := [⟨1, 1, .«open»⟩]
  questionSources := [⟨1, 1⟩, ⟨1, 3⟩]
  threads := [⟨1, 1, .«open»⟩]
  threadEvents := [⟨1, 1⟩, ⟨3, 1⟩]
  events := [externalMessage 1 1000, externalMessage 3 1200]
  conversations := [⟨1, .«private»⟩]
  expectations := []
  candidates := []
  requests := []

def repliedBetween : Store := { askedTwice with events := ownerReply 2 1100 :: askedTwice.events }

def hourlyParams : ScanParams := { scanParams 10 with nowUnixSecs := 10000 }

/-- A scan of the store, and one a second later. -/
def scansOf (s : Store) : Scans where
  uuid := uuids
  k := 0
  clock := 10000000000
  params := hourlyParams
  s := s
  laterUuid k := uuids (k + 2)
  laterK := 0
  laterClock := 10001000000
  laterParams := hourlyParams
  later := s.scanResponses (uuids 0) 10000000000 hourlyParams

theorem hourlyParams_valid : hourlyParams.Valid := by
  constructor <;> simp [hourlyParams, scanParams]

theorem scansOf_regular {s : Store} (hkeyed : s.Keyed)
    (hthrs : (s.threads.map EventThread.threadId).Nodup) (hold : s.uuids = []) :
    (scansOf s).Regular := by
  have hfr : NeverRepeats (fun _ => uuids 0) s.uuids :=
    ⟨neverRepeats.purpose, hold ▸ fun _ _ => List.not_mem_nil⟩
  have hlater : Named (fun _ => uuids 0) s.uuids (scansOf s).later :=
    (scanned_scanResponses (k := 0) hfr hourlyParams_valid (named_initial hkeyed)).named
  refine ⟨hourlyParams_valid, hkeyed, hthrs, ⟨neverRepeats.purpose, ?_⟩, hourlyParams_valid,
    hlater.keyed, ⟨neverRepeats.purpose, fun k p hmem => ?_⟩⟩
  · exact hold ▸ fun _ _ => List.not_mem_nil
  · rcases hlater.named_of_mem hmem with hbad | ⟨_, q, heq⟩
    · rw [hold] at hbad
      cases hbad
    · exact absurd (Nat.pair_eq_pair.mp heq).1 (Nat.succ_ne_zero _)

theorem askedTwice_regular : (scansOf askedTwice).Regular :=
  scansOf_regular (by constructor <;> simp [askedTwice]) (by decide) rfl

theorem repliedBetween_regular : (scansOf repliedBetween).Regular :=
  scansOf_regular (by constructor <;> simp [repliedBetween, askedTwice]) (by decide) rfl

theorem askedTwice_undisturbed : (scansOf askedTwice).Undisturbed where
  room := by decide
  backlog := by decide
  unanswered question hqn _ _ := by
    have hnone : ∀ question ∈ askedTwice.questions, ∀ asked ∈ askedTwice.sourcesOf question.questionId,
        askedTwice.isAnswered question.threadId asked = false := by decide
    exact hnone question hqn
  later _ _ _ _ kept hkept := by
    have hnone : (scansOf askedTwice).later.settledRows = [] := by decide
    rw [hnone] at hkept
    cases hkept

end Scripted

open Scripted in
/-- Nothing was answered, and the two scans follow one rule. -/
theorem oneRule_askedTwice : (scansOf askedTwice).Regular ∧ (scansOf askedTwice).OneRule :=
  ⟨askedTwice_regular, (oneRule_iff (scansOf askedTwice) askedTwice_regular).mpr
    askedTwice_undisturbed⟩

open Scripted in
/-- The reply to the first message resolves the expectation of the second. -/
theorem resolved_before_the_answer : ¬ ∀ scans : Scans, scans.Regular → scans.OneRule := by
  intro hcl
  have hrule := hcl (scansOf repliedBetween) repliedBetween_regular
  have hres := hrule.resolved ⟨1, 1, .«open»⟩ (by decide) (by decide) (by decide)
    ⟨uuids 0 (.responseExpectation 1), 1, 1, 1, 1, 1500, .active, 10000000000⟩ (by decide)
    rfl rfl rfl (by decide)
  exact absurd hres (by decide)

end ServerRS.FollowUp
