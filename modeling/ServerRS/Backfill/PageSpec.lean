import ServerRS.Backfill.Service

/-!
# Rules for the calls of a run

What a page without anomalies is like (`validatePage_eq_nil`), and a rule for every call of
the ports.
-/

namespace ServerRS.Backfill

open Lib Stepwise BackfillIo

/-! ## Pages without anomalies -/

theorem pushUnique_ne_nil (anomalies : List BackfillAnomaly) (anomaly : BackfillAnomaly) :
    pushUnique anomalies anomaly ≠ [] := by
  rw [pushUnique]
  split
  · next hmem => exact List.ne_nil_of_mem hmem
  · simp

variable {anomalies : List BackfillAnomaly} {scope : BackfillScope} {page : BackfillPage}
  {sessionChain : List BackfillAnchor} {pageOrderProven : Bool} {current : Option BackfillCursor}
  {item : BackfillHistoryItem}

theorem pushIf_eq_nil {condition : Bool} {anomaly : BackfillAnomaly} :
    pushIf condition anomaly anomalies = [] ↔ condition = false ∧ anomalies = [] := by
  rw [pushIf]
  cases condition with
  | true => simp [pushUnique_ne_nil]
  | false => simp

theorem checkItems_eq_nil {items : List BackfillHistoryItem} {pageAnchors : List BackfillAnchor}
    (h : checkItems scope items pageAnchors anomalies = []) :
    anomalies = [] ∧ ∀ item ∈ items, itemAnchorBroken item = false ∧
      itemOutOfScope scope item = false := by
  induction items generalizing pageAnchors anomalies with
  | nil => exact ⟨h, fun _ hitem => absurd hitem List.not_mem_nil⟩
  | cons item items ih =>
    obtain ⟨hpushed, hrest⟩ := ih h
    simp only [pushIf_eq_nil] at hpushed
    obtain ⟨-, hsc, hanchor, hnil⟩ := hpushed
    refine ⟨hnil, fun other hoth => ?_⟩
    rcases List.mem_cons.mp hoth with rfl | hoth
    · exact ⟨hanchor, hsc⟩
    · exact hrest other hoth

theorem checkCursor_eq_nil {current : BackfillCursor}
    (h : checkCursor page sessionChain pageOrderProven current anomalies = []) :
    anomalies = [] := by
  rw [checkCursor, pushIf_eq_nil] at h
  obtain ⟨-, h⟩ := h
  split at h
  · exact absurd h (pushUnique_ne_nil _ _)
  · exact h
  · exact (pushIf_eq_nil.mp h).2

/-- A page without anomalies has items of the scope, and leads on from its last one. -/
structure SoundPage (scope : BackfillScope) (page : BackfillPage) : Prop where
  items_ne : page.items ≠ []
  anchors : ∀ item ∈ page.items, item.envelope.source.messageId = item.anchor.messageId
  accounts : ∀ item ∈ page.items, item.envelope.source.accountRef = scope.account
  next : ∀ next, page.continuation = .next next →
    page.items.getLast?.map BackfillHistoryItem.anchor = some next.anchor

/-- What every page without anomalies has passed, whatever is known of its order. -/
theorem items_of_validatePage
    (h : validatePage scope current page sessionChain pageOrderProven = []) :
    page.items ≠ [] ∧
      ∀ item ∈ page.items, itemAnchorBroken item = false ∧ itemOutOfScope scope item = false := by
  rw [validatePage] at h
  -- the checks before the continuation
  have hbase : ∀ anomalies, current.elim anomalies (fun current =>
      checkCursor page sessionChain pageOrderProven current anomalies) = [] → anomalies = [] := by
    intro anomalies hnil
    cases current with
    | none => exact hnil
    | some current => exact checkCursor_eq_nil hnil
  have helim : current.elim (pushIf (!page.items.isEmpty && page.items.all fun item =>
        item.anchor ∈ sessionChain) .duplicatePage
          (checkItems scope page.items [] (pushIf page.items.isEmpty .emptyPage [])))
        (fun current => checkCursor page sessionChain pageOrderProven current
          (pushIf (!page.items.isEmpty && page.items.all fun item =>
            item.anchor ∈ sessionChain) .duplicatePage
              (checkItems scope page.items [] (pushIf page.items.isEmpty .emptyPage [])))) = [] := by
    split at h
    · simp only [checkNext, pushIf_eq_nil] at h
      exact h.2.2.2.2
    · exact h
    · exact h
  obtain ⟨hemp, hitems⟩ := checkItems_eq_nil (pushIf_eq_nil.mp (hbase _ helim)).2
  exact ⟨by simpa using (pushIf_eq_nil.mp hemp).1, hitems⟩

/-- The message id of the anchor is that of the message. -/
theorem messageId_of_itemAnchorBroken (h : itemAnchorBroken item = false) :
    item.envelope.source.messageId = item.anchor.messageId := by
  rw [itemAnchorBroken, Bool.or_eq_false_iff] at h
  simpa using h.2

theorem scope_of_itemOutOfScope (h : itemOutOfScope scope item = false) :
    item.envelope.source.accountRef = scope.account ∧
      item.envelope.conversation = scope.conversation := by
  rw [itemOutOfScope, Bool.or_eq_false_iff] at h
  simpa using h

theorem validatePage_eq_nil (h : validatePage scope current page sessionChain true = []) :
    SoundPage scope page := by
  obtain ⟨hemp, hitems⟩ := items_of_validatePage h
  refine ⟨hemp, fun item hitem => messageId_of_itemAnchorBroken (hitems item hitem).1,
    fun item hitem => (scope_of_itemOutOfScope (hitems item hitem).2).1, fun next hnext => ?_⟩
  rw [validatePage, hnext] at h
  simp only [checkNext, pushIf_eq_nil] at h
  obtain ⟨-, hval, -⟩ := h
  simpa using (Bool.or_eq_false_iff.mp hval).2

/-! ## Rules for the calls -/

section

variable {store : BackfillStore} {source : HistoryBackfillSource} {budget : BackfillBudget}
  {C : BackfillWorld → Prop} {E : BackfillError → BackfillWorld → Prop} {world : BackfillWorld}
  {Q : Unit → BackfillWorld → Prop} {scope : BackfillScope}

theorem check_wp {error : BackfillWorld → Option InboundEventStoreError}
    (hok : error world = none → Q () world) (herr : ∀ e, E (.state e) world) :
    wp (check error) C Q E world := by
  refine wp_get_bind ?_
  split
  · next hnone => exact wp_pure (hok hnone)
  · exact wp_throw (herr _)

theorem recordScopeProgress_wp {progress : ScopeProgress} (hstd : C (world.upsert progress))
    (h : Q () (world.upsert progress)) (hfail : ∀ e, E (.state e) world)
    (hstoredFailed : ∀ e, E (.state e) (world.upsert progress)) :
    wp (recordScopeProgress store progress) C Q E world := by
  refine wp_get_bind ?_
  split
  · exact wp_atomic hstd h
  · exact wp_bind (wp_atomic hstd (wp_throw (hstoredFailed _)))
  · exact wp_throw (hfail _)

theorem fetchPage_wp {cursor : Option BackfillCursor}
    {Q : Except BackfillSourceError BackfillPage → BackfillWorld → Prop} {world' : BackfillWorld}
    (hwd : world' = (world.add (.fetching scope)).arrive scope
      (source.arrivals (world.add (.fetching scope)) scope))
    (hfetc : C (world.add (.fetching scope))) (hpt : C world')
    (herr : ∀ e, source.fetchPage world' scope cursor budget.pageSize = .error e →
      Q (.error e) world')
    (hok : ∀ page, source.fetchPage world' scope cursor budget.pageSize = .ok page →
      C (world'.add (.read scope (world'.available scope))) ∧
        Q (.ok page) (world'.add (.read scope (world'.available scope)))) :
    wp (fetchPage source budget scope cursor) C Q E world := by
  subst hwd
  refine wp_bind (note_wp hfetc (wp_bind (wp_atomic hpt (wp_get_bind ?_))))
  split
  · next e he => exact wp_pure (herr e he)
  · next page hpage =>
    obtain ⟨hc, hq⟩ := hok page hpage
    exact wp_bind (note_wp hc (wp_pure hq))

end

end ServerRS.Backfill
