import ServerRS.PlannerViews.Views

/-!
# Which labels denote which events

The command, the recent events and the retrieved excerpts each get a label of their own, whether or
not their event has one already; the observations and the working context reuse labels. So the labels
of a request denote different events exactly when no event is listed twice among the first three
(`labels_distinct_iff`).

An event that is both recent and retrieved is shown under two labels. A proposal that cites both is
refused, since its source events are not unique (`RecentAndRetrieved`).
-/

namespace ServerRS.PlannerViews

open Lib

/-! ## What the labels of other things leave alone -/

/-- The part of the labels that is about events. -/
def ViewLabels.eventPart (labels : ViewLabels) :
    Labels "evt" SourceEventId × List (String × String) :=
  (labels.events, labels.observed)

section Frame

variable {s s' : ViewLabels} {text : String}

theorem actorLabel_keeps {account : SourceAccountRef} {kind : PlatformIdentityKind}
    {actorId message : String} (h : actorLabel account kind actorId message s = (.ok text, s')) :
    s'.eventPart = s.eventPart := by
  unfold actorLabel at h
  simp only at h
  split at h
  · cases h
  · cases h
    rfl

theorem conversationLabel_keeps {conversation : ConversationRef}
    (h : conversationLabel conversation s = (.ok text, s')) : s'.eventPart = s.eventPart := by
  cases h
  rfl

theorem threadLabel_keeps {threadId : EventThreadId} (h : threadLabel threadId s = (.ok text, s')) :
    s'.eventPart = s.eventPart := by
  cases h
  rfl

theorem cursorLabel_keeps {cursor : QueryEffectNextCursor}
    (h : cursorLabel cursor s = (.ok text, s')) : s'.eventPart = s.eventPart := by
  cases h
  rfl

theorem labelOf_keeps {α : Type} {label : α → Build String} {value : Option α}
    {text : Option String}
    (hlabel : ∀ a s text s', label a s = (.ok text, s') → s'.eventPart = s.eventPart)
    (h : labelOf label value s = (.ok text, s')) : s'.eventPart = s.eventPart := by
  cases value with
  | none =>
    cases h
    rfl
  | some a =>
    obtain ⟨text', s₁, hfst, hpure⟩ := Exec.bind_eq_ok.mp h
    cases hpure
    exact hlabel a s text' _ hfst

end Frame

/-! ## Events that get a label of their own -/

section Registered

variable {s s' : ViewLabels}

/-- A round that registers `eventId` and shows it as `eventRef`. -/
def Registers (s : ViewLabels) (eventId : SourceEventId) (eventRef : String) (s' : ViewLabels) :
    Prop :=
  eventRef = (s.events.register eventId).1 ∧
    s'.eventPart = ((s.events.register eventId).2, s.observed)

variable {account : SourceAccountRef}

theorem recentEventView_ok {isLocalLoopback : Bool} {view : AgentEventView}
    {llmView : RecentEventLlmView}
    (h : recentEventView account isLocalLoopback view s = (.ok llmView, s')) :
    Registers s view.sourceEventId llmView.eventRef s' ∧ llmView.replyToEventRef = none := by
  unfold recentEventView at h
  obtain ⟨eventRef, s₁, hev, hrest₁⟩ := Exec.bind_eq_ok.mp h
  obtain ⟨actorRef, s₂, hactor, hrest₂⟩ := Exec.bind_eq_ok.mp hrest₁
  obtain ⟨conversationRef, s₃, hconv, hrest₃⟩ := Exec.bind_eq_ok.mp hrest₂
  obtain ⟨threadRef, s₄, hthr, hrest₄⟩ := Exec.bind_eq_ok.mp hrest₃
  obtain ⟨mentioned, s₅, hment, hpure⟩ := Exec.bind_eq_ok.mp hrest₄
  cases hev
  cases hpure
  refine ⟨⟨rfl, ?_⟩, rfl⟩
  calc s'.eventPart
    _ = s₄.eventPart := Exec.each_keeps (fun _ _ _ _ => actorLabel_keeps) hment
    _ = s₃.eventPart := labelOf_keeps (fun _ _ _ _ => threadLabel_keeps) hthr
    _ = s₂.eventPart := conversationLabel_keeps hconv
    _ = ((s.events.register view.sourceEventId).2, s.observed) := actorLabel_keeps hactor

theorem retrievedView_ok {excerpt : PlannerRetrievedExcerpt} {llmView : RetrievedLlmView}
    (h : retrievedView account excerpt s = (.ok llmView, s')) :
    Registers s excerpt.sourceEventId llmView.eventRef s' := by
  unfold retrievedView at h
  obtain ⟨eventRef, s₁, hev, hrest⟩ := Exec.bind_eq_ok.mp h
  obtain ⟨actorRef, s₂, hactor, hpure⟩ := Exec.bind_eq_ok.mp hrest
  cases hev
  cases hpure
  exact ⟨rfl, actorLabel_keeps hactor⟩

/-- A loop of such rounds. -/
theorem each_registers {α β : Type} {f : α → Build β} {eventId : α → SourceEventId}
    {ref : β → String} {l : List α} {bs : List β}
    (hf : ∀ a s b s', f a s = (.ok b, s') → Registers s (eventId a) (ref b) s')
    (h : Exec.each f l s = (.ok bs, s')) :
    s'.events.values = s.events.values ++ l.map eventId ∧
      s'.events.labels = s.events.labels ++ bs.map ref ∧ s'.observed = s.observed := by
  induction l generalizing s bs with
  | nil =>
    obtain ⟨rfl, rfl⟩ := Exec.each_nil_eq_ok.mp h
    simp
  | cons a rest ih =>
    obtain ⟨b, s₁, bs', hb, hrest, rfl⟩ := Exec.each_cons_eq_ok.mp h
    obtain ⟨href, hpart⟩ := hf a s b s₁ hb
    obtain ⟨hevs, hobs⟩ := Prod.mk.inj hpart
    obtain ⟨hval, hlab, hkept⟩ := ih hrest
    refine ⟨?_, ?_, hkept.trans hobs⟩
    · rw [hval, hevs]
      simp
    · rw [hlab, hevs, Labels.labels_register, ← href]
      simp

end Registered

/-! ## Events that reuse a label -/

section Reused

variable {order : MapOrder (String × SourceEventId)} {s s' : ViewLabels}

theorem each_reuseEvent {ids : List SourceEventId} {refs : List String}
    (h : Exec.each (reuseEvent order) ids s = (.ok refs, s')) :
    (s'.events.values.Nodup ↔ s.events.values.Nodup) ∧
      (∀ label, label ∈ s'.events.labels ↔ label ∈ s.events.labels ∨ label ∈ refs) ∧
      s'.observed = s.observed := by
  induction ids generalizing s refs with
  | nil =>
    obtain ⟨rfl, rfl⟩ := Exec.each_nil_eq_ok.mp h
    simp
  | cons eventId rest ih =>
    obtain ⟨ref, s₁, refs', href, hrest, rfl⟩ := Exec.each_cons_eq_ok.mp h
    cases href
    obtain ⟨hnd, hlab, hobs⟩ := ih hrest
    refine ⟨hnd.trans Labels.nodup_reuse, fun label => ?_, hobs⟩
    rw [hlab, Labels.mem_labels_reuse, List.mem_cons, or_assoc]

theorem workingContextView_ok {account : SourceAccountRef}
    {working : Option WorkingContextProjection} {view : Option WorkingContextLlmView}
    (h : workingContextView order account working s = (.ok view, s')) :
    (s'.events.values.Nodup ↔ s.events.values.Nodup) ∧
      (∀ label, label ∈ s'.events.labels ↔
        label ∈ s.events.labels ∨ label ∈ view.elim [] (·.selectedEventRefs)) ∧
      s'.observed = s.observed := by
  cases working with
  | none =>
    cases h
    simp
  | some working =>
    unfold workingContextView at h
    obtain ⟨eventRefs, s₁, hevs, hrest₁⟩ := Exec.bind_eq_ok.mp h
    obtain ⟨conversationRefs, s₂, hcon, hrest₂⟩ := Exec.bind_eq_ok.mp hrest₁
    obtain ⟨threadRefs, s₃, hthrs, hrest₃⟩ := Exec.bind_eq_ok.mp hrest₂
    obtain ⟨actorRefs, s₄, hactors, hpure⟩ := Exec.bind_eq_ok.mp hrest₃
    cases hpure
    have hkept : s'.eventPart = s₁.eventPart := by
      calc s'.eventPart
        _ = s₃.eventPart := Exec.each_keeps (fun _ _ _ _ => actorLabel_keeps) hactors
        _ = s₂.eventPart := Exec.each_keeps (fun _ _ _ _ => threadLabel_keeps) hthrs
        _ = s₁.eventPart := Exec.each_keeps (fun _ _ _ _ => conversationLabel_keeps) hcon
    obtain ⟨hkeptEvents, hkeptObserved⟩ := Prod.mk.inj hkept
    obtain ⟨hnd, hlab, hobs⟩ := each_reuseEvent hevs
    rw [hkeptEvents, hkeptObserved]
    exact ⟨hnd, hlab, hobs⟩

/-- What the loop over the ids of the observations keeps, from the labels `before` it. -/
structure ObservedInv (before : Labels "evt" SourceEventId) (s : ViewLabels) : Prop where
  nodup : s.events.values.Nodup ↔ before.values.Nodup
  labels : ∀ label, label ∈ s.events.labels ↔ label ∈ before.labels ∨ label ∈ s.observed.map Prod.snd
  keys : (s.observed.map Prod.fst).Nodup

theorem registerObserved_keeps {before : Labels "evt" SourceEventId} {eventId : SourceEventId}
    {done : Unit} (hinv : ObservedInv before s)
    (h : registerObserved order eventId s = (.ok done, s')) :
    ObservedInv before s' ∧
      ∀ key, key ∈ s'.observed.map Prod.fst ↔ key ∈ s.observed.map Prod.fst ∨ key = eventId.asStr := by
  unfold registerObserved at h
  split at h
  · next hkn =>
    cases h
    refine ⟨hinv, fun key => ⟨.inl, ?_⟩⟩
    rintro (hkey | rfl)
    · exact hkey
    · exact hkn
  · next hnew =>
    cases h
    refine ⟨⟨Labels.nodup_reuse.trans hinv.nodup, fun label => ?_, ?_⟩, fun key => ?_⟩
    · rw [Labels.mem_labels_reuse, hinv.labels, List.map_append, List.mem_append, or_assoc,
        List.map_singleton, List.mem_singleton]
    · rw [List.map_append, List.map_singleton, ← List.concat_eq_append]
      exact hinv.keys.concat hnew
    · rw [List.map_append, List.mem_append, List.map_singleton, List.mem_singleton]

theorem each_registerObserved {before : Labels "evt" SourceEventId} {ids : List SourceEventId}
    {done : List Unit} (hinv : ObservedInv before s)
    (h : Exec.each (registerObserved order) ids s = (.ok done, s')) :
    ObservedInv before s' ∧ ∀ key, key ∈ s'.observed.map Prod.fst ↔
      key ∈ s.observed.map Prod.fst ∨ key ∈ ids.map SourceEventId.asStr := by
  induction ids generalizing s done with
  | nil =>
    obtain ⟨rfl, rfl⟩ := Exec.each_nil_eq_ok.mp h
    exact ⟨hinv, by simp⟩
  | cons eventId rest ih =>
    obtain ⟨first, s₁, done', hfst, hrest, rfl⟩ := Exec.each_cons_eq_ok.mp h
    obtain ⟨hinv₁, hkeys₁⟩ := registerObserved_keeps hinv hfst
    obtain ⟨hinv', hkeys⟩ := ih hinv₁ hrest
    refine ⟨hinv', fun key => ?_⟩
    rw [hkeys, hkeys₁, List.map_cons, List.mem_cons, or_assoc]

/-- The label of an id is the one it was observed with. -/
theorem observedLabel_eq_some (hkeys : (s.observed.map Prod.fst).Nodup) {eventId : SourceEventId}
    {label : String} :
    s.observedLabel eventId = some label ↔ (eventId.asStr, label) ∈ s.observed := by
  unfold ViewLabels.observedLabel
  constructor
  · intro h
    obtain ⟨entry, hent, rfl⟩ := Option.map_eq_some_iff.mp h
    have hkey : entry.1 = eventId.asStr := by simpa using List.find?_some hent
    rw [← hkey]
    exact List.mem_of_find?_eq_some hent
  · intro h
    have hfind := find?_key hkeys h
    rw [hfind]
    rfl

end Reused

/-! ## Observations -/

section Observations

variable {s s' : ViewLabels}

theorem observedRef_ok {eventId : SourceEventId} {ref : String}
    (h : observedRef eventId s = (.ok ref, s')) : s.observedLabel eventId = some ref ∧ s' = s := by
  unfold observedRef at h
  split at h
  · next hlabel =>
    cases h
    exact ⟨hlabel, rfl⟩
  · cases h

theorem observedLabel_congr (h : s'.eventPart = s.eventPart) :
    s'.observedLabel = s.observedLabel := by
  funext eventId
  unfold ViewLabels.observedLabel
  rw [(Prod.mk.inj h).2]

variable {account : SourceAccountRef}

theorem summaryLine_ok {event : QueryEffectTypedEvent} {line : SummaryLine}
    (h : summaryLine account event s = (.ok line, s')) :
    s.observedLabel event.sourceEventId = some line.eventRef ∧ s'.eventPart = s.eventPart := by
  unfold summaryLine at h
  obtain ⟨actorRef, s₁, hactor, hrest⟩ := Exec.bind_eq_ok.mp h
  obtain ⟨eventRef, s₂, hev, hpure⟩ := Exec.bind_eq_ok.mp hrest
  cases hpure
  have hkept := actorLabel_keeps hactor
  obtain ⟨hlabel, rfl⟩ := observedRef_ok hev
  rw [observedLabel_congr hkept] at hlabel
  exact ⟨hlabel, hkept⟩

theorem each_summaryLine {events : List QueryEffectTypedEvent} {lines : List SummaryLine}
    (h : Exec.each (summaryLine account) events s = (.ok lines, s')) :
    ∀ line ∈ lines, ∃ event ∈ events, s.observedLabel event.sourceEventId = some line.eventRef := by
  induction events generalizing s lines with
  | nil =>
    obtain ⟨rfl, -⟩ := Exec.each_nil_eq_ok.mp h
    simp
  | cons event rest ih =>
    obtain ⟨line, s₁, lines', hline, hrest, rfl⟩ := Exec.each_cons_eq_ok.mp h
    obtain ⟨hlabel, hkept⟩ := summaryLine_ok hline
    refine List.forall_mem_cons.mpr ⟨⟨event, List.mem_cons_self, hlabel⟩, fun line' hline' => ?_⟩
    obtain ⟨event', hev', hlabel'⟩ := ih hrest line' hline'
    rw [observedLabel_congr hkept] at hlabel'
    exact ⟨event', List.mem_cons_of_mem _ hev', hlabel'⟩

/-- An observation shows the labels of its source events. -/
theorem observationView_ok {obs : PlannerToolObservation} {view : ObservationLlmView}
    (h : observationView account obs s = (.ok view, s')) :
    view.sourceEventRefs = obs.sourceEventIds.filterMap s.observedLabel ∧
      (∀ line ∈ view.lines, line.eventRef ∈ view.sourceEventRefs) ∧ s'.eventPart = s.eventPart := by
  unfold observationView at h
  obtain ⟨cursorRef, s₁, hcurs, hrest₁⟩ := Exec.bind_eq_ok.mp h
  obtain ⟨labels, s₂, hget, hrest₂⟩ := Exec.bind_eq_ok.mp hrest₁
  obtain ⟨checked, s₃, hchk, hrest₃⟩ := Exec.bind_eq_ok.mp hrest₂
  obtain ⟨lines, s₄, hlines, hpure⟩ := Exec.bind_eq_ok.mp hrest₃
  cases hget
  cases hpure
  obtain ⟨hchk, rfl⟩ := Exec.ofExcept_eq.mp hchk
  have hkept : s₁.eventPart = s.eventPart :=
    labelOf_keeps (fun _ _ _ _ => cursorLabel_keeps) hcurs
  have hsame := observedLabel_congr hkept
  refine ⟨by rw [hsame], fun line hline => ?_, ?_⟩
  · obtain ⟨event, hev, hlabel⟩ := each_summaryLine hlines line hline
    refine List.mem_filterMap.mpr ⟨event.sourceEventId, ?_, hlabel⟩
    unfold checkTypedEvents at hchk
    split at hchk
    · cases hchk
    · next hfind => simpa using List.find?_eq_none.mp hfind event hev
  · exact (Exec.each_keeps (fun _ _ _ _ hline => (summaryLine_ok hline).2) hlines).trans hkept

theorem each_observationView {observations : List PlannerToolObservation}
    {views : List ObservationLlmView}
    (h : Exec.each (observationView account) observations s = (.ok views, s')) :
    (∀ label, label ∈ views.flatMap (fun obs => obs.sourceEventRefs ++ obs.lines.map (·.eventRef)) ↔
        ∃ eventId ∈ observations.flatMap PlannerToolObservation.sourceEventIds,
          s.observedLabel eventId = some label) ∧ s'.eventPart = s.eventPart := by
  induction observations generalizing s views with
  | nil =>
    obtain ⟨rfl, rfl⟩ := Exec.each_nil_eq_ok.mp h
    simp
  | cons obs rest ih =>
    obtain ⟨view, s₁, views', hview, hrest, rfl⟩ := Exec.each_cons_eq_ok.mp h
    obtain ⟨hrefs, hlines, hkept⟩ := observationView_ok hview
    obtain ⟨hmem, hkept'⟩ := ih hrest
    refine ⟨fun label => ?_, hkept'.trans hkept⟩
    have hown : label ∈ view.sourceEventRefs ++ view.lines.map (·.eventRef) ↔
        ∃ eventId ∈ obs.sourceEventIds, s.observedLabel eventId = some label := by
      rw [List.mem_append, ← List.mem_filterMap, ← hrefs, or_iff_left_iff_imp]
      intro hmem
      obtain ⟨line, hline, rfl⟩ := List.mem_map.mp hmem
      exact hlines line hline
    rw [List.flatMap_cons, List.mem_append, hown, hmem, observedLabel_congr hkept, List.flatMap_cons]
    simp only [List.mem_append, or_and_right, exists_or]

end Observations

/-! ## The whole request -/

section Request

variable {order : MapOrder (String × SourceEventId)} {isLocalLoopback : Bool} {input : PlannerInput}
  {views : LlmViews}

/-- The second pass changes no event label. -/
theorem fillReply_eventRef (refs : List (SourceEventId × String)) (agentViews : List AgentEventView)
    (llmViews : List RecentEventLlmView) (hlen : llmViews.length = agentViews.length) :
    (List.zipWith (fillReply refs) agentViews llmViews).map (·.eventRef) =
      llmViews.map (·.eventRef) := by
  induction agentViews generalizing llmViews with
  | nil =>
    rw [List.length_eq_zero_iff.mp hlen]
    rfl
  | cons view rest ih =>
    cases llmViews with
    | nil => rfl
    | cons llmView rest' =>
      simp only [List.zipWith_cons_cons, List.map_cons, ih rest' (Nat.succ.inj hlen)]
      rfl

/-- A reply is shown by the label of a view. -/
theorem fillReply_replyTo {agentViews : List AgentEventView} {llmViews : List RecentEventLlmView}
    {label : String}
    (h : label ∈ (List.zipWith (fillReply (viewEventRefs agentViews llmViews)) agentViews
      llmViews).filterMap (·.replyToEventRef)) : label ∈ llmViews.map (·.eventRef) := by
  obtain ⟨filled, hfilled, hreply⟩ := List.mem_filterMap.mp h
  rw [← List.map_uncurry_zip_eq_zipWith] at hfilled
  obtain ⟨⟨view, llmView⟩, -, rfl⟩ := List.mem_map.mp hfilled
  obtain ⟨parentId, -, hfnd⟩ := Option.bind_eq_some_iff.mp hreply
  obtain ⟨entry, hent, rfl⟩ := Option.map_eq_some_iff.mp hfnd
  have hmem := List.mem_reverse.mp (List.mem_of_find?_eq_some hent)
  exact (List.of_mem_zip hmem).2

/-- The events that get a label without a look at the labels there are. -/
def ownLabelled (input : PlannerInput) : List SourceEventId :=
  input.command.sourceEventId :: input.recentEventViews.map (·.sourceEventId) ++
    input.retrieved.map (·.sourceEventId)

/-- The labels that are shown are the labels that are resolved, and no event has two of them exactly
when none is listed twice. -/
theorem buildLlmViews_ok (h : buildLlmViews order isLocalLoopback input = .ok views) :
    (views.tempRefMap.events.values.Nodup ↔ (ownLabelled input).Nodup) ∧
      ∀ label, label ∈ views.eventRefs ↔ label ∈ views.tempRefMap.events.labels := by
  obtain ⟨last, hrun⟩ : ∃ last,
      buildViews order isLocalLoopback input ViewLabels.empty = (.ok views, last) :=
    ⟨_, Prod.ext h rfl⟩
  unfold buildViews at hrun
  obtain ⟨commandRef, s₁, hcmd, hrest₁⟩ := Exec.bind_eq_ok.mp hrun
  obtain ⟨eventViews, s₂, heventViews, hrest₂⟩ := Exec.bind_eq_ok.mp hrest₁
  obtain ⟨retrievedViews, s₃, hretr, hrest₃⟩ := Exec.bind_eq_ok.mp hrest₂
  obtain ⟨done, s₄, hdone, hrest₄⟩ := Exec.bind_eq_ok.mp hrest₃
  obtain ⟨workingContext, s₅, hworking, hrest₅⟩ := Exec.bind_eq_ok.mp hrest₄
  obtain ⟨observationViews, s₆, hobser, hrest₆⟩ := Exec.bind_eq_ok.mp hrest₅
  obtain ⟨labels, s₇, hget, hpure⟩ := Exec.bind_eq_ok.mp hrest₆
  cases hget
  cases hpure
  cases hcmd
  -- the three lists that register
  obtain ⟨hval₂, hlab₂, hobs₂⟩ :=
    @each_registers _ _ _ _ _ AgentEventView.sourceEventId RecentEventLlmView.eventRef _ _
      (fun _ _ _ _ hview => (recentEventView_ok hview).1) heventViews
  obtain ⟨hval₃, hlab₃, hobs₃⟩ :=
    @each_registers _ _ _ _ _ PlannerRetrievedExcerpt.sourceEventId RetrievedLlmView.eventRef _ _
      (fun _ _ _ _ hview => retrievedView_ok hview) hretr
  have hval : s₃.events.values = ownLabelled input := by
    rw [hval₃, hval₂]
    rfl
  have hemp : s₃.observed = [] := by
    rw [hobs₃, hobs₂]
    rfl
  -- the two that reuse
  have hinv₃ : ObservedInv s₃.events s₃ := ⟨Iff.rfl, by simp [hemp], by simp [hemp]⟩
  obtain ⟨hinv₄, hkeys⟩ := each_registerObserved hinv₃ hdone
  obtain ⟨hnd₅, hlab₅, hobs₅⟩ := workingContextView_ok hworking
  obtain ⟨hshown, hkept⟩ := each_observationView hobser
  obtain ⟨hevs, -⟩ := Prod.mk.inj hkept
  rw [hevs]
  refine ⟨?_, fun label => ?_⟩
  · rw [hnd₅, hinv₄.nodup, hval]
  · have hobservedShown : label ∈ s₄.observed.map Prod.snd ↔
        ∃ eventId ∈ input.observations.flatMap PlannerToolObservation.sourceEventIds,
          s₅.observedLabel eventId = some label := by
      rw [List.mem_map]
      constructor
      · rintro ⟨⟨key, ref⟩, hent, rfl⟩
        have hkey := (hkeys key).mp (List.mem_map_of_mem hent)
        rw [hemp, List.map_nil] at hkey
        obtain ⟨eventId, heventId, rfl⟩ := List.mem_map.mp (hkey.resolve_left List.not_mem_nil)
        refine ⟨eventId, heventId, (observedLabel_eq_some ?_).mpr ?_⟩
        · exact hobs₅ ▸ hinv₄.keys
        · exact hobs₅ ▸ hent
      · rintro ⟨eventId, -, hlabel⟩
        rw [observedLabel_eq_some (hobs₅ ▸ hinv₄.keys), hobs₅] at hlabel
        exact ⟨_, hlabel, rfl⟩
    have hreplies : label ∈ eventViews.map (·.eventRef) ∨ label ∈ (List.zipWith (fillReply
        (viewEventRefs input.recentEventViews eventViews)) input.recentEventViews
        eventViews).filterMap (·.replyToEventRef) ↔ label ∈ eventViews.map (·.eventRef) :=
      or_iff_left_of_imp fillReply_replyTo
    have hcmd : label ∈ (ViewLabels.empty.events.register input.command.sourceEventId).2.labels ↔
        label = (ViewLabels.empty.events.register input.command.sourceEventId).1 := by
      rw [Labels.labels_register, List.mem_append, List.mem_singleton]
      exact or_iff_right List.not_mem_nil
    rw [hlab₅, hinv₄.labels, hlab₃, hlab₂, hobservedShown, ← hshown]
    simp only [LlmViews.eventRefs, fillReply_eventRef _ _ _ (Exec.each_length heventViews),
      List.mem_append, List.mem_cons, List.cons_append]
    rw [hreplies, hcmd]
    simp only [or_assoc]

/-! ## Evidence -/

/-- Two labels of one request never resolve to the same event. -/
def LabelsInjective (views : LlmViews) : Prop :=
  ∀ label ∈ views.eventRefs, ∀ label' ∈ views.eventRefs,
    views.tempRefMap.resolveEvent label = views.tempRefMap.resolveEvent label' → label = label'

/-- The check of `validate_action_proposal` that the source events are unique. -/
def uniqueEvidence (sourceEventIds : List SourceEventId) : Except SecretaryAgentRuntimeError Unit :=
  requireProposal (sourceEventIds.map SourceEventId.asStr).Nodup
    "proposal source events must be unique"

/-- Every list of different labels of the request resolves to source events that pass the check. -/
def EvidenceAccepted (views : LlmViews) : Prop :=
  ∀ refs : List String, (∀ ref ∈ refs, ref ∈ views.eventRefs) → refs.Nodup →
    ∃ sourceEventIds, resolveEventRefs refs views.tempRefMap = .ok sourceEventIds ∧
      uniqueEvidence sourceEventIds = .ok ()

theorem resolveRef_ok {tempRefMap : TempRefMap} {ref : String} {eventId : SourceEventId} :
    resolveEventRef tempRefMap ref = .ok eventId ↔ tempRefMap.resolveEvent ref = some eventId := by
  unfold resolveEventRef
  split
  · next hres => rw [hres, Except.ok.injEq, Option.some.injEq]
  · next hres => simp [hres]

theorem evidenceAccepted_iff
    (hshown : ∀ label, label ∈ views.eventRefs ↔ label ∈ views.tempRefMap.events.labels) :
    EvidenceAccepted views ↔ LabelsInjective views := by
  constructor
  · intro h label hlabel label' hlabel' heq
    by_contra hne
    obtain ⟨ids, hids, hunique⟩ := h [label, label'] (by simp [hlabel, hlabel']) (by simp [hne])
    have hkey : ids.map some = [label, label'].map views.tempRefMap.resolveEvent :=
      Except.map_of_mapM_ok (fun _ _ href => (resolveRef_ok.mp href).symm) hids
    have hnd : (ids.map some).Nodup :=
      (List.Nodup.of_map _ (requireProposal_ok.mp hunique)).map (Option.some_injective _)
    rw [hkey, List.map_cons, List.map_singleton, heq] at hnd
    exact (List.nodup_cons.mp hnd).1 (List.mem_singleton_self _)
  · intro h refs hrefs hnd
    obtain ⟨ids, hids⟩ := Except.mapM_total (f := resolveEventRef views.tempRefMap) (l := refs)
      fun ref href => by
        obtain ⟨eventId, heventId⟩ := Labels.mem_labels.mp ((hshown ref).mp (hrefs ref href))
        exact ⟨eventId, resolveRef_ok.mpr heventId⟩
    have hkey : ids.map some = refs.map views.tempRefMap.resolveEvent :=
      Except.map_of_mapM_ok (fun _ _ href => (resolveRef_ok.mp href).symm) hids
    refine ⟨ids, hids, requireProposal_ok.mpr (List.Nodup.map SourceEventId.asStr_injective ?_)⟩
    refine List.Nodup.of_map some ?_
    rw [hkey]
    exact hnd.map_on fun ref href ref' href' heq => h ref (hrefs ref href) ref' (hrefs ref' href') heq

theorem labelsInjective_iff (h : buildLlmViews order isLocalLoopback input = .ok views) :
    LabelsInjective views ↔ (ownLabelled input).Nodup := by
  obtain ⟨hnd, hshown⟩ := buildLlmViews_ok h
  rw [← hnd, ← Labels.injective_iff]
  unfold LabelsInjective
  simp only [hshown]
  rfl

end Request

/-- The labels of a request denote different events, and evidence that cites different labels is never
refused as repeated, exactly when the command, the recent events and the retrieved excerpts are of
different events. -/
theorem labels_distinct_iff (order : MapOrder (String × SourceEventId)) (isLocalLoopback : Bool)
    (input : PlannerInput) (views : LlmViews)
    (h : buildLlmViews order isLocalLoopback input = .ok views) :
    LabelsInjective views ∧ EvidenceAccepted views ↔ (ownLabelled input).Nodup := by
  obtain ⟨-, hshown⟩ := buildLlmViews_ok h
  rw [evidenceAccepted_iff hshown, and_self, labelsInjective_iff h]

namespace RecentAndRetrieved

def account : SourceAccountRef := ⟨.napCat, "bot"⟩

def command : SourceEventId := ⟨"command", by decide⟩

def asked : SourceEventId := ⟨"asked", by decide⟩

def answered : SourceEventId := ⟨"answered", by decide⟩

def view : AgentEventView where
  sourceEventId := asked
  conversation := ⟨.group, "g"⟩
  actor := ⟨account, "7", some .external⟩
  occurredAtUnixSecs := 0
  role := .externalObservation
  contentTrustLevel := .normal
  excerpt := "when is the meeting"
  mentionedActors := []
  mentionAll := false
  replyToEventId := none
  threadId := none

/-- A request with one recent event, and one excerpt that was retrieved. -/
def input (retrieved : SourceEventId) : PlannerInput where
  account := account
  command := ⟨command, ⟨.ownerControl, "o"⟩, 0, "remind me of the meeting"⟩
  recentEvents := []
  recentEventViews := [view]
  timezoneOffsetSecs := 0
  timezone := "UTC"
  nowUnixSecs := 0
  retrieved := [⟨retrieved, "when is the meeting", 0, "7", .external⟩]
  observations := []
  workingContext := none
  replanRound := 0
  remainingQueryBudget := 2

def order : MapOrder (String × SourceEventId) := ⟨id, fun _ => .rfl⟩

theorem built {retrieved : SourceEventId} {entries : List (String × SourceEventId)}
    (h : (buildLlmViews order false (input retrieved)).toOption.map
      (·.tempRefMap.events.entries) = some entries) :
    ∃ views, buildLlmViews order false (input retrieved) = .ok views ∧
      views.tempRefMap.events.entries = entries := by
  cases hviews : buildLlmViews order false (input retrieved) with
  | error e =>
    rw [hviews] at h
    cases h
  | ok views =>
    rw [hviews] at h
    exact ⟨views, rfl, Option.some.inj h⟩

/-- Another event was retrieved: the labels are as they should be. -/
theorem labels_distinct : ∃ views, buildLlmViews order false (input answered) = .ok views ∧
    LabelsInjective views ∧ EvidenceAccepted views := by
  have hentr : (buildLlmViews order false (input answered)).toOption.map
      (·.tempRefMap.events.entries) =
        some [("evt_1", command), ("evt_2", asked), ("evt_3", answered)] := by decide
  obtain ⟨views, hviews, -⟩ := built hentr
  exact ⟨views, hviews, (labels_distinct_iff order false (input answered) views hviews).mpr (by decide)⟩

/-- What the model answers when it cites the two excerpts that it was shown. -/
def proposal : SecretaryActionProposal where
  proposalId := "p"
  action := .getSecretaryStatus
  rationale := "both messages are about the meeting"
  sourceEventIds := [asked, asked]
  idempotencyKey := none

/-- The recent event was retrieved as well: it has two labels, and who cites both is refused. -/
theorem cited_twice : ∃ views, buildLlmViews order false (input asked) = .ok views ∧
    resolveEventRefs ["evt_2", "evt_3"] views.tempRefMap = .ok proposal.sourceEventIds ∧
    validateActionProposal proposal =
      .error (.invalidProposal "proposal source events must be unique") ∧
    ¬ (LabelsInjective views ∧ EvidenceAccepted views) := by
  have hentr : (buildLlmViews order false (input asked)).toOption.map
      (·.tempRefMap.events.entries) =
        some [("evt_1", command), ("evt_2", asked), ("evt_3", asked)] := by decide
  obtain ⟨views, hviews, hmap⟩ := built hentr
  have hsec : views.tempRefMap.resolveEvent "evt_2" = some asked :=
    Labels.resolve_eq_some.mpr (by simp [hmap])
  have hthird : views.tempRefMap.resolveEvent "evt_3" = some asked :=
    Labels.resolve_eq_some.mpr (by simp [hmap])
  refine ⟨views, hviews, ?_, rfl, fun h => ?_⟩
  · rw [resolveEventRefs, List.mapM_cons, resolveRef_ok.mpr hsec, List.mapM_cons,
      resolveRef_ok.mpr hthird]
    rfl
  · have hnd := (labelsInjective_iff hviews).mp h.1
    revert hnd
    decide

end RecentAndRetrieved

end ServerRS.PlannerViews
