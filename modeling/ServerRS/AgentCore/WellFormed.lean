import ServerRS.AgentCore.Definition

/-!
# What compilation accepts

`WellFormed` says what a definition has to be. The checks of `compile` accept the well-formed
definitions and no others (`compile_iff_wellFormed`): each check is one condition, and the two
searches mark what a path from the entry, or a path to an end, goes through. The earlier checks keep
the forward search on nodes that have a transition, so its lookup always finds one.
-/

namespace ServerRS.AgentCore

open Lib

variable {B W : Type}

/-! ## The two directions of the transition table -/

section

variable (transitions : BTreeMap NodeId (TransitionRule B W))

/-- The successors that `validate_reachability` pushes. -/
def successors (node : NodeId) : List NodeId :=
  match transitions[node]? with
  | some transition => transition.targets
  | none => []

/-- The predecessors that `validate_terminal_paths` pushes. -/
def predecessors (node : NodeId) : List NodeId :=
  ((edges transitions).filter fun edge => edge.2 == node).map Prod.fst

def terminalNodes : List NodeId :=
  (transitions.toList.filter fun entry => entry.2.isEnd).map Prod.fst

end

section

variable {transitions : BTreeMap NodeId (TransitionRule B W)} {source target : NodeId}

theorem mem_successors : target ∈ successors transitions source ↔
    ∃ transition, transitions[source]? = some transition ∧ target ∈ transition.targets := by
  unfold successors
  cases transitions[source]? with
  | none => simp
  | some transition => simp

theorem mem_edges : (source, target) ∈ edges transitions ↔
    target ∈ successors transitions source := by
  rw [mem_successors]
  simp only [edges, List.mem_flatMap, List.mem_map, Prod.exists, Prod.mk.injEq,
    Std.TreeMap.mem_toList_iff_getElem?_eq_some]
  constructor
  · rintro ⟨source, transition, hsrc, target, htgt, rfl, rfl⟩
    exact ⟨transition, hsrc, htgt⟩
  · rintro ⟨transition, hsrc, htgt⟩
    exact ⟨source, transition, hsrc, target, htgt, rfl, rfl⟩

theorem mem_predecessors : source ∈ predecessors transitions target ↔
    target ∈ successors transitions source := by
  rw [← mem_edges]
  simp only [predecessors, List.mem_map, List.mem_filter, beq_iff_eq, Prod.exists]
  constructor
  · rintro ⟨source, target, ⟨hedge, rfl⟩, rfl⟩
    exact hedge
  · exact fun hedge => ⟨source, target, ⟨hedge, rfl⟩, rfl⟩

theorem mem_terminalNodes : source ∈ terminalNodes transitions ↔
    transitions[source]? = some .atEnd := by
  simp only [terminalNodes, List.mem_map, List.mem_filter, Prod.exists,
    Std.TreeMap.mem_toList_iff_getElem?_eq_some]
  constructor
  · rintro ⟨node, transition, ⟨hnode, hend⟩, rfl⟩
    cases transition with
    | atEnd => exact hnode
    | goto next => cases hend
    | branch router targets => cases hend
  · exact fun hnode => ⟨source, .atEnd, ⟨hnode, rfl⟩, rfl⟩

theorem length_successors_le (node : NodeId) : (successors transitions node).length ≤
    (edges transitions).countP fun edge => edge.1 = node := by
  unfold successors
  cases hnode : transitions[node]? with
  | none => exact Nat.zero_le _
  | some transition =>
    obtain ⟨front, back, hspl⟩ :=
      List.append_of_mem (Std.TreeMap.mem_toList_iff_getElem?_eq_some.mpr hnode)
    have hown : (transition.targets.map fun target => (node, target)).countP
        (fun edge => edge.1 = node) = transition.targets.length := by
      rw [List.countP_map]
      exact List.countP_eq_length.mpr fun target _ => decide_eq_true rfl
    rw [edges, hspl, List.flatMap_append, List.flatMap_cons, List.countP_append,
      List.countP_append, hown]
    dsimp only
    omega

theorem length_predecessors_le (node : NodeId) : (predecessors transitions node).length ≤
    (edges transitions).countP fun edge => edge.2 = node := by
  rw [predecessors, List.length_map, ← List.countP_eq_length_filter]
  exact le_of_eq (List.countP_congr fun edge _ => by rw [beq_iff_eq, decide_eq_true_iff])

/-- A path over predecessors is a path over successors, read backwards. -/
theorem path_predecessors : Lib.Path (predecessors transitions) target source ↔
    Lib.Path (successors transitions) source target := by
  have hswap : (fun a b => b ∈ predecessors transitions a) =
      Function.swap fun a b => b ∈ successors transitions a := by
    funext a b
    exact propext mem_predecessors
  unfold Lib.Path
  rw [hswap, Relation.reflTransGen_swap]

end

/-! ## Well-formed definitions -/

variable [AgentBusinessState B]

structure GraphDefinition.WellFormed (self : GraphDefinition B W) : Prop where
  exits : ∀ exit, exit ∉ self.unresolvedFragmentExits
  transition : ∀ node ∈ self.nodes, node ∈ self.transitions
  target : ∀ (source : NodeId) (transition : TransitionRule B W),
    self.transitions[source]? = some transition → ∀ target ∈ transition.targets, target ∈ self.nodes
  branch : ∀ (source : NodeId) (router : Router B W) (targets : BTreeMap RouteKey NodeId),
    self.transitions[source]? = some (.branch router targets) → targets.isEmpty = false ∧
      router.knownRoutes.Nodup ∧ ∀ route, route ∈ targets ↔ route ∈ router.knownRoutes
  reachable : ∃ entry ∈ self.nodes, self.entry = some entry ∧
    ∀ node ∈ self.nodes, Lib.Path (successors self.transitions) entry node
  terminal : ∀ node ∈ self.nodes, ∃ last ∈ self.nodes,
    self.transitions[last]? = some .atEnd ∧ Lib.Path (successors self.transitions) node last

/-! ## The checks -/

theorem collectRoutes_ok_iff {source : NodeId} {routes : List RouteKey}
    {before : BTreeSet RouteKey} : (∃ after, collectRoutes source routes before = .ok after) ↔
      routes.Nodup ∧ ∀ route ∈ routes, route ∉ before := by
  induction routes generalizing before with
  | nil => simp [collectRoutes]
  | cons head rest ih =>
    have hins : ∀ route, route ∈ before.insert head ↔ head = route ∨ route ∈ before := by
      intro route
      rw [Std.TreeSet.mem_insert, Std.LawfulEqOrd.compare_eq_iff_eq]
    unfold collectRoutes
    split
    · next hseen =>
      constructor
      · rintro ⟨after, h⟩
        cases h
      · rintro ⟨-, hfr⟩
        exact absurd hseen (hfr head List.mem_cons_self)
    · next hnew =>
      rw [ih, List.nodup_cons, List.forall_mem_cons]
      constructor
      · rintro ⟨hnd, hfr⟩
        refine ⟨⟨fun hmem => ?_, hnd⟩, hnew, fun route hrt hold => ?_⟩
        · exact hfr head hmem ((hins head).mpr (.inl rfl))
        · exact hfr route hrt ((hins route).mpr (.inr hold))
      · rintro ⟨⟨hhead, hnd⟩, -, hfr⟩
        refine ⟨hnd, fun route hrt hold => ?_⟩
        rcases (hins route).mp hold with rfl | hold
        · exact hhead hrt
        · exact hfr route hrt hold

section

variable {nodes : BTreeMap NodeId (AgentNode B W)}
  {transitions : BTreeMap NodeId (TransitionRule B W)}

theorem validateTarget_iff {source target : NodeId} :
    validateTarget nodes source target = .ok () ↔ target ∈ nodes := by
  refine ⟨validateTarget_ok, fun h => ?_⟩
  exact if_pos h

theorem validateTransition_iff {source : NodeId} {transition : TransitionRule B W} :
    validateTransition nodes source transition = .ok () ↔
      (∀ target ∈ transition.targets, target ∈ nodes) ∧
        ∀ router targets, transition = .branch router targets →
          targets.isEmpty = false ∧ router.knownRoutes.Nodup ∧
            ∀ route, route ∈ targets ↔ route ∈ router.knownRoutes := by
  constructor
  · intro h
    refine ⟨validateTransition_target h, ?_⟩
    rintro router targets rfl
    refine ⟨?_, ?_, validateTransition_route h⟩
    all_goals
      rw [validateTransition] at h
      split at h
      · cases h
    · next hnemp => exact Bool.eq_false_iff.mpr hnemp
    · obtain ⟨uniqueRoutes, hcol, -⟩ := Except.bind_ok h
      exact (collectRoutes_ok_iff.mp ⟨uniqueRoutes, hcol⟩).1
  · rintro ⟨htarg, hbran⟩
    cases transition with
    | goto target => exact validateTarget_iff.mpr (htarg target (List.mem_singleton_self _))
    | branch router targets =>
      obtain ⟨hnemp, hnd, hroutes⟩ := hbran router targets rfl
      obtain ⟨uniqueRoutes, hcol⟩ := (@collectRoutes_ok_iff source router.knownRoutes ∅).mpr
        ⟨hnd, by simp⟩
      have hunique : ∀ route, route ∈ uniqueRoutes ↔ route ∈ router.knownRoutes := by
        intro route
        simpa using collectRoutes_mem hcol route
      rw [validateTransition, hnemp]
      refine Except.bind_eq_of_ok hcol (Except.bind_eq_of_ok (a := ()) ?_ ?_)
      · refine Except.forM_eq_ok.mpr fun route hrt => if_pos ?_
        exact (hroutes route).mpr ((hunique route).mp (Std.TreeSet.mem_toList.mp hrt))
      · refine Except.forM_eq_ok.mpr fun entry hent => ?_
        have hget := Std.TreeMap.mem_toList_iff_getElem?_eq_some.mp hent
        have hrt : entry.1 ∈ targets :=
          Std.TreeMap.mem_iff_isSome_getElem?.mpr (by rw [hget]; rfl)
        have hmem : entry.1 ∈ uniqueRoutes := (hunique _).mpr ((hroutes _).mp hrt)
        refine (if_pos hmem).trans (validateTarget_iff.mpr (htarg _ ?_))
        exact List.mem_map_of_mem hent
    | atEnd => rfl

theorem validateTransitions_iff : validateTransitions nodes transitions = .ok () ↔
    ∀ source transition, transitions[source]? = some transition →
      validateTransition nodes source transition = .ok () := by
  refine ⟨fun h source transition hsrc => validateTransitions_get h hsrc, fun h => ?_⟩
  refine Except.forM_eq_ok.mpr fun entry hent => ?_
  exact h entry.1 entry.2 (Std.TreeMap.mem_toList_iff_getElem?_eq_some.mp hent)

theorem validateTransitions_target (h : validateTransitions nodes transitions = .ok ()) :
    ∀ (source : NodeId) (transition : TransitionRule B W),
      transitions[source]? = some transition → ∀ target ∈ transition.targets, target ∈ nodes :=
  fun source transition hsrc =>
    (validateTransition_iff.mp (validateTransitions_iff.mp h source transition hsrc)).1

theorem find_outside_eq_none {marked : BTreeSet NodeId} :
    nodes.keys.find? (fun node => !marked.contains node) = none ↔ ∀ node ∈ nodes, node ∈ marked := by
  rw [List.find?_eq_none]
  constructor
  · intro h node hnode
    simpa using h node (Std.TreeMap.mem_keys.mpr hnode)
  · intro h node hnode
    simpa using h node (Std.TreeMap.mem_keys.mp hnode)

theorem validateReachability_iff {entry : NodeId} :
    validateReachability nodes transitions entry = .ok () ↔
      ∀ node ∈ nodes, Lib.Path (successors transitions) entry node := by
  have hmem : ∀ node, node ∈ worklist (successors transitions)
      ((edges transitions).length + 2) [entry] ∅ ↔ Lib.Path (successors transitions) entry node := by
    intro node
    rw [mem_worklist length_successors_le (by rw [List.length_singleton]; omega)]
    simp
  rw [← forall₂_congr fun node _ => hmem node, ← find_outside_eq_none]
  unfold validateReachability
  dsimp only
  split
  · next node hfnd =>
    constructor
    · exact fun h => (by cases h)
    · intro hnone
      exact absurd (hfnd.symm.trans hnone) (by simp)
  · next hnone => exact ⟨fun _ => hnone, fun _ => rfl⟩

theorem validateTerminalPaths_iff : validateTerminalPaths nodes transitions = .ok () ↔
    (terminalNodes transitions ≠ []) ∧ ∀ node ∈ nodes, ∃ last,
      transitions[last]? = some .atEnd ∧ Lib.Path (successors transitions) node last := by
  have hmem : ∀ node, node ∈ worklist (predecessors transitions)
      ((terminalNodes transitions).length + (edges transitions).length + 1)
      (terminalNodes transitions) ∅ ↔ ∃ last, transitions[last]? = some .atEnd ∧
        Lib.Path (successors transitions) node last := by
    intro node
    rw [mem_worklist length_predecessors_le (by omega)]
    simp only [mem_terminalNodes, path_predecessors]
  rw [← forall₂_congr fun node _ => hmem node, ← find_outside_eq_none]
  show (if (terminalNodes transitions).isEmpty then _ else _) = _ ↔ _
  split
  · next hemp =>
    constructor
    · exact fun h => (by cases h)
    · exact fun h => absurd (List.isEmpty_iff.mp hemp) h.1
  · next hnemp =>
    have hne : terminalNodes transitions ≠ [] := fun h => hnemp (List.isEmpty_iff.mpr h)
    split
    · next node hfnd =>
      constructor
      · exact fun h => (by cases h)
      · rintro ⟨-, hnone⟩
        exact absurd (hfnd.symm.trans hnone) (by simp)
    · next hnone => exact ⟨fun _ => ⟨hne, hnone⟩, fun _ => rfl⟩

end

/-! ## Compilation -/

section

variable {self : GraphDefinition B W} {entry : NodeId}

theorem checkFragmentExits_iff : self.checkFragmentExits = .ok () ↔
    ∀ exit, exit ∉ self.unresolvedFragmentExits := by
  unfold GraphDefinition.checkFragmentExits
  cases hkeys : self.unresolvedFragmentExits.keys with
  | nil =>
    refine ⟨fun _ exit hexit => ?_, fun _ => rfl⟩
    rw [← Std.TreeMap.mem_keys, hkeys] at hexit
    cases hexit
  | cons first rest =>
    constructor
    · exact fun h => (by cases h)
    · intro h
      refine absurd (Std.TreeMap.mem_keys.mp ?_) (h first)
      rw [hkeys]
      exact List.mem_cons_self

theorem checkEntry_iff : self.checkEntry = .ok entry ↔
    self.entry = some entry ∧ entry ∈ self.nodes := by
  unfold GraphDefinition.checkEntry
  cases self.entry with
  | none => simp
  | some found =>
    dsimp only
    split
    · next hmem =>
      constructor
      · intro h
        cases h
        exact ⟨rfl, hmem⟩
      · rintro ⟨h, -⟩
        cases h
        rfl
    · next hmissing =>
      constructor
      · exact fun h => (by cases h)
      · rintro ⟨h, hmem⟩
        cases h
        exact absurd hmem hmissing

theorem checkTransitions_iff : self.checkTransitions = .ok () ↔
    ∀ node ∈ self.nodes, node ∈ self.transitions := by
  unfold GraphDefinition.checkTransitions
  rw [Except.forM_eq_ok]
  constructor
  · intro h node hnode
    have hone := h node (Std.TreeMap.mem_keys.mpr hnode)
    split at hone
    · assumption
    · cases hone
  · exact fun h node hnode => if_pos (h node (Std.TreeMap.mem_keys.mp hnode))

theorem validate_iff : self.validate = .ok entry ↔
    self.checkFragmentExits = .ok () ∧ self.checkEntry = .ok entry ∧
      self.checkTransitions = .ok () ∧
      validateTransitions self.nodes self.transitions = .ok () ∧
      validateReachability self.nodes self.transitions entry = .ok () ∧
      validateTerminalPaths self.nodes self.transitions = .ok () := by
  unfold GraphDefinition.validate
  constructor
  · intro h
    obtain ⟨⟨⟩, hexits, h⟩ := Except.bind_ok h
    obtain ⟨checked, hent, h⟩ := Except.bind_ok h
    obtain ⟨⟨⟩, hnodes, h⟩ := Except.bind_ok h
    obtain ⟨⟨⟩, htrs, h⟩ := Except.bind_ok h
    obtain ⟨⟨⟩, hreac, h⟩ := Except.bind_ok h
    obtain ⟨⟨⟩, hterm, h⟩ := Except.bind_ok h
    cases h
    exact ⟨hexits, hent, hnodes, htrs, hreac, hterm⟩
  · rintro ⟨hexits, hent, hnodes, htrs, hreac, hterm⟩
    exact Except.bind_eq_of_ok hexits (Except.bind_eq_of_ok hent (Except.bind_eq_of_ok hnodes
      (Except.bind_eq_of_ok htrs (Except.bind_eq_of_ok hreac
        (Except.bind_eq_of_ok hterm rfl)))))

theorem path_mem (htgt : ∀ (source : NodeId) (transition : TransitionRule B W),
      self.transitions[source]? = some transition →
        ∀ target ∈ transition.targets, target ∈ self.nodes)
    {source last : NodeId} (hsrc : source ∈ self.nodes)
    (hpath : Lib.Path (successors self.transitions) source last) : last ∈ self.nodes := by
  cases hpath with
  | refl => exact hsrc
  | tail _ hnext =>
    obtain ⟨transition, hget, hmem⟩ := mem_successors.mp hnext
    exact htgt _ transition hget _ hmem

theorem validate_wellFormed_iff : (∃ entry, self.validate = .ok entry) ↔ self.WellFormed := by
  constructor
  · rintro ⟨entry, h⟩
    obtain ⟨hexits, hent, hnodes, htrs, hreac, hterm⟩ := validate_iff.mp h
    obtain ⟨hent, hmem⟩ := checkEntry_iff.mp hent
    have htgt := validateTransitions_target htrs
    refine ⟨checkFragmentExits_iff.mp hexits, checkTransitions_iff.mp hnodes, htgt,
      fun source router targets hsrc => ?_,
      ⟨entry, hmem, hent, validateReachability_iff.mp hreac⟩, fun node hnode => ?_⟩
    · have hrule := validateTransitions_iff.mp htrs source _ hsrc
      exact (validateTransition_iff.mp hrule).2 router targets rfl
    · obtain ⟨last, hend, hpath⟩ := (validateTerminalPaths_iff.mp hterm).2 node hnode
      exact ⟨last, path_mem htgt hnode hpath, hend, hpath⟩
  · rintro ⟨hexits, hnodes, htgt, hbran, ⟨entry, hmem, hent, hreac⟩, hterm⟩
    refine ⟨entry, validate_iff.mpr ⟨checkFragmentExits_iff.mpr hexits,
      checkEntry_iff.mpr ⟨hent, hmem⟩, checkTransitions_iff.mpr hnodes,
      validateTransitions_iff.mpr fun source transition hsrc => ?_,
      validateReachability_iff.mpr hreac, validateTerminalPaths_iff.mpr ⟨?_, ?_⟩⟩⟩
    · refine validateTransition_iff.mpr ⟨htgt source transition hsrc, ?_⟩
      rintro router targets rfl
      exact hbran source router targets hsrc
    · obtain ⟨last, -, hend, -⟩ := hterm entry hmem
      exact List.ne_nil_of_mem (mem_terminalNodes.mpr hend)
    · intro node hnode
      obtain ⟨last, -, hend, hpath⟩ := hterm node hnode
      exact ⟨last, hend, hpath⟩

theorem compile_ok_iff {policy : GraphPolicy} :
    (∃ graph, self.compile policy = .ok graph) ↔ ∃ entry, self.validate = .ok entry := by
  unfold GraphDefinition.compile
  split
  · next error herr =>
    constructor
    · rintro ⟨graph, h⟩
      cases h
    · rintro ⟨entry, h⟩
      rw [herr] at h
      cases h
  · next entry hent => exact ⟨fun _ => ⟨entry, hent⟩, fun _ => ⟨_, rfl⟩⟩

/-- After the earlier checks every node that the forward search pops has a transition. -/
theorem popped_transition (hent : self.checkEntry = .ok entry)
    (hnodes : self.checkTransitions = .ok ())
    (htrs : validateTransitions self.nodes self.transitions = .ok ())
    {node : NodeId} {queue : List NodeId} {reachable : BTreeSet NodeId}
    (hrun : Relation.ReflTransGen (Pop (successors self.transitions)) ([entry], ∅)
      (node :: queue, reachable)) : node ∈ self.transitions := by
  obtain ⟨start, hsta, hpath⟩ := (searched_run hrun).sound node (.inl List.mem_cons_self)
  cases List.mem_singleton.mp hsta
  exact checkTransitions_iff.mp hnodes node
    (path_mem (validateTransitions_target htrs) (checkEntry_iff.mp hent).2 hpath)

/-- `compile` accepts the well-formed definitions; its loops end, and the lookup of a transition in
`validate_reachability`, which runs after the checks before it, finds one. -/
theorem compile_iff_wellFormed (self : GraphDefinition B W) (policy : GraphPolicy) :
    ((∃ graph, self.compile policy = .ok graph) ↔ self.WellFormed) ∧
      (WellFounded fun after before => Pop (successors self.transitions) before after) ∧
      (WellFounded fun after before => Pop (predecessors self.transitions) before after) ∧
      ∀ entry, self.checkFragmentExits = .ok () → self.checkEntry = .ok entry →
        self.checkTransitions = .ok () →
        validateTransitions self.nodes self.transitions = .ok () →
        ∀ node queue reachable, Relation.ReflTransGen (Pop (successors self.transitions))
          ([entry], ∅) (node :: queue, reachable) → node ∈ self.transitions :=
  ⟨compile_ok_iff.trans validate_wellFormed_iff, pop_wellFounded length_successors_le,
    pop_wellFounded length_predecessors_le, fun _ _ hent hnodes htrs _ _ _ hrun =>
      popped_transition hent hnodes htrs hrun⟩

end

end ServerRS.AgentCore
