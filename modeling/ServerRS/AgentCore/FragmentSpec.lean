import ServerRS.AgentCore.Fragment

/-!
# What a fragment has to be

`GraphFragment.Valid` is what `validate_fragment` establishes (`validateFragment_valid`): every
route of a router has a target or is a declared exit, and not both. The check itself never panics
(`validateFragment_quiet`).
-/

namespace ServerRS.AgentCore

open Lib

/-! ## Calls that do not panic -/

/-- The call returns or fails with an error of the source. -/
def Quiet {α : Type} (call : Except BuildFailure α) : Prop := ∀ message, call ≠ .error (.panic message)

section

variable {α β : Type}

theorem quiet_ok (a : α) : Quiet (.ok a : Except BuildFailure α) := fun _ h => (by cases h)

theorem quiet_reject (error : GraphBuildError) : Quiet (rejectBuild error : Except BuildFailure α) :=
  fun _ h => (by cases h)

variable {x : Except BuildFailure α} {value : Option α}

theorem Quiet.bind {f : α → Except BuildFailure β} (hx : Quiet x)
    (hf : ∀ a, x = .ok a → Quiet (f a)) : Quiet (x >>= f) := by
  cases x with
  | error failure =>
    intro message h
    cases h
    exact hx message rfl
  | ok a => exact hf a rfl

theorem quiet_forM {f : α → Except BuildFailure Unit} {l : List α} (h : ∀ a ∈ l, Quiet (f a)) :
    Quiet (l.forM f) := by
  induction l with
  | nil => exact quiet_ok ()
  | cons a l ih =>
    rw [List.forall_mem_cons] at h
    exact h.1.bind fun _ _ => ih h.2

theorem quiet_ite {condition : Prop} [Decidable condition] {y : Except BuildFailure α}
    (hx : condition → Quiet x) (hy : ¬condition → Quiet y) :
    Quiet (if condition then x else y) := by
  split
  · next h => exact hx h
  · next h => exact hy h

theorem quiet_fill {κ ν : Type} [Ord κ] {f : α → Except BuildFailure (κ × ν)} {l : List α}
    {map : BTreeMap κ ν} (h : ∀ a ∈ l, Quiet (f a)) : Quiet (fill f l map) := by
  intro message hfill
  obtain ⟨a, ha, hfa⟩ := fill_error hfill
  exact h a ha message hfa

theorem expect_ok {message : String} {a : α} : expect value message = .ok a ↔ value = some a := by
  cases value <;> simp [expect]

theorem quiet_expect {a : α} (message : String) (h : value = some a) :
    Quiet (expect value message) := by
  rw [h]
  exact quiet_ok a

end

variable {B : Type} [AgentBusinessState B] {W : Type} {fragment : GraphFragment B W}

/-! ## The parts of the check -/

variable {source : NodeId} {routes : List RouteKey} {before : BTreeSet RouteKey}
  {entries : List (String × LocalExit)} {exitsBySource : BTreeMap NodeId (BTreeSet RouteKey)}

theorem validateLocalTarget_ok {target : NodeId} :
    validateLocalTarget fragment source target = .ok () ↔ target ∈ fragment.nodes := by
  unfold validateLocalTarget
  split
  · next h => exact ⟨fun _ => h, fun _ => rfl⟩
  · next h => exact ⟨fun hok => (by cases hok), fun hmem => absurd hmem h⟩

theorem quiet_validateLocalTarget {target : NodeId} :
    Quiet (validateLocalTarget fragment source target) :=
  quiet_ite (fun _ => quiet_ok ()) fun _ => quiet_reject _

theorem rejectExitsOnNonBranch_ok (h : rejectExitsOnNonBranch fragment source = .ok ())
    {name : String} {exit : LocalExit} (hexit : fragment.exits[name]? = some exit) :
    exit.source ≠ source := by
  unfold rejectExitsOnNonBranch at h
  split at h
  · cases h
  · next hnone =>
    have hmem := Std.TreeMap.mem_toList_iff_getElem?_eq_some.mpr hexit
    simpa using List.find?_eq_none.mp hnone (name, exit) hmem

theorem quiet_rejectExitsOnNonBranch : Quiet (rejectExitsOnNonBranch fragment source) := by
  unfold rejectExitsOnNonBranch
  split
  · exact quiet_reject _
  · exact quiet_ok ()

theorem collectKnown_ok {after : BTreeSet RouteKey}
    (h : collectKnown source routes before = .ok after) :
    routes.Nodup ∧ (∀ route ∈ routes, route ∉ before) ∧
      ∀ route, route ∈ after ↔ route ∈ before ∨ route ∈ routes := by
  induction routes generalizing before with
  | nil =>
    cases h
    simp
  | cons head rest ih =>
    rw [collectKnown] at h
    split at h
    · cases h
    next hnew =>
    obtain ⟨hnd, hfr, hmem⟩ := ih h
    have hins : ∀ route, route ∈ before.insert head ↔ head = route ∨ route ∈ before := by
      intro route
      rw [Std.TreeSet.mem_insert, Std.LawfulEqOrd.compare_eq_iff_eq]
    refine ⟨List.nodup_cons.mpr ⟨fun hhead => ?_, hnd⟩,
      List.forall_mem_cons.mpr ⟨hnew, fun route hrt hold => ?_⟩, fun route => ?_⟩
    · exact hfr head hhead ((hins head).mpr (.inl rfl))
    · exact hfr route hrt ((hins route).mpr (.inr hold))
    · rw [hmem, hins, List.mem_cons]
      tauto

theorem quiet_collectKnown : Quiet (collectKnown source routes before) := by
  induction routes generalizing before with
  | nil => exact quiet_ok before
  | cons head rest ih => exact quiet_ite (fun _ => quiet_reject _) fun _ => ih

/-! ## The exits of a node -/

def Declares (fragment : GraphFragment B W) (source : NodeId) (route : RouteKey) : Prop :=
  ∃ name : String, fragment.exits[name]? = some (LocalExit.mk source route)

theorem collectExits_ok {before after : BTreeMap NodeId (BTreeSet RouteKey)}
    (h : collectExits fragment entries before = .ok after) :
    (∀ entry ∈ entries, entry.2.source ∈ fragment.nodes) ∧
      (∀ entry ∈ entries, entry.2.route ∉ before.getD entry.2.source ∅) ∧
      (entries.Pairwise fun a b => a.2 ≠ b.2) ∧
      ∀ source route, route ∈ after.getD source ∅ ↔
        route ∈ before.getD source ∅ ∨ ∃ entry ∈ entries, entry.2 = ⟨source, route⟩ := by
  induction entries generalizing before with
  | nil =>
    cases h
    simp
  | cons entry entries ih =>
    obtain ⟨name, exit⟩ := entry
    rw [collectExits] at h
    split at h
    · cases h
    next hsrc =>
    dsimp only at h
    split at h
    · cases h
    next hrt =>
    obtain ⟨hsrcs, hfr, hpair, hmem⟩ := ih h
    have hins : ∀ source route,
        route ∈ (before.insert exit.source ((before.getD exit.source ∅).insert exit.route)).getD
          source ∅ ↔ exit = ⟨source, route⟩ ∨ route ∈ before.getD source ∅ := by
      intro source route
      rw [Std.TreeMap.getD_insert]
      by_cases hsame : exit.source = source
      · rw [if_pos (Std.LawfulEqOrd.compare_eq_iff_eq.mpr hsame), Std.TreeSet.mem_insert,
          Std.LawfulEqOrd.compare_eq_iff_eq, hsame]
        cases exit
        cases hsame
        simp
      · rw [if_neg (mt Std.LawfulEqOrd.compare_eq_iff_eq.mp hsame)]
        constructor
        · exact .inr
        · rintro (rfl | hold)
          · exact absurd rfl hsame
          · exact hold
    refine ⟨List.forall_mem_cons.mpr ⟨by simpa using hsrc, hsrcs⟩,
      List.forall_mem_cons.mpr ⟨hrt, fun other hoth hold => ?_⟩,
      List.pairwise_cons.mpr ⟨fun other hoth hsame => ?_, hpair⟩, fun source route => ?_⟩
    · exact hfr other hoth ((hins _ _).mpr (.inr hold))
    · exact hfr other hoth ((hins _ _).mpr (.inl hsame))
    · rw [hmem, hins, List.exists_mem_cons_iff]
      tauto

theorem quiet_collectExits {before : BTreeMap NodeId (BTreeSet RouteKey)} :
    Quiet (collectExits fragment entries before) := by
  induction entries generalizing before with
  | nil => exact quiet_ok before
  | cons entry entries ih =>
    exact quiet_ite (fun _ => quiet_reject _) fun _ => quiet_ite (fun _ => quiet_reject _) fun _ => ih

/-! ## Valid fragments -/

/-- The rule of a node whose open routes are the exits. -/
def RuleValid (nodes : BTreeMap NodeId (AgentNode B W)) (exits : RouteKey → Prop) :
    TransitionRule B W → Prop
  | .goto target => target ∈ nodes ∧ ∀ route, ¬exits route
  | .branch router targets => router.knownRoutes.Nodup ∧
      (∀ route target, targets[route]? = some target →
        route ∈ router.knownRoutes ∧ target ∈ nodes) ∧
      (∀ route ∈ router.knownRoutes, route ∈ targets ∨ exits route) ∧
      ∀ route, exits route → route ∈ router.knownRoutes ∧ route ∉ targets
  | .atEnd => False

structure GraphFragment.Valid (fragment : GraphFragment B W) : Prop where
  entry : ∃ entry ∈ fragment.nodes, fragment.entry = some entry
  transition : ∀ node ∈ fragment.nodes, node ∈ fragment.transitions
  exit_source : ∀ source route, Declares fragment source route → source ∈ fragment.nodes
  exit_distinct : ∀ (a b : String) (exit : LocalExit), fragment.exits[a]? = some exit →
    fragment.exits[b]? = some exit → a = b
  rule : ∀ (source : NodeId) (rule : TransitionRule B W), fragment.transitions[source]? = some rule →
    RuleValid fragment.nodes (Declares fragment source) rule

/-- The routes by source are those that are declared. -/
def BySource (fragment : GraphFragment B W) (exitsBySource : BTreeMap NodeId (BTreeSet RouteKey)) :
    Prop :=
  ∀ source route, route ∈ exitsBySource.getD source ∅ ↔ Declares fragment source route

theorem collectExits_bySource
    (h : collectExits fragment fragment.exits.toList ∅ = .ok exitsBySource) :
    BySource fragment exitsBySource := by
  intro source route
  rw [(collectExits_ok h).2.2.2]
  unfold Declares
  constructor
  · rintro (hold | ⟨entry, hent, hexit⟩)
    · simp at hold
    · refine ⟨entry.1, ?_⟩
      rw [← hexit]
      exact Std.TreeMap.mem_toList_iff_getElem?_eq_some.mp hent
  · rintro ⟨name, hname⟩
    exact .inr ⟨_, Std.TreeMap.mem_toList_iff_getElem?_eq_some.mpr hname, rfl⟩

theorem getD_eq : exitsBySource.getD source ∅ = (exitsBySource[source]?).getD ∅ :=
  Std.TreeMap.getD_eq_getD_getElem?

theorem declared_any {route : RouteKey} :
    (exitsBySource[source]?.any fun routes => routes.contains route) = true ↔
      route ∈ exitsBySource.getD source ∅ := by
  rw [getD_eq]
  cases exitsBySource[source]? with
  | none => simp
  | some routes => exact Iff.rfl

theorem mem_declared {route : RouteKey} :
    route ∈ (exitsBySource[source]?.elim [] fun routes => routes.toList) ↔
      route ∈ exitsBySource.getD source ∅ := by
  rw [getD_eq]
  cases exitsBySource[source]? with
  | none => simp
  | some routes => exact Std.TreeSet.mem_toList

theorem validateFragmentTransition_ok (hsrc : BySource fragment exitsBySource)
    {rule : TransitionRule B W}
    (h : validateFragmentTransition fragment exitsBySource source rule = .ok ()) :
    RuleValid fragment.nodes (Declares fragment source) rule := by
  cases rule with
  | goto target =>
    obtain ⟨⟨⟩, htgt, h⟩ := Except.bind_ok h
    refine ⟨validateLocalTarget_ok.mp htgt, ?_⟩
    rintro route ⟨name, hname⟩
    exact rejectExitsOnNonBranch_ok h hname rfl
  | branch router targets =>
    rw [validateFragmentTransition] at h
    obtain ⟨known, hkn, h⟩ := Except.bind_ok h
    obtain ⟨⟨⟩, htargets, h⟩ := Except.bind_ok h
    obtain ⟨⟨⟩, hroutes, hexits⟩ := Except.bind_ok h
    obtain ⟨hnd, -, hmem⟩ := collectKnown_ok hkn
    have hmem : ∀ route, route ∈ known ↔ route ∈ router.knownRoutes := by simpa using hmem
    refine ⟨hnd, fun route target htgt => ?_, fun route hrt => ?_, fun route hdecl => ?_⟩
    · have hone := Except.forM_eq_ok.mp htargets (route, target)
        (Std.TreeMap.mem_toList_iff_getElem?_eq_some.mpr htgt)
      dsimp only at hone
      split at hone
      · next hknownRoute => exact ⟨(hmem route).mp hknownRoute, validateLocalTarget_ok.mp hone⟩
      · cases hone
    · have hone := Except.forM_eq_ok.mp hroutes route
        (Std.TreeSet.mem_toList.mpr ((hmem route).mpr hrt))
      split at hone
      · cases hone
      next hcov =>
      by_cases htgt : route ∈ targets
      · exact .inl htgt
      · refine .inr ((hsrc source route).mp (declared_any.mp ?_))
        have hcont : targets.contains route = false := Bool.eq_false_iff.mpr htgt
        rw [hcont, Bool.not_false, Bool.true_and] at hcov
        simpa using hcov
    · have hone := Except.forM_eq_ok.mp hexits route
        (mem_declared.mpr ((hsrc source route).mpr hdecl))
      unfold validateDeclaredExit at hone
      split at hone
      · obtain ⟨name, -, hone⟩ := Except.bind_ok hone
        cases hone
      next hfree =>
      rw [Bool.or_eq_true, not_or, Bool.not_eq_true', Bool.not_eq_false] at hfree
      exact ⟨(hmem route).mp hfree.1, hfree.2⟩
  | atEnd => cases h

theorem quiet_validateFragmentTransition (hsrc : BySource fragment exitsBySource)
    (source : NodeId) (rule : TransitionRule B W) :
    Quiet (validateFragmentTransition fragment exitsBySource source rule) := by
  cases rule with
  | goto target =>
    exact quiet_validateLocalTarget.bind fun _ _ => quiet_rejectExitsOnNonBranch
  | branch router targets =>
    rw [validateFragmentTransition]
    refine quiet_collectKnown.bind fun known _ => (quiet_forM fun entry _ => ?_).bind fun _ _ =>
      (quiet_forM fun route _ => ?_).bind fun _ _ => quiet_forM fun route hrt => ?_
    · exact quiet_ite (fun _ => quiet_validateLocalTarget) fun _ => quiet_reject _
    · exact quiet_ite (fun _ => quiet_reject _) fun _ => quiet_ok ()
    · refine quiet_ite (fun _ => ?_) fun _ => quiet_ok ()
      -- the route was collected from an exit, and the search finds it
      obtain ⟨name, hname⟩ := (hsrc source route).mp (mem_declared.mp hrt)
      have hmem := Std.TreeMap.mem_toList_iff_getElem?_eq_some.mpr hname
      cases hfind : fragment.exits.toList.find? fun entry =>
          entry.2.source = source && entry.2.route = route with
      | none =>
        have hnone := List.find?_eq_none.mp hfind _ hmem
        simp at hnone
      | some entry => exact quiet_reject _
  | atEnd => exact quiet_reject _

theorem checkFragmentEntry_ok (h : checkFragmentEntry fragment = .ok ()) :
    ∃ entry ∈ fragment.nodes, fragment.entry = some entry := by
  unfold checkFragmentEntry at h
  split at h
  · cases h
  next entry hent =>
  split at h
  · next hmem => exact ⟨entry, hmem, hent⟩
  · cases h

theorem validateFragment_valid (h : validateFragment fragment = .ok ()) : fragment.Valid := by
  obtain ⟨⟨⟩, hent, h⟩ := Except.bind_ok h
  obtain ⟨⟨⟩, -, h⟩ := Except.bind_ok h
  obtain ⟨⟨⟩, hnodes, h⟩ := Except.bind_ok h
  obtain ⟨exitsBySource, hexits, h⟩ := Except.bind_ok h
  obtain ⟨hsrcs, -, hdist, -⟩ := collectExits_ok hexits
  refine ⟨checkFragmentEntry_ok hent, fun node hnode => ?_, ?_, fun a b exit ha hb => ?_,
    fun source rule hrule => ?_⟩
  · have hone := Except.forM_eq_ok.mp hnodes node (Std.TreeMap.mem_keys.mpr hnode)
    split at hone
    · assumption
    · cases hone
  · rintro source route ⟨name, hname⟩
    exact hsrcs _ (Std.TreeMap.mem_toList_iff_getElem?_eq_some.mpr hname)
  · have hmemA := Std.TreeMap.mem_toList_iff_getElem?_eq_some.mpr ha
    have hmemB := Std.TreeMap.mem_toList_iff_getElem?_eq_some.mpr hb
    have hnd : (fragment.exits.toList.map Prod.snd).Nodup := List.pairwise_map.mpr hdist
    exact congrArg Prod.fst (List.inj_on_of_nodup_map hnd hmemA hmemB rfl)
  · have hone := Except.forM_eq_ok.mp h (source, rule)
      (Std.TreeMap.mem_toList_iff_getElem?_eq_some.mpr hrule)
    exact validateFragmentTransition_ok (collectExits_bySource hexits) hone

theorem validateFragment_quiet : Quiet (validateFragment fragment) := by
  refine Quiet.bind ?_ fun _ _ => Quiet.bind ?_ fun _ _ => Quiet.bind ?_ fun _ _ =>
    quiet_collectExits.bind fun exitsBySource hexits => quiet_forM fun entry _ =>
      quiet_validateFragmentTransition (collectExits_bySource hexits) entry.1 entry.2
  · unfold checkFragmentEntry
    split
    · exact quiet_reject _
    · exact quiet_ite (fun _ => quiet_ok ()) fun _ => quiet_reject _
  · exact quiet_ite (fun _ => quiet_reject _) fun _ => quiet_ok ()
  · exact quiet_forM fun node _ => quiet_ite (fun _ => quiet_ok ()) fun _ => quiet_reject _

end ServerRS.AgentCore
