import ServerRS.AgentCore.FragmentSpec

/-!
# What mounting does

`mount` computes everything that it inserts before its first write (`mount_eq`), so a failed call
leaves the definition as it was. What it inserts is the image of the fragment under the map from
local to global ids (`Embedded`), and the `expect`s on the way find what the check of the fragment
has established.
-/

namespace ServerRS.AgentCore

open Lib

variable {B : Type} [AgentBusinessState B] {W : Type}

/-! ## Global ids -/

theorem tryFrom_ok {kind value : String} {id : ValidatedId kind}
    (h : ValidatedId.tryFrom value = .ok id) : id.asStr = value := by
  unfold ValidatedId.tryFrom at h
  split at h
  · cases h
    rfl
  · cases h

/-- The map from local to global ids. -/
structure Renaming (nodes : BTreeMap NodeId (AgentNode B W)) (nameSpace : String)
    (fragment : GraphFragment B W) (idMap : BTreeMap NodeId NodeId) : Prop where
  total : ∀ localId ∈ fragment.nodes, ∃ global, idMap[localId]? = some global
  image : ∀ (localId global : NodeId), idMap[localId]? = some global →
    localId ∈ fragment.nodes ∧ global.asStr = nameSpace ++ "." ++ localId.asStr ∧ global ∉ nodes

section

variable {nodes : BTreeMap NodeId (AgentNode B W)} {nameSpace : String}
  {fragment : GraphFragment B W} {idMap : BTreeMap NodeId NodeId}

theorem Renaming.injective (h : Renaming nodes nameSpace fragment idMap) {a b global : NodeId}
    (ha : idMap[a]? = some global) (hb : idMap[b]? = some global) : a = b := by
  have hsame := (h.image a global ha).2.1.symm.trans (h.image b global hb).2.1
  have hchars := congrArg String.toList hsame
  simp only [String.toList_append] at hchars
  exact ValidatedId.asStr_injective (String.toList_inj.mp (List.append_cancel_left hchars))

theorem globalId_ok {localId : NodeId} {entry : NodeId × NodeId}
    (h : globalId nodes nameSpace localId = .ok entry) :
    entry.1 = localId ∧ entry.2.asStr = nameSpace ++ "." ++ localId.asStr ∧ entry.2 ∉ nodes := by
  unfold globalId at h
  split at h
  · cases h
  next global hglob =>
  split at h
  · cases h
  next hfree =>
  cases h
  exact ⟨rfl, tryFrom_ok hglob, hfree⟩

theorem quiet_globalId {localId : NodeId} : Quiet (globalId nodes nameSpace localId) := by
  unfold globalId
  split
  · exact quiet_reject _
  · exact quiet_ite (fun _ => quiet_reject _) fun _ => quiet_ok _

theorem fill_renaming (h : fill (globalId nodes nameSpace) fragment.nodes.keys ∅ = .ok idMap) :
    Renaming nodes nameSpace fragment idMap := by
  have hlookup : ∀ localId global, idMap[localId]? = some global ↔
      ∃ key ∈ fragment.nodes.keys, globalId nodes nameSpace key = .ok (localId, global) := by
    intro localId global
    refine fill_get h (Std.TreeMap.nodup_keys.imp ?_)
    intro a b hne x y hx hy hsame
    exact hne ((globalId_ok hx).1.symm.trans (hsame.trans (globalId_ok hy).1))
  refine ⟨fun localId hlocal => ?_, fun localId global hget => ?_⟩
  · obtain ⟨entry, hent⟩ := fill_mem_ok h localId (Std.TreeMap.mem_keys.mpr hlocal)
    refine ⟨entry.2, (hlookup localId entry.2).mpr ⟨localId, Std.TreeMap.mem_keys.mpr hlocal, ?_⟩⟩
    rw [hent, ← (globalId_ok hent).1]
  · obtain ⟨key, hkey, hok⟩ := (hlookup localId global).mp hget
    obtain ⟨hsame, hname, hfree⟩ := globalId_ok hok
    cases hsame
    exact ⟨Std.TreeMap.mem_keys.mp hkey, hname, hfree⟩

/-! ## Rewritten transitions -/

/-- The second rule is the first one with global ids. -/
inductive Image (idMap : BTreeMap NodeId NodeId) : TransitionRule B W → TransitionRule B W → Prop
  | goto {target global : NodeId} : idMap[target]? = some global →
      Image idMap (.goto target) (.goto global)
  | branch {router : Router B W} {targets globals : BTreeMap RouteKey NodeId} :
      (∀ (route : RouteKey) (target : NodeId), targets[route]? = some target →
        ∃ global, idMap[target]? = some global) →
      (∀ (route : RouteKey) (global : NodeId), globals[route]? = some global ↔
        ∃ target : NodeId, targets[route]? = some target ∧ idMap[target]? = some global) →
      Image idMap (.branch router targets) (.branch router globals)

omit [AgentBusinessState B] in
theorem rewriteTransition_image {rule image : TransitionRule B W}
    (h : rewriteTransition idMap rule = .ok image) : Image idMap rule image := by
  cases rule with
  | goto target =>
    obtain ⟨global, hglob, h⟩ := Except.bind_ok h
    cases h
    exact .goto (expect_ok.mp hglob)
  | branch router targets =>
    obtain ⟨globals, hfill, h⟩ := Except.bind_ok h
    cases h
    have hstep : ∀ (entry image : RouteKey × NodeId), (do
        let target ← expect idMap[entry.2]? "fragment branch target was validated"
        return (entry.1, target) : Except BuildFailure (RouteKey × NodeId)) = .ok image ↔
          idMap[entry.2]? = some image.2 ∧ entry.1 = image.1 := by
      intro entry image
      constructor
      · intro h
        obtain ⟨global, hglob, h⟩ := Except.bind_ok h
        cases h
        exact ⟨expect_ok.mp hglob, rfl⟩
      · rintro ⟨hglob, hrt⟩
        refine Except.bind_eq_of_ok (expect_ok.mpr hglob) ?_
        rw [hrt]
        rfl
    refine .branch (fun route target htgt => ?_) fun route global => ?_
    · obtain ⟨image, himage⟩ := fill_mem_ok hfill (route, target)
        (Std.TreeMap.mem_toList_iff_getElem?_eq_some.mpr htgt)
      exact ⟨image.2, ((hstep (route, target) image).mp himage).1⟩
    · rw [fill_map_get hfill fun a b x y hx hy hsame =>
        ((hstep a x).mp hx).2.trans (hsame.trans ((hstep b y).mp hy).2.symm)]
      constructor
      · rintro ⟨key, target, htgt, hok⟩
        obtain ⟨hglob, hrt⟩ := (hstep (key, target) (route, global)).mp hok
        cases hrt
        exact ⟨target, htgt, hglob⟩
      · rintro ⟨target, htgt, hglob⟩
        exact ⟨route, target, htgt, (hstep (route, target) (route, global)).mpr ⟨hglob, rfl⟩⟩
  | atEnd => cases h

/-- The targets of a valid rule have global ids. -/
theorem quiet_rewriteTransition (hren : Renaming nodes nameSpace fragment idMap)
    {exits : RouteKey → Prop} {rule : TransitionRule B W}
    (hvalid : RuleValid fragment.nodes exits rule) : Quiet (rewriteTransition idMap rule) := by
  cases rule with
  | goto target =>
    obtain ⟨global, hglob⟩ := hren.total target hvalid.1
    exact (quiet_expect _ hglob).bind fun _ _ => quiet_ok _
  | branch router targets =>
    refine (quiet_fill fun entry hent => ?_).bind fun _ _ => quiet_ok _
    obtain ⟨-, htgt⟩ := hvalid.2.1 entry.1 entry.2
      (Std.TreeMap.mem_toList_iff_getElem?_eq_some.mp hent)
    obtain ⟨global, hglob⟩ := hren.total entry.2 htgt
    exact (quiet_expect _ hglob).bind fun _ _ => quiet_ok _
  | atEnd => exact hvalid.elim

theorem mountNode_ok {entry : NodeId × AgentNode B W} {image : NodeId × AgentNode B W} :
    mountNode idMap entry = .ok image ↔
      idMap[entry.1]? = some image.1 ∧ image.2 = ⟨image.1, entry.2.execute⟩ := by
  unfold mountNode
  constructor
  · intro h
    obtain ⟨global, hglob, h⟩ := Except.bind_ok h
    cases h
    exact ⟨expect_ok.mp hglob, rfl⟩
  · rintro ⟨hglob, hnode⟩
    refine Except.bind_eq_of_ok (expect_ok.mpr hglob) ?_
    rw [← hnode]
    rfl

omit [AgentBusinessState B] in
theorem mountTransition_ok {entry image : NodeId × TransitionRule B W}
    (h : mountTransition idMap entry = .ok image) :
    idMap[entry.1]? = some image.1 ∧ Image idMap entry.2 image.2 := by
  obtain ⟨global, hglob, h⟩ := Except.bind_ok h
  obtain ⟨rule, hrule, h⟩ := Except.bind_ok h
  cases h
  exact ⟨expect_ok.mp hglob, rewriteTransition_image hrule⟩

theorem mountExit_ok {entry : String × LocalExit} {image : String × FragmentExit} :
    mountExit idMap nameSpace entry = .ok image ↔ image.1 = entry.1 ∧
      ∃ source, idMap[entry.2.source]? = some source ∧
        image.2 = ⟨⟨nameSpace, entry.1⟩, entry.1, source, entry.2.route⟩ := by
  unfold mountExit
  constructor
  · intro h
    obtain ⟨source, hsrc, h⟩ := Except.bind_ok h
    cases h
    exact ⟨rfl, source, expect_ok.mp hsrc, rfl⟩
  · rintro ⟨hname, source, hsrc, hexit⟩
    refine Except.bind_eq_of_ok (expect_ok.mpr hsrc) ?_
    rw [← hexit, ← hname]
    rfl

end

/-! ## The call -/

/-- What `mount` has computed before it writes. -/
structure Prepared (B : Type) [AgentBusinessState B] (W : Type) where
  idMap : BTreeMap NodeId NodeId
  entry : NodeId
  nodes : BTreeMap NodeId (AgentNode B W)
  transitions : BTreeMap NodeId (TransitionRule B W)
  exits : BTreeMap String FragmentExit

def prepare (self : GraphDefinition B W) (nameSpace : String) (fragment : GraphFragment B W) :
    Except BuildFailure (Prepared B W) := do
  self.checkNamespace nameSpace
  validateFragment fragment
  let localEntry ← expect fragment.entry "fragment entry was validated"
  let idMap ← fill (globalId self.nodes nameSpace) fragment.nodes.keys ∅
  let entry ← expect idMap[localEntry]? "fragment entry mapping was validated"
  let nodes ← fill (mountNode idMap) fragment.nodes.toList ∅
  let transitions ← fill (mountTransition idMap) fragment.transitions.toList ∅
  let exits ← fill (mountExit idMap nameSpace) fragment.exits.toList ∅
  return { idMap, entry, nodes, transitions, exits }

def Prepared.write (prepared : Prepared B W) (nameSpace : String) (self : GraphDefinition B W) :
    GraphDefinition B W :=
  { self with
    nodes := self.nodes ∪ prepared.nodes
    transitions := self.transitions ∪ prepared.transitions
    mountedNamespaces := self.mountedNamespaces.insert nameSpace
    unresolvedFragmentExits :=
      (prepared.exits.toList.map Prod.snd).foldl GraphDefinition.registerExit
        self.unresolvedFragmentExits }

/-- A call that has failed before it wrote anything, or does all its writes at once. -/
def conclude {σ ε β γ : Type} (s : σ) (done : γ → Except ε β × σ) : Except ε γ → Except ε β × σ
  | .error e => (.error e, s)
  | .ok c => done c

theorem conclude_bind {σ ε α β γ : Type} {s : σ} {r : Except ε α} {k : α → Exec σ ε β}
    {k' : α → Except ε γ} {done : γ → Except ε β × σ} (h : ∀ a, k a s = conclude s done (k' a)) :
    (Exec.ofExcept r >>= k) s = conclude s done (r >>= k') := by
  cases r with
  | error e => rfl
  | ok a => exact h a

theorem mount_eq (self : GraphDefinition B W) (nameSpace : String) (fragment : GraphFragment B W) :
    GraphDefinition.mount nameSpace fragment self = conclude self (fun prepared =>
        (.ok ⟨nameSpace, prepared.entry, prepared.exits⟩, prepared.write nameSpace self))
      (prepare self nameSpace fragment) := by
  unfold GraphDefinition.mount prepare
  rw [Exec.get_bind_apply]
  refine conclude_bind fun _ => conclude_bind fun _ => conclude_bind fun _ => conclude_bind fun _ =>
    conclude_bind fun _ => conclude_bind fun _ => conclude_bind fun _ => conclude_bind fun _ => ?_
  rfl

/-! ## What is prepared -/

section

variable {self : GraphDefinition B W} {nameSpace : String} {fragment : GraphFragment B W}

/-- What is inserted is the image of the fragment. -/
structure Prepared.Spec (prepared : Prepared B W) (graph : GraphDefinition B W)
    (nameSpace : String) (fragment : GraphFragment B W) : Prop where
  valid : fragment.Valid
  nameSpace_new : nameSpace ∉ graph.mountedNamespaces
  renames : Renaming graph.nodes nameSpace fragment prepared.idMap
  entry : ∃ localEntry, fragment.entry = some localEntry ∧
    prepared.idMap[localEntry]? = some prepared.entry
  nodes : ∀ (global : NodeId) (node : AgentNode B W), prepared.nodes[global]? = some node ↔
    ∃ (localId : NodeId) (inner : AgentNode B W), fragment.nodes[localId]? = some inner ∧
      prepared.idMap[localId]? = some global ∧ node = ⟨global, inner.execute⟩
  transitions : ∀ (global : NodeId) (rule : TransitionRule B W),
    prepared.transitions[global]? = some rule → ∃ (localId : NodeId) (inner : TransitionRule B W),
      fragment.transitions[localId]? = some inner ∧ prepared.idMap[localId]? = some global ∧
        Image prepared.idMap inner rule
  transitions_total : ∀ (localId global : NodeId) (inner : TransitionRule B W),
    fragment.transitions[localId]? = some inner → prepared.idMap[localId]? = some global →
      ∃ rule, prepared.transitions[global]? = some rule ∧ Image prepared.idMap inner rule
  exits : ∀ (name : String) (exit : FragmentExit), prepared.exits[name]? = some exit ↔
    ∃ (localExit : LocalExit) (source : NodeId), fragment.exits[name]? = some localExit ∧
      prepared.idMap[localExit.source]? = some source ∧
        exit = ⟨⟨nameSpace, name⟩, name, source, localExit.route⟩

theorem checkNamespace_ok (h : self.checkNamespace nameSpace = .ok ()) :
    nameSpace ∉ self.mountedNamespaces := by
  unfold GraphDefinition.checkNamespace at h
  split at h
  · cases h
  · split at h
    · cases h
    · assumption

theorem prepare_spec {prepared : Prepared B W} (h : prepare self nameSpace fragment = .ok prepared) :
    prepared.Spec self nameSpace fragment := by
  obtain ⟨⟨⟩, hnameSpace, h⟩ := Except.bind_ok h
  obtain ⟨⟨⟩, hvalid, h⟩ := Except.bind_ok h
  obtain ⟨localEntry, hlocal, h⟩ := Except.bind_ok h
  obtain ⟨idMap, hidMap, h⟩ := Except.bind_ok h
  obtain ⟨entry, hent, h⟩ := Except.bind_ok h
  obtain ⟨nodes, hnodes, h⟩ := Except.bind_ok h
  obtain ⟨transitions, htrs, h⟩ := Except.bind_ok h
  obtain ⟨exits, hexits, h⟩ := Except.bind_ok h
  cases h
  have hren := fill_renaming hidMap
  have hkeys : ∀ a b x y : NodeId × TransitionRule B W, mountTransition idMap a = .ok x →
      mountTransition idMap b = .ok y → x.1 = y.1 → a.1 = b.1 := by
    intro a b x y hx hy hsame
    have hb := (mountTransition_ok hy).1
    rw [← hsame] at hb
    exact hren.injective (mountTransition_ok hx).1 hb
  constructor
  case valid => exact validateFragment_valid hvalid
  case nameSpace_new => exact checkNamespace_ok hnameSpace
  case renames => exact hren
  case entry => exact ⟨localEntry, expect_ok.mp hlocal, expect_ok.mp hent⟩
  case nodes =>
    intro global node
    rw [fill_map_get hnodes fun a b x y hx hy hsame => by
      have hb := (mountNode_ok.mp hy).1
      rw [← hsame] at hb
      exact hren.injective (mountNode_ok.mp hx).1 hb]
    simp only [mountNode_ok]
  case transitions =>
    intro global rule hrule
    obtain ⟨localId, inner, hinner, hok⟩ := (fill_map_get htrs hkeys).mp hrule
    exact ⟨localId, inner, hinner, mountTransition_ok hok⟩
  case transitions_total =>
    intro localId global inner hinner hglob
    obtain ⟨image, himage⟩ := fill_mem_ok htrs (localId, inner)
      (Std.TreeMap.mem_toList_iff_getElem?_eq_some.mpr hinner)
    obtain ⟨hsame, hrule⟩ := mountTransition_ok himage
    cases hglob.symm.trans hsame
    exact ⟨image.2, (fill_map_get htrs hkeys).mpr ⟨localId, inner, hinner, himage⟩, hrule⟩
  case exits =>
    intro name exit
    rw [fill_map_get hexits fun a b x y hx hy hsame =>
      (mountExit_ok.mp hx).1.symm.trans (hsame.trans (mountExit_ok.mp hy).1)]
    simp only [mountExit_ok]
    constructor
    · rintro ⟨name', localExit, hexit, hname, source, hsrc, hval⟩
      cases hname
      exact ⟨localExit, source, hexit, hsrc, hval⟩
    · rintro ⟨localExit, source, hexit, hsrc, hval⟩
      exact ⟨name, localExit, hexit, rfl, source, hsrc, hval⟩

theorem checkNamespace_quiet : Quiet (self.checkNamespace nameSpace) := by
  unfold GraphDefinition.checkNamespace
  split
  · exact quiet_reject _
  · exact quiet_ite (fun _ => quiet_reject _) fun _ => quiet_ok ()

/-- The check of the fragment and the map of the ids find what each `expect` looks for. -/
theorem prepare_quiet (hfrag : ∀ source ∈ fragment.transitions, source ∈ fragment.nodes) :
    Quiet (prepare self nameSpace fragment) := by
  refine checkNamespace_quiet.bind fun _ _ => validateFragment_quiet.bind fun _ hvalid => ?_
  have hvalid := validateFragment_valid hvalid
  obtain ⟨localEntry, hmem, hent⟩ := hvalid.entry
  refine (quiet_expect _ hent).bind fun entry hexpect => ?_
  cases hent.symm.trans (expect_ok.mp hexpect)
  refine Quiet.bind (quiet_fill fun _ _ => quiet_globalId) fun idMap hidMap => ?_
  have hren := fill_renaming hidMap
  have hexp : ∀ localId ∈ fragment.nodes, ∀ message, Quiet (expect idMap[localId]? message) := by
    intro localId hlocal message
    obtain ⟨global, hglob⟩ := hren.total localId hlocal
    exact quiet_expect message hglob
  refine (hexp localEntry hmem _).bind fun _ _ => ?_
  refine Quiet.bind (quiet_fill fun entry hent => ?_) fun _ _ => ?_
  · have hnode := Std.TreeMap.mem_toList_iff_getElem?_eq_some.mp hent
    exact (hexp entry.1 (mem_iff_exists_get.mpr ⟨_, hnode⟩) _).bind fun _ _ => quiet_ok _
  refine Quiet.bind (quiet_fill fun entry hent => ?_) fun _ _ => ?_
  · have hrule := Std.TreeMap.mem_toList_iff_getElem?_eq_some.mp hent
    have hsrc := hfrag entry.1 (mem_iff_exists_get.mpr ⟨_, hrule⟩)
    exact (hexp entry.1 hsrc _).bind fun _ _ =>
      (quiet_rewriteTransition hren (hvalid.rule entry.1 entry.2 hrule)).bind fun _ _ => quiet_ok _
  refine Quiet.bind (quiet_fill fun entry hent => ?_) fun _ _ => quiet_ok _
  have hexit := Std.TreeMap.mem_toList_iff_getElem?_eq_some.mp hent
  have hsrc := hvalid.exit_source entry.2.source entry.2.route ⟨entry.1, hexit⟩
  exact (hexp entry.2.source hsrc _).bind fun _ _ => quiet_ok _

end

/-! ## The definition afterwards -/

/-- The transition table has rules for nodes only. -/
def GraphDefinition.Closed (self : GraphDefinition B W) : Prop :=
  ∀ source ∈ self.transitions, source ∈ self.nodes

/-- The call has added the image of the fragment under `idMap`, and nothing else has changed. -/
structure Embedded (graph after : GraphDefinition B W) (nameSpace : String)
    (fragment : GraphFragment B W) (mounted : MountedFragment) (idMap : BTreeMap NodeId NodeId) :
    Prop where
  renames : Renaming graph.nodes nameSpace fragment idMap
  injective : ∀ a b global : NodeId, idMap[a]? = some global → idMap[b]? = some global → a = b
  nodes : ∀ (id : NodeId) (node : AgentNode B W), after.nodes[id]? = some node ↔
    graph.nodes[id]? = some node ∨ ∃ (localId : NodeId) (inner : AgentNode B W),
      fragment.nodes[localId]? = some inner ∧ idMap[localId]? = some id ∧ node = ⟨id, inner.execute⟩
  kept : ∀ (source : NodeId) (rule : TransitionRule B W), graph.transitions[source]? = some rule →
    after.transitions[source]? = some rule
  added : ∀ (source : NodeId) (rule : TransitionRule B W), after.transitions[source]? = some rule →
    graph.transitions[source]? = some rule ∨ ∃ (localId : NodeId) (inner : TransitionRule B W),
      fragment.transitions[localId]? = some inner ∧ idMap[localId]? = some source ∧
        Image idMap inner rule
  all : ∀ (localId source : NodeId) (inner : TransitionRule B W),
    fragment.transitions[localId]? = some inner → idMap[localId]? = some source →
      ∃ rule, after.transitions[source]? = some rule ∧ Image idMap inner rule
  nameSpaces : nameSpace ∉ graph.mountedNamespaces ∧
    ∀ name, name ∈ after.mountedNamespaces ↔ name = nameSpace ∨ name ∈ graph.mountedNamespaces
  keys_new : ∀ key ∈ graph.unresolvedFragmentExits, key.nameSpace ≠ nameSpace
  exits : ∀ (key : FragmentExitKey) (source : NodeId) (route : RouteKey),
    after.unresolvedFragmentExits[key]? = some (source, route) ↔
      graph.unresolvedFragmentExits[key]? = some (source, route) ∨ key.nameSpace = nameSpace ∧
        ∃ localId, fragment.exits[key.name]? = some (LocalExit.mk localId route) ∧
          idMap[localId]? = some source
  same : after.id = graph.id ∧ after.version = graph.version ∧ after.entry = graph.entry
  entry : ∃ localEntry, fragment.entry = some localEntry ∧ idMap[localEntry]? = some mounted.entry
  handles : mounted.nameSpace = nameSpace ∧
    ∀ (name : String) (exit : FragmentExit), mounted.exits[name]? = some exit ↔
      ∃ (localExit : LocalExit) (source : NodeId), fragment.exits[name]? = some localExit ∧
        idMap[localExit.source]? = some source ∧
          exit = ⟨⟨nameSpace, name⟩, name, source, localExit.route⟩

section

variable {self : GraphDefinition B W} {nameSpace : String} {fragment : GraphFragment B W}
  {prepared : Prepared B W}

/-- The exits are registered under keys of their own. -/
theorem registered (hspec : prepared.Spec self nameSpace fragment)
    (hold : ∀ key ∈ self.unresolvedFragmentExits, key.nameSpace ∈ self.mountedNamespaces)
    (key : FragmentExitKey) (source : NodeId) (route : RouteKey) :
    (prepared.write nameSpace self).unresolvedFragmentExits[key]? = some (source, route) ↔
      self.unresolvedFragmentExits[key]? = some (source, route) ∨ key.nameSpace = nameSpace ∧
        ∃ localId, fragment.exits[key.name]? = some (LocalExit.mk localId route) ∧
          prepared.idMap[localId]? = some source := by
  have hfill : fill (fun exit : FragmentExit => (.ok (exit.key, (exit.source, exit.route)) :
      Except BuildFailure _)) (prepared.exits.toList.map Prod.snd) self.unresolvedFragmentExits =
        .ok (prepared.write nameSpace self).unresolvedFragmentExits := fill_pure _ _ _
  have hmem : ∀ exit, exit ∈ prepared.exits.toList.map Prod.snd ↔
      ∃ name : String, prepared.exits[name]? = some exit := by
    intro exit
    simp [Std.TreeMap.mem_toList_iff_getElem?_eq_some]
  rw [fill_lookup hfill]
  · constructor
    · rintro (⟨exit, hexit, hsame⟩ | ⟨-, hbef⟩)
      · obtain ⟨name, hname⟩ := (hmem exit).mp hexit
        obtain ⟨localExit, global, hlocal, hglob, rfl⟩ := (hspec.exits name exit).mp hname
        cases hsame
        exact .inr ⟨rfl, localExit.source, hlocal, hglob⟩
      · exact .inl hbef
    · rintro (hbef | ⟨hname, localId, hlocal, hglob⟩)
      · refine .inr ⟨fun exit hexit value hsame => ?_, hbef⟩
        obtain ⟨name, hname⟩ := (hmem exit).mp hexit
        obtain ⟨localExit, global, hlocal, hglob, rfl⟩ := (hspec.exits name exit).mp hname
        cases hsame
        exact hspec.nameSpace_new (hold _ (mem_iff_exists_get.mpr ⟨_, hbef⟩))
      · cases hname
        exact .inl ⟨_, (hmem _).mpr ⟨key.name, (hspec.exits _ _).mpr
          ⟨_, source, hlocal, hglob, rfl⟩⟩, rfl⟩
  · rw [List.pairwise_map]
    refine List.Pairwise.imp_of_mem ?_ Std.TreeMap.distinct_keys_toList
    intro a b ha hb hne x y hx hy hsame
    obtain ⟨_, _, -, -, hexit⟩ :=
      (hspec.exits a.1 a.2).mp (Std.TreeMap.mem_toList_iff_getElem?_eq_some.mp ha)
    obtain ⟨_, _, -, -, hexit'⟩ :=
      (hspec.exits b.1 b.2).mp (Std.TreeMap.mem_toList_iff_getElem?_eq_some.mp hb)
    cases hx
    cases hy
    rw [hexit, hexit'] at hsame
    exact hne (Std.LawfulEqOrd.compare_eq_iff_eq.mpr (congrArg FragmentExitKey.name hsame))

theorem write_embedded (hspec : prepared.Spec self nameSpace fragment) (hcls : self.Closed)
    (hold : ∀ key ∈ self.unresolvedFragmentExits, key.nameSpace ∈ self.mountedNamespaces) :
    Embedded self (prepared.write nameSpace self) nameSpace fragment
      ⟨nameSpace, prepared.entry, prepared.exits⟩ prepared.idMap := by
  have hnodes : ∀ id ∈ prepared.nodes, id ∉ self.nodes := by
    intro id hid
    obtain ⟨node, hnode⟩ := mem_iff_exists_get.mp hid
    obtain ⟨localId, inner, -, hglob, -⟩ := (hspec.nodes id node).mp hnode
    exact (hspec.renames.image localId id hglob).2.2
  -- a rule that is there belongs to a node that is there
  have htrs : ∀ id ∈ prepared.transitions, id ∉ self.transitions := by
    intro id hid hbef
    obtain ⟨rule, hrule⟩ := mem_iff_exists_get.mp hid
    obtain ⟨localId, inner, -, hglob, -⟩ := hspec.transitions id rule hrule
    exact (hspec.renames.image localId id hglob).2.2 (hcls id hbef)
  constructor
  case renames => exact hspec.renames
  case injective => exact fun _ _ _ => hspec.renames.injective
  case nodes =>
    intro id node
    rw [← hspec.nodes]
    exact union_get hnodes
  case kept => exact fun source rule hrule => (union_get htrs).mpr (.inl hrule)
  case added =>
    intro source rule hrule
    exact ((union_get htrs).mp hrule).imp_right (hspec.transitions source rule)
  case all =>
    intro localId source inner hinner hglob
    obtain ⟨rule, hrule, himage⟩ := hspec.transitions_total localId source inner hinner hglob
    exact ⟨rule, (union_get htrs).mpr (.inr hrule), himage⟩
  case nameSpaces =>
    refine ⟨hspec.nameSpace_new, fun name => ?_⟩
    simp only [Prepared.write, Std.TreeSet.mem_insert, Std.LawfulEqOrd.compare_eq_iff_eq]
    rw [eq_comm]
  case keys_new =>
    rintro key hkey rfl
    exact hspec.nameSpace_new (hold key hkey)
  case exits => exact registered hspec hold
  case same => exact ⟨rfl, rfl, rfl⟩
  case entry => exact hspec.entry
  case handles => exact ⟨rfl, hspec.exits⟩

/-- What a call of `mount` does. -/
theorem mount_embeds (hcls : self.Closed)
    (hold : ∀ key ∈ self.unresolvedFragmentExits, key.nameSpace ∈ self.mountedNamespaces)
    (hfrag : ∀ source ∈ fragment.transitions, source ∈ fragment.nodes)
    {outcome : Except BuildFailure MountedFragment} {after : GraphDefinition B W}
    (h : GraphDefinition.mount nameSpace fragment self = (outcome, after)) :
    (∃ error, outcome = .error (.error error)) ∧ after = self ∨
      ∃ mounted idMap, outcome = .ok mounted ∧ fragment.Valid ∧
        Embedded self after nameSpace fragment mounted idMap := by
  rw [mount_eq] at h
  cases hprep : prepare self nameSpace fragment with
  | error failure =>
    rw [hprep] at h
    cases h
    cases failure with
    | error error => exact .inl ⟨⟨error, rfl⟩, rfl⟩
    | panic message => exact (prepare_quiet hfrag message hprep).elim
  | ok prepared =>
    rw [hprep] at h
    cases h
    have hspec := prepare_spec hprep
    exact .inr ⟨_, prepared.idMap, rfl, hspec.valid, write_embedded hspec hcls hold⟩

end

end ServerRS.AgentCore
