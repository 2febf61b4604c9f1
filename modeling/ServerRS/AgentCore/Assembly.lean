import ServerRS.AgentCore.Connect
import ServerRS.AgentCore.WellFormed

/-!
# Assembling a graph from fragments

A definition is built by a run of calls, and so is each fragment that it mounts. Every run keeps
`Sound` for the nodes that came from fragments, so mounting is atomic and adds the image of the
fragment, connections commute, and a mounted node whose exits are connected passes the check of the
transitions unless its router has no routes (`assembly_faithful`).
-/

namespace ServerRS.AgentCore

open Lib

variable {B : Type} [AgentBusinessState B] {W : Type}

/-! ## Runs -/

section

variable (B W)

inductive FragmentCall where
  | addNode (node : AgentNode B W)
  | setEntry (entry : NodeId)
  | setTransition (source : NodeId) (transition : TransitionRule B W)
  | declareExit (name : String) (source : NodeId) (route : RouteKey)

inductive BuildCall where
  | addNode (node : AgentNode B W)
  | setEntry (entry : NodeId)
  | setTransition (source : NodeId) (transition : TransitionRule B W)
  | mount (nameSpace : String) (fragment : List (FragmentCall B W))
  | connectExit (exit : FragmentExit) (target : NodeId)

/-- A definition under construction, with the nodes that `mount` has added to it. -/
structure Assembly where
  graph : GraphDefinition B W
  mounted : List NodeId := []

end

/-- What a call leaves: a call that fails changes nothing. -/
def attempt {α ε : Type} (self : α) : Except ε α → α
  | .ok after => after
  | .error _ => self

namespace GraphFragment

def call (self : GraphFragment B W) : FragmentCall B W → GraphFragment B W
  | .addNode node => attempt self (self.addNode node)
  | .setEntry entry => self.setEntry entry
  | .setTransition source transition => attempt self (self.setTransition source transition)
  | .declareExit name source route => attempt self (self.declareExit name source route)

def build (calls : List (FragmentCall B W)) : GraphFragment B W := calls.foldl call {}

end GraphFragment

namespace Assembly

def mount (self : Assembly B W) (nameSpace : String) (fragment : GraphFragment B W) :
    Assembly B W :=
  let after := (GraphDefinition.mount nameSpace fragment self.graph).2
  ⟨after, self.mounted ++ after.nodes.keys.filter fun id => !self.graph.nodes.contains id⟩

def step (self : Assembly B W) : BuildCall B W → Assembly B W
  | .addNode node => { self with graph := attempt self.graph (self.graph.addNode node) }
  | .setEntry entry => { self with graph := self.graph.setEntry entry }
  | .setTransition source transition =>
    { self with graph := attempt self.graph (self.graph.setTransition source transition) }
  | .mount nameSpace fragment => self.mount nameSpace (GraphFragment.build fragment)
  | .connectExit exit target =>
    { self with graph := (GraphDefinition.connectExit exit target self.graph).2 }

def run (id : GraphId) (version : GraphVersion) (calls : List (BuildCall B W)) : Assembly B W :=
  calls.foldl step ⟨GraphDefinition.newVersioned id version, []⟩

end Assembly

/-! ## Adding nodes and rules -/

section

variable {nodes nodes' : BTreeMap NodeId (AgentNode B W)}
  {transitions transitions' : BTreeMap NodeId (TransitionRule B W)} {node : AgentNode B W}
  {transition : TransitionRule B W}

theorem addNodeTo_ok (h : addNodeTo nodes node = .ok nodes') :
    node.id ∉ nodes ∧ nodes' = nodes.insert node.id node := by
  unfold addNodeTo at h
  split at h
  · cases h
  · next hnew =>
    cases h
    exact ⟨hnew, rfl⟩

theorem addNodeTo_mono (h : addNodeTo nodes node = .ok nodes') : ∀ id ∈ nodes, id ∈ nodes' := by
  obtain ⟨-, rfl⟩ := addNodeTo_ok h
  exact fun id hid => Std.TreeMap.mem_insert.mpr (.inr hid)

theorem setTransitionOf_ok {source : NodeId}
    (h : setTransitionOf nodes transitions source transition = .ok transitions') :
    source ∈ nodes ∧ source ∉ transitions ∧
      transitions' = transitions.insert source transition := by
  unfold setTransitionOf at h
  split at h
  · cases h
  next hsrc =>
  split at h
  · cases h
  next hnew =>
  cases h
  exact ⟨by simpa using hsrc, hnew, rfl⟩

theorem setTransitionOf_closed {source : NodeId}
    (h : setTransitionOf nodes transitions source transition = .ok transitions')
    (hcls : ∀ id ∈ transitions, id ∈ nodes) : ∀ id ∈ transitions', id ∈ nodes := by
  obtain ⟨hsrc, -, rfl⟩ := setTransitionOf_ok h
  intro id hid
  rcases Std.TreeMap.mem_insert.mp hid with hsame | hold
  · rw [← Std.LawfulEqOrd.compare_eq_iff_eq.mp hsame]
    exact hsrc
  · exact hcls id hold

end

/-- The rules of a fragment are rules of its nodes. -/
theorem call_closed {fragment : GraphFragment B W} (call : FragmentCall B W)
    (h : ∀ source ∈ fragment.transitions, source ∈ fragment.nodes) :
    ∀ source ∈ (fragment.call call).transitions, source ∈ (fragment.call call).nodes := by
  cases call with
  | addNode node =>
    simp only [GraphFragment.call, GraphFragment.addNode]
    cases hadd : addNodeTo fragment.nodes node with
    | error error => exact h
    | ok nodes => exact fun source hsrc => addNodeTo_mono hadd source (h source hsrc)
  | setEntry entry => exact h
  | setTransition source transition =>
    simp only [GraphFragment.call, GraphFragment.setTransition]
    cases hset : setTransitionOf fragment.nodes fragment.transitions source transition with
    | error error => exact h
    | ok transitions => exact setTransitionOf_closed hset h
  | declareExit name source route =>
    simp only [GraphFragment.call, GraphFragment.declareExit]
    split
    · exact h
    · split
      · exact h
      · exact h

theorem build_closed (calls : List (FragmentCall B W)) :
    ∀ source ∈ (GraphFragment.build calls).transitions,
      source ∈ (GraphFragment.build calls).nodes := by
  induction calls using List.reverseRecOn with
  | nil => simp [GraphFragment.build]
  | append_singleton calls call ih =>
    unfold GraphFragment.build at ih ⊢
    rw [List.foldl_append]
    exact call_closed call ih

/-! ## Every run keeps the invariant -/

variable {rule : TransitionRule B W} {exits : RouteKey → Prop}

/-- The image of a rule is valid where its local targets have become nodes. -/
theorem Image.valid {idMap : BTreeMap NodeId NodeId} {image : TransitionRule B W}
    (himage : Image idMap rule image) {nodes nodes' : BTreeMap NodeId (AgentNode B W)}
    (hnodes : ∀ localId global : NodeId, idMap[localId]? = some global → global ∈ nodes')
    (h : RuleValid nodes exits rule) : RuleValid nodes' exits image := by
  cases himage with
  | goto htgt => exact ⟨hnodes _ _ htgt, h.2⟩
  | branch htotal hglo =>
    rename_i router targets globals
    obtain ⟨hnd, htarg, hkn, hexits⟩ := h
    have hmem : ∀ route, route ∈ globals ↔ route ∈ targets := by
      intro route
      rw [mem_iff_exists_get, mem_iff_exists_get]
      constructor
      · rintro ⟨global, hglob⟩
        obtain ⟨target, htgt, -⟩ := (hglo route global).mp hglob
        exact ⟨target, htgt⟩
      · rintro ⟨target, htgt⟩
        obtain ⟨global, hglob⟩ := htotal route target htgt
        exact ⟨global, (hglo route global).mpr ⟨target, htgt, hglob⟩⟩
    refine ⟨hnd, fun route global hglob => ?_, fun route hrt => ?_, fun route hexit => ?_⟩
    · obtain ⟨target, htgt, hmapped⟩ := (hglo route global).mp hglob
      exact ⟨(htarg route target htgt).1, hnodes target global hmapped⟩
    · exact (hkn route hrt).imp_left (hmem route).mpr
    · exact (hexits route hexit).imp_right (mt (hmem route).mp)

section

variable {self after : GraphDefinition B W} {mounted : List NodeId}

theorem Sound.mounted_mem (hsnd : Sound self mounted) {source : NodeId}
    (hsrc : source ∈ mounted) : source ∈ self.nodes := by
  obtain ⟨rule, hrule, -⟩ := hsnd.rule source hsrc
  exact hsnd.closed source (mem_iff_exists_get.mpr ⟨rule, hrule⟩)

theorem Sound.exit_nameSpace (hsnd : Sound self mounted) :
    ∀ key ∈ self.unresolvedFragmentExits, key.nameSpace ∈ self.mountedNamespaces := by
  intro key hkey
  obtain ⟨site, hsite⟩ := mem_iff_exists_get.mp hkey
  exact (hsnd.exit key site hsite).1

/-- Growing the definition outside the mounted nodes. -/
theorem Sound.extend (hsnd : Sound self mounted) (hcls : after.Closed)
    (hnodes : ∀ id ∈ self.nodes, id ∈ after.nodes)
    (hrules : ∀ (source : NodeId) (rule : TransitionRule B W),
      self.transitions[source]? = some rule → after.transitions[source]? = some rule)
    (hexits : after.unresolvedFragmentExits = self.unresolvedFragmentExits)
    (hnameSpaces : after.mountedNamespaces = self.mountedNamespaces) : Sound after mounted := by
  have hopen : Unresolved after = Unresolved self := by
    unfold Unresolved
    rw [hexits]
  constructor
  case closed => exact hcls
  case rule =>
    intro source hsrc
    obtain ⟨rule, hrule, hval⟩ := hsnd.rule source hsrc
    rw [hopen]
    exact ⟨rule, hrules source rule hrule, hval.mono hnodes⟩
  case exit =>
    rw [hexits, hnameSpaces]
    exact hsnd.exit
  case distinct =>
    rw [hexits]
    exact hsnd.distinct

section Mounted

variable {nameSpace : String} {fragment : GraphFragment B W} {handle : MountedFragment}
  {idMap : BTreeMap NodeId NodeId}

/-- The exits of the nodes that were there stay as they are. -/
theorem embedded_old (hsnd : Sound self mounted)
    (hemb : Embedded self after nameSpace fragment handle idMap) {source : NodeId}
    (hsrc : source ∈ mounted) : Unresolved after source = Unresolved self source := by
  funext route
  rw [eq_iff_iff]
  constructor
  · rintro ⟨key, hkey⟩
    obtain hbef | ⟨-, localId, -, hglob⟩ := (hemb.exits key source route).mp hkey
    · exact ⟨key, hbef⟩
    · exact ((hemb.renames.image localId source hglob).2.2 (hsnd.mounted_mem hsrc)).elim
  · rintro ⟨key, hkey⟩
    exact ⟨key, (hemb.exits key source route).mpr (.inl hkey)⟩

/-- The exits of a new node are those that its fragment declares. -/
theorem embedded_new (hsnd : Sound self mounted)
    (hemb : Embedded self after nameSpace fragment handle idMap) {localId global : NodeId}
    (hglob : idMap[localId]? = some global) :
    Unresolved after global = Declares fragment localId := by
  funext route
  rw [eq_iff_iff]
  constructor
  · rintro ⟨key, hkey⟩
    obtain hbef | ⟨-, other, hdecl, hoth⟩ := (hemb.exits key global route).mp hkey
    · have hmem := hsnd.mounted_mem (hsnd.exit key _ hbef).2
      exact ((hemb.renames.image localId global hglob).2.2 hmem).elim
    · cases hemb.injective other localId global hoth hglob
      exact ⟨key.name, hdecl⟩
  · rintro ⟨name, hname⟩
    exact ⟨⟨nameSpace, name⟩, (hemb.exits _ global route).mpr
      (.inr ⟨rfl, localId, hname, hglob⟩)⟩

theorem embedded_sound (hsnd : Sound self mounted) (hfrag : fragment.Valid)
    (hemb : Embedded self after nameSpace fragment handle idMap) :
    Sound after (mounted ++ after.nodes.keys.filter fun id => !self.nodes.contains id) := by
  have hglo : ∀ localId global : NodeId, idMap[localId]? = some global →
      global ∈ after.nodes := by
    intro localId global hglob
    obtain ⟨inner, hinner⟩ := mem_iff_exists_get.mp (hemb.renames.image localId global hglob).1
    exact mem_iff_exists_get.mpr ⟨_, (hemb.nodes global _).mpr
      (.inr ⟨localId, inner, hinner, hglob, rfl⟩)⟩
  have hnodes : ∀ id ∈ self.nodes, id ∈ after.nodes := by
    intro id hid
    obtain ⟨node, hnode⟩ := mem_iff_exists_get.mp hid
    exact mem_iff_exists_get.mpr ⟨node, (hemb.nodes id node).mpr (.inl hnode)⟩
  have hadded : ∀ localId global : NodeId, idMap[localId]? = some global →
      global ∈ after.nodes.keys.filter fun id => !self.nodes.contains id := by
    intro localId global hglob
    rw [List.mem_filter, Std.TreeMap.mem_keys]
    have hnew : ¬self.nodes.contains global = true :=
      (hemb.renames.image localId global hglob).2.2
    rw [Bool.not_eq_true']
    exact ⟨hglo localId global hglob, Bool.eq_false_iff.mpr hnew⟩
  constructor
  case closed =>
    intro source hsrc
    obtain ⟨rule, hrule⟩ := mem_iff_exists_get.mp hsrc
    obtain hbef | ⟨localId, inner, -, hglob, -⟩ := hemb.added source rule hrule
    · exact hnodes source (hsnd.closed source (mem_iff_exists_get.mpr ⟨rule, hbef⟩))
    · exact hglo localId source hglob
  case rule =>
    intro source hsrc
    rcases List.mem_append.mp hsrc with hold | hnew
    · obtain ⟨rule, hrule, hval⟩ := hsnd.rule source hold
      rw [embedded_old hsnd hemb hold]
      exact ⟨rule, hemb.kept source rule hrule, hval.mono hnodes⟩
    · rw [List.mem_filter, Std.TreeMap.mem_keys] at hnew
      obtain ⟨node, hnode⟩ := mem_iff_exists_get.mp hnew.1
      obtain hbef | ⟨localId, inner, hinner, hglob, -⟩ := (hemb.nodes source node).mp hnode
      · have hcont : self.nodes.contains source = true := mem_iff_exists_get.mpr ⟨node, hbef⟩
        rw [hcont] at hnew
        cases hnew.2
      · obtain ⟨innerRule, hinnerRule⟩ := mem_iff_exists_get.mp
          (hfrag.transition localId (mem_iff_exists_get.mpr ⟨inner, hinner⟩))
        obtain ⟨rule, hrule, himage⟩ := hemb.all localId source innerRule hinnerRule hglob
        rw [embedded_new hsnd hemb hglob]
        exact ⟨rule, hrule, himage.valid hglo (hfrag.rule localId innerRule hinnerRule)⟩
  case exit =>
    intro key site hsite
    rw [(hemb.nameSpaces).2, List.mem_append]
    obtain hbef | ⟨hname, localId, -, hglob⟩ := (hemb.exits key site.1 site.2).mp hsite
    · exact (hsnd.exit key _ hbef).imp .inr .inl
    · exact ⟨.inl hname, .inr (hadded localId site.1 hglob)⟩
  case distinct =>
    intro a b site ha hb
    obtain hbeforeA | ⟨hnameA, localA, hexitA, hglobalA⟩ := (hemb.exits a site.1 site.2).mp ha
    · obtain hbeforeB | ⟨-, localB, -, hglobalB⟩ := (hemb.exits b site.1 site.2).mp hb
      · exact hsnd.distinct a b _ hbeforeA hbeforeB
      · have hmem := hsnd.mounted_mem (hsnd.exit a _ hbeforeA).2
        exact ((hemb.renames.image localB site.1 hglobalB).2.2 hmem).elim
    · obtain hbeforeB | ⟨hnameB, localB, hexitB, hglobalB⟩ := (hemb.exits b site.1 site.2).mp hb
      · have hmem := hsnd.mounted_mem (hsnd.exit b _ hbeforeB).2
        exact ((hemb.renames.image localA site.1 hglobalA).2.2 hmem).elim
      · cases hemb.injective localA localB site.1 hglobalA hglobalB
        have hnames := hfrag.exit_distinct a.name b.name _ hexitA hexitB
        cases a
        cases b
        cases hnames
        cases hnameA
        cases hnameB
        rfl

end Mounted

end

theorem step_sound {self : Assembly B W} (h : Sound self.graph self.mounted)
    (call : BuildCall B W) : Sound (self.step call).graph (self.step call).mounted := by
  cases call with
  | addNode node =>
    simp only [Assembly.step, GraphDefinition.addNode]
    cases hadd : addNodeTo self.graph.nodes node with
    | error error => exact h
    | ok nodes =>
      have hmono := addNodeTo_mono hadd
      exact h.extend (fun source hsrc => hmono source (h.closed source hsrc)) hmono
        (fun _ _ hrule => hrule) rfl rfl
  | setEntry entry => exact h.extend h.closed (fun _ hid => hid) (fun _ _ hrule => hrule) rfl rfl
  | setTransition source transition =>
    simp only [Assembly.step, GraphDefinition.setTransition]
    cases hset : setTransitionOf self.graph.nodes self.graph.transitions source transition with
    | error error => exact h
    | ok transitions =>
      refine h.extend (setTransitionOf_closed hset h.closed) (fun _ hid => hid) ?_ rfl rfl
      intro other rule hrule
      obtain ⟨-, hnew, rfl⟩ := setTransitionOf_ok hset
      show (self.graph.transitions.insert source transition)[other]? = some rule
      rw [Std.TreeMap.getElem?_insert, if_neg, hrule]
      intro hsame
      cases Std.LawfulEqOrd.compare_eq_iff_eq.mp hsame
      exact hnew (mem_iff_exists_get.mpr ⟨rule, hrule⟩)
  | mount nameSpace fragment =>
    rw [Assembly.step, Assembly.mount]
    generalize hmount :
      GraphDefinition.mount nameSpace (GraphFragment.build fragment) self.graph = result
    obtain ⟨outcome, after⟩ := result
    obtain ⟨-, rfl⟩ | ⟨handle, idMap, -, hval, hemb⟩ :=
      mount_embeds h.closed h.exit_nameSpace (build_closed fragment) hmount
    · -- a call that has failed has added no node
      have hnone : (self.graph.nodes.keys.filter fun id => !self.graph.nodes.contains id) = [] := by
        refine List.filter_eq_nil_iff.mpr fun id hid => ?_
        have hcont : self.graph.nodes.contains id = true := Std.TreeMap.mem_keys.mp hid
        simp [hcont]
      dsimp only
      rw [hnone, List.append_nil]
      exact h
    · exact embedded_sound h hval hemb
  | connectExit exit target =>
    obtain ⟨-, error, hcall⟩ | ⟨hconnectable, router, targets, hrule, -, hcall⟩ :=
      connectExit_cases h (exit, target)
    · simp only [Assembly.step]
      rw [hcall]
      exact h
    · simp only [Assembly.step]
      rw [hcall]
      exact connected_sound h hconnectable hrule

theorem run_sound (id : GraphId) (version : GraphVersion) (calls : List (BuildCall B W)) :
    Sound (Assembly.run id version calls).graph (Assembly.run id version calls).mounted := by
  induction calls using List.reverseRecOn with
  | nil =>
    constructor
    case closed => simp [GraphDefinition.Closed, Assembly.run, GraphDefinition.newVersioned]
    case rule => simp [Assembly.run]
    case exit => simp [Assembly.run, GraphDefinition.newVersioned]
    case distinct => simp [Assembly.run, GraphDefinition.newVersioned]
  | append_singleton calls call ih =>
    unfold Assembly.run at ih ⊢
    rw [List.foldl_append]
    exact step_sound ih call

/-! ## What the check of the transitions finds -/

theorem valid_transition {nodes : BTreeMap NodeId (AgentNode B W)} (source : NodeId)
    (h : RuleValid nodes exits rule) (hcon : ∀ route, ¬exits route) :
    validateTransition nodes source rule = .ok () ∨
      ∃ router targets, rule = .branch router targets ∧ router.knownRoutes = [] ∧
        validateTransition nodes source rule = .error (.emptyBranch source) := by
  cases rule with
  | goto target => exact .inl (validateTarget_iff.mpr h.1)
  | branch router targets =>
    obtain ⟨hnd, htarg, hkn, -⟩ := h
    have hroutes : ∀ route, route ∈ targets ↔ route ∈ router.knownRoutes := by
      intro route
      constructor
      · intro hrt
        obtain ⟨target, htgt⟩ := mem_iff_exists_get.mp hrt
        exact (htarg route target htgt).1
      · exact fun hrt => (hkn route hrt).resolve_right (hcon route)
    by_cases hemp : targets.isEmpty = true
    · refine .inr ⟨router, targets, rfl, List.eq_nil_iff_forall_not_mem.mpr fun route hrt => ?_, ?_⟩
      · exact Std.TreeMap.not_mem_of_isEmpty hemp ((hroutes route).mpr hrt)
      · rw [validateTransition, if_pos hemp]
    · refine .inl (validateTransition_iff.mpr ⟨fun target htgt => ?_, ?_⟩)
      · obtain ⟨entry, hent, rfl⟩ := List.mem_map.mp htgt
        exact (htarg entry.1 entry.2 (Std.TreeMap.mem_toList_iff_getElem?_eq_some.mp hent)).2
      · rintro router' targets' hsame
        cases hsame
        exact ⟨Bool.eq_false_iff.mpr hemp, hnd, hroutes⟩
  | atEnd => exact h.elim

/-! ## Assembled graphs -/

/-- What a definition under construction promises about its fragments. -/
structure Assembly.Faithful (assembly : Assembly B W) : Prop where
  /-- A call of `mount` fails and changes nothing, or adds the image of the fragment. -/
  mount : ∀ (nameSpace : String) (fragment : List (FragmentCall B W))
    (outcome : Except BuildFailure MountedFragment) (after : GraphDefinition B W),
    GraphDefinition.mount nameSpace (GraphFragment.build fragment) assembly.graph =
        (outcome, after) →
      (∃ error, outcome = .error (.error error)) ∧ after = assembly.graph ∨
        ∃ handle idMap, outcome = .ok handle ∧
          Embedded assembly.graph after nameSpace (GraphFragment.build fragment) handle idMap
  /-- A call of `connect_exit` fails and changes nothing, or resolves its exit and gives the open
  route the target. -/
  connect : ∀ call : FragmentExit × NodeId,
    (¬Connectable assembly.graph call ∧ ∃ error,
      GraphDefinition.connectExit call.1 call.2 assembly.graph =
        (rejectBuild error, assembly.graph)) ∨
      Connectable assembly.graph call ∧ ∃ router targets,
        assembly.graph.transitions[call.1.source]? = some (.branch router targets) ∧
          call.1.route ∉ targets ∧ GraphDefinition.connectExit call.1 call.2 assembly.graph =
            (.ok (), assembly.graph.connected call router targets)
  /-- Connections that go through do so in any order. -/
  order : ∀ calls calls' : List (FragmentExit × NodeId), calls.Perm calls' →
    (connectAll calls assembly.graph).2 = calls → (connectAll calls' assembly.graph).2 = calls'
  /-- The table depends on the connections that went through, not on their order. -/
  table : ∀ calls calls' : List (FragmentExit × NodeId),
    (connectAll calls assembly.graph).2.Perm (connectAll calls' assembly.graph).2 →
      (connectAll calls assembly.graph).1.table = (connectAll calls' assembly.graph).1.table
  /-- A mounted node whose exits are connected passes the check, unless its router has no routes. -/
  checked : ∀ (calls : List (FragmentExit × NodeId)) (graph : GraphDefinition B W),
    (connectAll calls assembly.graph).1 = graph → ∀ source ∈ assembly.mounted,
      (∀ route, ¬Unresolved graph source route) → ∃ rule, graph.transitions[source]? = some rule ∧
        (validateTransition graph.nodes source rule = .ok () ∨
          ∃ router targets, rule = .branch router targets ∧ router.knownRoutes = [] ∧
            validateTransition graph.nodes source rule = .error (.emptyBranch source))

/-- Whatever calls have built a definition, fragments are mounted in it and connected faithfully. -/
theorem assembly_faithful (id : GraphId) (version : GraphVersion) (calls : List (BuildCall B W)) :
    (Assembly.run id version calls).Faithful := by
  have hsnd := run_sound id version calls
  constructor
  case mount =>
    intro nameSpace fragment outcome after hmount
    refine (mount_embeds hsnd.closed hsnd.exit_nameSpace (build_closed fragment) hmount).imp_right
      ?_
    rintro ⟨handle, idMap, hout, -, hemb⟩
    exact ⟨handle, idMap, hout, hemb⟩
  case connect => exact connectExit_cases hsnd
  case order => exact fun calls calls' hperm => connectAll_any_order hsnd hperm
  case table => exact fun calls calls' hperm => connectAll_perm hsnd hperm
  case checked =>
    rintro connections graph rfl source hsrc hcon
    obtain ⟨rule, hrule, hval⟩ := (connectAll_sound hsnd connections).rule source hsrc
    exact ⟨rule, hrule, valid_transition source hval hcon⟩

end ServerRS.AgentCore
