import ServerRS.AgentCore.Node
import ServerRS.Lib.Except
import ServerRS.Lib.Worklist

/-!
# Graph definitions and their compilation

Models `agent-core/src/graph/definition.rs`.

`GraphDefinition.validate` is the sequence of checks of `compile`. A
`CompiledGraph` can only be built from a definition that passed them, and carries
what they establish: its entry is a node, every node has a transition, every
target is a node, and the targets of a branch are exactly its router's routes.
-/

namespace ServerRS.AgentCore

open Lib

structure FragmentExitKey where
  nameSpace : String
  name : String
deriving DecidableEq

namespace FragmentExitKey

instance : Ord FragmentExitKey :=
  ⟨fun a b => (compare a.nameSpace b.nameSpace).then (compare a.name b.name)⟩

instance : Std.TransOrd FragmentExitKey := transCmp_lex nameSpace name

instance : Std.LawfulEqOrd FragmentExitKey :=
  lawfulEqCmp_lex nameSpace name fun a b hnameSpace hname => by
    cases a
    cases b
    cases hnameSpace
    cases hname
    rfl

/-- `Display for FragmentExitKey`. -/
def toText (self : FragmentExitKey) : String := self.nameSpace ++ "." ++ self.name

end FragmentExitKey

variable (B : Type) [AgentBusinessState B] (W : Type)

structure GraphDefinition where
  id : GraphId
  version : GraphVersion
  nodes : BTreeMap NodeId (AgentNode B W) := ∅
  entry : Option NodeId := none
  transitions : BTreeMap NodeId (TransitionRule B W) := ∅
  mountedNamespaces : BTreeSet String := ∅
  unresolvedFragmentExits : BTreeMap FragmentExitKey (NodeId × RouteKey) := ∅

structure CompiledGraph where
  id : GraphId
  version : GraphVersion
  nodes : BTreeMap NodeId (AgentNode B W)
  entry : NodeId
  transitions : BTreeMap NodeId (TransitionRule B W)
  policy : GraphPolicy
  entry_mem : entry ∈ nodes
  transition_mem : ∀ node ∈ nodes, node ∈ transitions
  target_mem : ∀ (source : NodeId) (transition : TransitionRule B W),
    transitions[source]? = some transition → ∀ target ∈ transition.targets, target ∈ nodes
  route_mem : ∀ (source : NodeId) (router : Router B W) (targets : BTreeMap RouteKey NodeId),
    transitions[source]? = some (.branch router targets) →
      ∀ route, route ∈ targets ↔ route ∈ router.knownRoutes

variable {B W}

/-! ## The checks of `compile` -/

section Validation

variable (nodes : BTreeMap NodeId (AgentNode B W))
  (transitions : BTreeMap NodeId (TransitionRule B W))

def validateTarget (source target : NodeId) : Except GraphCompileError Unit :=
  if nodes.contains target then .ok () else .error (.danglingTarget source target)

/-- Insert the routes of a router into a set, rejecting a route that comes twice. -/
def collectRoutes (source : NodeId) : List RouteKey → BTreeSet RouteKey →
    Except GraphCompileError (BTreeSet RouteKey)
  | [], uniqueRoutes => .ok uniqueRoutes
  | route :: rest, uniqueRoutes =>
    if uniqueRoutes.contains route then .error (.duplicateKnownRoute source route)
    else collectRoutes source rest (uniqueRoutes.insert route)

/-- The body of the loop of `validate_transitions`. -/
def validateTransition (source : NodeId) : TransitionRule B W → Except GraphCompileError Unit
  | .goto target => validateTarget nodes source target
  | .branch router targets =>
    if targets.isEmpty then .error (.emptyBranch source)
    else do
      let uniqueRoutes ← collectRoutes source router.knownRoutes ∅
      uniqueRoutes.toList.forM fun route =>
        if targets.contains route then .ok () else .error (.missingRouteTarget source route)
      targets.toList.forM fun (route, target) =>
        if uniqueRoutes.contains route then validateTarget nodes source target
        else .error (.unknownRouteTarget source route)
  | .atEnd => .ok ()

def validateTransitions : Except GraphCompileError Unit :=
  transitions.toList.forM fun (source, transition) => validateTransition nodes source transition

/-- The edges of the transition table, as (source, target). -/
def edges : List (NodeId × NodeId) :=
  transitions.toList.flatMap fun (source, transition) =>
    transition.targets.map fun target => (source, target)

def validateReachability (entry : NodeId) : Except GraphCompileError Unit :=
  let next := fun node =>
    match transitions[node]? with
    | some transition => transition.targets
    | none => []
  let reachable := worklist next ((edges transitions).length + 2) [entry] ∅
  match nodes.keys.find? fun node => !reachable.contains node with
  | some node => .error (.unreachableNode node)
  | none => .ok ()

def validateTerminalPaths : Except GraphCompileError Unit :=
  let terminalNodes := (transitions.toList.filter fun entry => entry.2.isEnd).map Prod.fst
  if terminalNodes.isEmpty then .error .noTerminalPath
  else
    let predecessors := fun node =>
      ((edges transitions).filter fun edge => edge.2 == node).map Prod.fst
    let canReachEnd := worklist predecessors
      (terminalNodes.length + (edges transitions).length + 1) terminalNodes ∅
    match nodes.keys.find? fun node => !canReachEnd.contains node with
    | some node => .error (.nodeCannotReachEnd node)
    | none => .ok ()

end Validation

namespace GraphDefinition

/-- The unresolved exit that `compile` reports, if any. -/
def checkFragmentExits (self : GraphDefinition B W) : Except GraphCompileError Unit :=
  match self.unresolvedFragmentExits.keys with
  | exit :: _ => .error (.unresolvedFragmentExit exit.toText)
  | [] => .ok ()

def checkEntry (self : GraphDefinition B W) : Except GraphCompileError NodeId :=
  match self.entry with
  | none => .error .missingEntry
  | some entry =>
    if self.nodes.contains entry then .ok entry else .error (.entryNodeMissing entry)

def checkTransitions (self : GraphDefinition B W) : Except GraphCompileError Unit :=
  self.nodes.keys.forM fun node =>
    if self.transitions.contains node then .ok () else .error (.missingTransition node)

/-- The checks of `compile`, in its order; the result is the entry node. -/
def validate (self : GraphDefinition B W) : Except GraphCompileError NodeId := do
  self.checkFragmentExits
  let entry ← self.checkEntry
  self.checkTransitions
  validateTransitions self.nodes self.transitions
  validateReachability self.nodes self.transitions entry
  validateTerminalPaths self.nodes self.transitions
  .ok entry

end GraphDefinition

/-! ## What the checks establish -/

theorem collectRoutes_mem {source : NodeId} {routes : List RouteKey}
    {before after : BTreeSet RouteKey} (h : collectRoutes source routes before = .ok after)
    (route : RouteKey) : route ∈ after ↔ route ∈ before ∨ route ∈ routes := by
  induction routes generalizing before with
  | nil =>
    cases h
    simp
  | cons head rest ih =>
    rw [collectRoutes] at h
    split at h
    · cases h
    · rw [ih h, Std.TreeSet.mem_insert, List.mem_cons, Std.LawfulEqOrd.compare_eq_iff_eq]
      grind

theorem validateTarget_ok {nodes : BTreeMap NodeId (AgentNode B W)} {source target : NodeId}
    (h : validateTarget nodes source target = .ok ()) : target ∈ nodes := by
  unfold validateTarget at h
  split at h
  · assumption
  · cases h

section Established

variable {nodes : BTreeMap NodeId (AgentNode B W)}
  {transitions : BTreeMap NodeId (TransitionRule B W)} {source : NodeId}
  {transition : TransitionRule B W}

theorem validateTransition_target (h : validateTransition nodes source transition = .ok ()) :
    ∀ target ∈ transition.targets, target ∈ nodes := by
  intro target htgt
  cases transition with
  | goto next =>
    cases List.mem_singleton.mp htgt
    exact validateTarget_ok h
  | branch router targets =>
    rw [validateTransition] at h
    split at h
    · cases h
    · obtain ⟨uniqueRoutes, _, h⟩ := Except.bind_ok h
      obtain ⟨⟨⟩, _, h⟩ := Except.bind_ok h
      obtain ⟨route, hrt⟩ : ∃ route, (route, target) ∈ targets.toList := by
        simpa [TransitionRule.targets] using htgt
      have hone := Except.forM_eq_ok.mp h _ hrt
      dsimp only at hone
      split at hone
      · exact validateTarget_ok hone
      · cases hone
  | atEnd => cases htgt

theorem validateTransition_route {router : Router B W} {targets : BTreeMap RouteKey NodeId}
    (h : validateTransition nodes source (.branch router targets) = .ok ()) (route : RouteKey) :
    route ∈ targets ↔ route ∈ router.knownRoutes := by
  rw [validateTransition] at h
  split at h
  · cases h
  · obtain ⟨uniqueRoutes, hcollect, h⟩ := Except.bind_ok h
    obtain ⟨⟨⟩, hkn, htargets⟩ := Except.bind_ok h
    have hmem : route ∈ uniqueRoutes ↔ route ∈ router.knownRoutes := by
      simpa using collectRoutes_mem hcollect route
    rw [← hmem]
    constructor
    · intro hrt
      obtain ⟨target, htgt⟩ := Std.TreeMap.mem_iff_isSome_getElem?.mp hrt
        |> Option.isSome_iff_exists.mp
      have hone := Except.forM_eq_ok.mp htargets _
        (Std.TreeMap.mem_toList_iff_getElem?_eq_some.mpr htgt)
      dsimp only at hone
      split at hone
      · assumption
      · cases hone
    · intro hrt
      have hone := Except.forM_eq_ok.mp hkn route (Std.TreeSet.mem_toList.mpr hrt)
      split at hone
      · assumption
      · cases hone

theorem validateTransitions_get (h : validateTransitions nodes transitions = .ok ())
    (hsrc : transitions[source]? = some transition) :
    validateTransition nodes source transition = .ok () :=
  Except.forM_eq_ok.mp h (source, transition) (Std.TreeMap.mem_toList_iff_getElem?_eq_some.mpr hsrc)

end Established

namespace GraphDefinition

/-- What a definition that passed the checks satisfies. -/
theorem validate_ok {self : GraphDefinition B W} {entry : NodeId} (h : self.validate = .ok entry) :
    entry ∈ self.nodes ∧ (∀ node ∈ self.nodes, node ∈ self.transitions) ∧
      validateTransitions self.nodes self.transitions = .ok () := by
  obtain ⟨⟨⟩, _, h⟩ := Except.bind_ok h
  obtain ⟨checked, hent, h⟩ := Except.bind_ok h
  obtain ⟨⟨⟩, hnodes, h⟩ := Except.bind_ok h
  obtain ⟨⟨⟩, htrs, h⟩ := Except.bind_ok h
  obtain ⟨⟨⟩, _, h⟩ := Except.bind_ok h
  obtain ⟨⟨⟩, _, h⟩ := Except.bind_ok h
  cases h
  refine ⟨?_, ?_, htrs⟩
  · unfold checkEntry at hent
    split at hent
    · cases hent
    · split at hent
      · cases hent
        assumption
      · cases hent
  · intro node hnode
    have hone := Except.forM_eq_ok.mp hnodes node (Std.TreeMap.mem_keys.mpr hnode)
    split at hone
    · assumption
    · cases hone

def compile (self : GraphDefinition B W) (policy : GraphPolicy) :
    Except GraphCompileError (CompiledGraph B W) :=
  match h : self.validate with
  | .error error => .error error
  | .ok entry => .ok {
      id := self.id
      version := self.version
      nodes := self.nodes
      entry := entry
      transitions := self.transitions
      policy := policy
      entry_mem := (validate_ok h).1
      transition_mem := (validate_ok h).2.1
      target_mem := fun _ _ hsrc =>
        validateTransition_target (validateTransitions_get (validate_ok h).2.2 hsrc)
      route_mem := fun _ _ _ hsrc =>
        validateTransition_route (validateTransitions_get (validate_ok h).2.2 hsrc) }

end GraphDefinition

namespace CompiledGraph

def node (self : CompiledGraph B W) (id : NodeId) : Option (AgentNode B W) := self.nodes[id]?

def transition (self : CompiledGraph B W) (id : NodeId) : Option (TransitionRule B W) :=
  self.transitions[id]?

end CompiledGraph

end ServerRS.AgentCore
