import ServerRS.AgentCore.Definition
import ServerRS.Lib.MapLoop

/-!
# Building graphs, and mounting fragments

Models `agent-core/src/graph/fragment.rs` and the operations that build a `GraphDefinition`
(`definition.rs`). A call that fails keeps the writes it has made; an `expect` that finds
nothing, and an `unreachable!`, is the failure `panic`.
-/

namespace ServerRS.AgentCore

open Lib

inductive BuildFailure where
  | error (error : GraphBuildError)
  | panic (message : String)
deriving DecidableEq

def expect {α : Type} (value : Option α) (message : String) : Except BuildFailure α :=
  match value with
  | some value => .ok value
  | none => .error (.panic message)

def rejectBuild {α : Type} (error : GraphBuildError) : Except BuildFailure α :=
  .error (.error error)

variable {B : Type} [AgentBusinessState B] {W : Type}

section

variable (B W)

structure LocalExit where
  source : NodeId
  route : RouteKey
deriving DecidableEq

structure GraphFragment where
  nodes : BTreeMap NodeId (AgentNode B W) := ∅
  entry : Option NodeId := none
  transitions : BTreeMap NodeId (TransitionRule B W) := ∅
  exits : BTreeMap String LocalExit := ∅

end

structure FragmentExit where
  key : FragmentExitKey
  name : String
  source : NodeId
  route : RouteKey
deriving DecidableEq

structure MountedFragment where
  nameSpace : String
  entry : NodeId
  exits : BTreeMap String FragmentExit

/-! ## Building -/

/-- `add_node`, on the nodes of a definition or of a fragment. -/
def addNodeTo (nodes : BTreeMap NodeId (AgentNode B W)) (node : AgentNode B W) :
    Except GraphBuildError (BTreeMap NodeId (AgentNode B W)) :=
  if nodes.contains node.id then .error (.duplicateNode node.id)
  else .ok (nodes.insert node.id node)

/-- `set_transition`, likewise. -/
def setTransitionOf (nodes : BTreeMap NodeId (AgentNode B W))
    (transitions : BTreeMap NodeId (TransitionRule B W)) (source : NodeId)
    (transition : TransitionRule B W) :
    Except GraphBuildError (BTreeMap NodeId (TransitionRule B W)) :=
  if !nodes.contains source then .error (.unknownTransitionSource source)
  else if transitions.contains source then .error (.duplicateTransition source)
  else .ok (transitions.insert source transition)

namespace GraphFragment

def addNode (self : GraphFragment B W) (node : AgentNode B W) :
    Except GraphBuildError (GraphFragment B W) :=
  (addNodeTo self.nodes node).map fun nodes => { self with nodes }

def setEntry (self : GraphFragment B W) (entry : NodeId) : GraphFragment B W :=
  { self with entry := some entry }

def setTransition (self : GraphFragment B W) (source : NodeId) (transition : TransitionRule B W) :
    Except GraphBuildError (GraphFragment B W) :=
  (setTransitionOf self.nodes self.transitions source transition).map fun transitions =>
    { self with transitions }

def declareExit (self : GraphFragment B W) (name : String) (source : NodeId) (route : RouteKey) :
    Except GraphBuildError (GraphFragment B W) :=
  match validateId name "RouteKey" with
  | .error error => .error (.invalidFragmentExitName name error)
  | .ok () =>
    if self.exits.contains name then .error (.duplicateFragmentExit name)
    else .ok { self with exits := self.exits.insert name ⟨source, route⟩ }

end GraphFragment

namespace GraphDefinition

def newVersioned (id : GraphId) (version : GraphVersion) : GraphDefinition B W where
  id
  version

def addNode (self : GraphDefinition B W) (node : AgentNode B W) :
    Except GraphBuildError (GraphDefinition B W) :=
  (addNodeTo self.nodes node).map fun nodes => { self with nodes }

def setEntry (self : GraphDefinition B W) (entry : NodeId) : GraphDefinition B W :=
  { self with entry := some entry }

def setTransition (self : GraphDefinition B W) (source : NodeId)
    (transition : TransitionRule B W) : Except GraphBuildError (GraphDefinition B W) :=
  (setTransitionOf self.nodes self.transitions source transition).map fun transitions =>
    { self with transitions }

end GraphDefinition

/-! ## Checking a fragment -/

section

variable (fragment : GraphFragment B W)

def validateLocalTarget (source target : NodeId) : Except BuildFailure Unit :=
  if fragment.nodes.contains target then .ok ()
  else rejectBuild (.fragmentDanglingTarget source target)

def rejectExitsOnNonBranch (source : NodeId) : Except BuildFailure Unit :=
  match fragment.exits.toList.find? fun entry => entry.2.source = source with
  | some (name, exit) => rejectBuild (.invalidFragmentExitRoute name source exit.route)
  | none => .ok ()

/-- `exits_by_source`. -/
def collectExits : List (String × LocalExit) → BTreeMap NodeId (BTreeSet RouteKey) →
    Except BuildFailure (BTreeMap NodeId (BTreeSet RouteKey))
  | [], exitsBySource => .ok exitsBySource
  | (name, exit) :: rest, exitsBySource =>
    if !fragment.nodes.contains exit.source then
      rejectBuild (.fragmentExitSourceMissing name exit.source)
    else
      let routes := exitsBySource.getD exit.source ∅
      if routes.contains exit.route then
        rejectBuild (.invalidFragmentExitRoute name exit.source exit.route)
      else collectExits rest (exitsBySource.insert exit.source (routes.insert exit.route))

def collectKnown (source : NodeId) : List RouteKey → BTreeSet RouteKey →
    Except BuildFailure (BTreeSet RouteKey)
  | [], known => .ok known
  | route :: rest, known =>
    if known.contains route then rejectBuild (.duplicateFragmentRoute source route)
    else collectKnown source rest (known.insert route)

/-- A declared exit has to be a route of the router that has no target. -/
def validateDeclaredExit (source : NodeId) (known : BTreeSet RouteKey)
    (targets : BTreeMap RouteKey NodeId) (route : RouteKey) : Except BuildFailure Unit :=
  if !known.contains route || targets.contains route then do
    let name ← expect ((fragment.exits.toList.find? fun entry =>
      entry.2.source = source && entry.2.route = route).map Prod.fst) "declared exit name exists"
    rejectBuild (.invalidFragmentExitRoute name source route)
  else .ok ()

/-- The body of the loop over the transitions. -/
def validateFragmentTransition (exitsBySource : BTreeMap NodeId (BTreeSet RouteKey))
    (source : NodeId) : TransitionRule B W → Except BuildFailure Unit
  | .goto target => do
    validateLocalTarget fragment source target
    rejectExitsOnNonBranch fragment source
  | .branch router targets => do
    let known ← collectKnown source router.knownRoutes ∅
    targets.toList.forM fun (route, target) =>
      if known.contains route then validateLocalTarget fragment source target
      else rejectBuild (.unknownFragmentRouteTarget source route)
    let declared := exitsBySource[source]?
    known.toList.forM fun route =>
      if !targets.contains route && !declared.any fun routes => routes.contains route then
        rejectBuild (.unresolvedFragmentRoute source route)
      else .ok ()
    (declared.elim [] fun routes => routes.toList).forM
      (validateDeclaredExit fragment source known targets)
  | .atEnd => rejectBuild (.fragmentContainsEnd source)

def checkFragmentEntry : Except BuildFailure Unit :=
  match fragment.entry with
  | none => rejectBuild .fragmentMissingEntry
  | some entry =>
    if fragment.nodes.contains entry then .ok () else rejectBuild (.fragmentEntryMissing entry)

def checkDeclaredExits : Except BuildFailure Unit :=
  if fragment.exits.isEmpty then rejectBuild .fragmentMissingExit else .ok ()

def validateFragment : Except BuildFailure Unit := do
  checkFragmentEntry fragment
  checkDeclaredExits fragment
  fragment.nodes.keys.forM fun node =>
    if fragment.transitions.contains node then .ok ()
    else rejectBuild (.fragmentMissingTransition node)
  let exitsBySource ← collectExits fragment fragment.exits.toList ∅
  fragment.transitions.toList.forM fun (source, transition) =>
    validateFragmentTransition fragment exitsBySource source transition

end

/-! ## Mounting -/

def rewriteTransition (idMap : BTreeMap NodeId NodeId) :
    TransitionRule B W → Except BuildFailure (TransitionRule B W)
  | .goto target => do
    let target ← expect idMap[target]? "fragment transition target was validated"
    return .goto target
  | .branch router targets => do
    let targets ← fill (fun (route, target) => do
      let target ← expect idMap[target]? "fragment branch target was validated"
      return (route, target)) targets.toList ∅
    return .branch router targets
  | .atEnd => .error (.panic
    "internal error: entered unreachable code: fragment End transition was validated")

/-- `NodeId::try_from(format!("{namespace}.{local}"))`, checked against the nodes. -/
def globalId (nodes : BTreeMap NodeId (AgentNode B W)) (nameSpace : String) (localId : NodeId) :
    Except BuildFailure (NodeId × NodeId) :=
  match ValidatedId.tryFrom (nameSpace ++ "." ++ localId.asStr) with
  | .error error => rejectBuild (.invalidNamespacedNodeId nameSpace localId error)
  | .ok global =>
    if nodes.contains global then rejectBuild (.namespaceCollision nameSpace global)
    else .ok (localId, global)

/-- `NamespacedNode` has the global id and the inner node's `execute`. -/
def mountNode (idMap : BTreeMap NodeId NodeId) (entry : NodeId × AgentNode B W) :
    Except BuildFailure (NodeId × AgentNode B W) := do
  let id ← expect idMap[entry.1]? "all fragment nodes have a global mapping"
  return (id, { id, execute := entry.2.execute })

def mountTransition (idMap : BTreeMap NodeId NodeId) (entry : NodeId × TransitionRule B W) :
    Except BuildFailure (NodeId × TransitionRule B W) := do
  let source ← expect idMap[entry.1]? "all fragment transitions have a mapped source"
  let transition ← rewriteTransition idMap entry.2
  return (source, transition)

def mountExit (idMap : BTreeMap NodeId NodeId) (nameSpace : String) (entry : String × LocalExit) :
    Except BuildFailure (String × FragmentExit) := do
  let source ← expect idMap[entry.2.source]? "all fragment exits have a mapped source"
  return (entry.1, {
    key := ⟨nameSpace, entry.1⟩
    name := entry.1
    source
    route := entry.2.route })

namespace GraphDefinition

def checkNamespace (self : GraphDefinition B W) (nameSpace : String) : Except BuildFailure Unit :=
  match validateId nameSpace "NodeId" with
  | .error error => rejectBuild (.invalidNamespace nameSpace error)
  | .ok () =>
    if self.mountedNamespaces.contains nameSpace then rejectBuild (.duplicateNamespace nameSpace)
    else .ok ()

def registerExit (unresolved : BTreeMap FragmentExitKey (NodeId × RouteKey))
    (exit : FragmentExit) : BTreeMap FragmentExitKey (NodeId × RouteKey) :=
  unresolved.insert exit.key (exit.source, exit.route)

def mount (nameSpace : String) (fragment : GraphFragment B W) :
    Exec (GraphDefinition B W) BuildFailure MountedFragment := do
  let self ← Exec.get
  Exec.ofExcept (self.checkNamespace nameSpace)
  Exec.ofExcept (validateFragment fragment)
  let entry ← Exec.ofExcept (expect fragment.entry "fragment entry was validated")
  let idMap ← Exec.ofExcept (fill (globalId self.nodes nameSpace) fragment.nodes.keys ∅)
  let globalEntry ← Exec.ofExcept (expect idMap[entry]? "fragment entry mapping was validated")
  let mountedNodes ← Exec.ofExcept (fill (mountNode idMap) fragment.nodes.toList ∅)
  let mountedTransitions ←
    Exec.ofExcept (fill (mountTransition idMap) fragment.transitions.toList ∅)
  let mountedExits ← Exec.ofExcept (fill (mountExit idMap nameSpace) fragment.exits.toList ∅)
  Exec.modify fun self => { self with nodes := self.nodes ∪ mountedNodes }
  Exec.modify fun self => { self with transitions := self.transitions ∪ mountedTransitions }
  Exec.modify fun self =>
    { self with mountedNamespaces := self.mountedNamespaces.insert nameSpace }
  Exec.modify fun self =>
    { self with
      unresolvedFragmentExits :=
        (mountedExits.toList.map Prod.snd).foldl registerExit self.unresolvedFragmentExits }
  return ⟨nameSpace, globalEntry, mountedExits⟩

def connectExit (exit : FragmentExit) (target : NodeId) :
    Exec (GraphDefinition B W) BuildFailure Unit := fun self =>
  match self.unresolvedFragmentExits[exit.key]? with
  | none => (rejectBuild (.unknownFragmentExit exit.name), self)
  | some (source, route) =>
    if source ≠ exit.source ∨ route ≠ exit.route then
      (rejectBuild (.unknownFragmentExit exit.name), self)
    else if !self.nodes.contains target then
      (rejectBuild (.unknownFragmentExitTarget target), self)
    else
      match self.transitions[exit.source]? with
      | none => (.error (.panic "mounted fragment exit source has a transition"), self)
      | some (.branch router targets) =>
        if targets.contains exit.route then (rejectBuild (.unknownFragmentExit exit.name), self)
        else (.ok (), { self with
          transitions := self.transitions.insert exit.source
            (.branch router (targets.insert exit.route target))
          unresolvedFragmentExits := self.unresolvedFragmentExits.erase exit.key })
      | some _ =>
        (rejectBuild (.invalidFragmentExitRoute exit.name exit.source exit.route), self)

end GraphDefinition

end ServerRS.AgentCore
