import Mathlib.Logic.Function.Basic
import ServerRS.AgentCore.Mount

/-!
# Connecting the exits of mounted fragments

`Sound` is what holds of a definition with mounted nodes: their rules are complete up to the
unresolved exits. In such a definition `connect_exit` gives an open route its target
(`connectExit_cases`), so calls for different exits commute (`connectTable_comm`) and the table
that a sequence of calls leaves depends on the accepted calls only (`connectAll_perm`).
-/

namespace ServerRS.AgentCore

open Lib

variable {B : Type} [AgentBusinessState B] {W : Type}

/-! ## Transition tables as functions -/

/-- A transition rule, with the targets of a branch as a function. -/
inductive RuleView (B : Type) (W : Type) where
  | goto (target : NodeId)
  | branch (router : Router B W) (targets : RouteKey → Option NodeId)
  | atEnd

def TransitionRule.view : TransitionRule B W → RuleView B W
  | .goto target => .goto target
  | .branch router targets => .branch router fun route => targets[route]?
  | .atEnd => .atEnd

def GraphDefinition.table (self : GraphDefinition B W) (source : NodeId) : Option (RuleView B W) :=
  self.transitions[source]?.map TransitionRule.view

def RuleView.connect (route : RouteKey) (target : NodeId) : RuleView B W → RuleView B W
  | .branch router targets => .branch router (Function.update targets route (some target))
  | rule => rule

def connectTable (table : NodeId → Option (RuleView B W)) (call : FragmentExit × NodeId) :
    NodeId → Option (RuleView B W) :=
  Function.update table call.1.source
    ((table call.1.source).map (RuleView.connect call.1.route call.2))

omit [AgentBusinessState B] in
theorem RuleView.connect_comm {a b : RouteKey} (h : a ≠ b) (x y : NodeId) (rule : RuleView B W) :
    (rule.connect a x).connect b y = (rule.connect b y).connect a x := by
  cases rule with
  | goto target => rfl
  | branch router targets =>
    simp only [RuleView.connect]
    rw [Function.update_comm h]
  | atEnd => rfl

omit [AgentBusinessState B] in
theorem connectTable_comm {a b : FragmentExit × NodeId}
    (h : (a.1.source, a.1.route) ≠ (b.1.source, b.1.route))
    (table : NodeId → Option (RuleView B W)) :
    connectTable (connectTable table a) b = connectTable (connectTable table b) a := by
  unfold connectTable
  by_cases hsrc : a.1.source = b.1.source
  · have hrt : a.1.route ≠ b.1.route := fun hrt => h (by rw [hsrc, hrt])
    simp only [hsrc, Function.update_self, Function.update_idem, Option.map_map]
    congr 2
    funext rule
    exact RuleView.connect_comm hrt a.2 b.2 rule
  · rw [Function.update_of_ne (Ne.symm hsrc), Function.update_of_ne hsrc,
      Function.update_comm hsrc]

/-! ## Definitions with mounted nodes -/

def Unresolved (self : GraphDefinition B W) (source : NodeId) (route : RouteKey) : Prop :=
  ∃ key : FragmentExitKey, self.unresolvedFragmentExits[key]? = some (source, route)

/-- The invariant of a definition, where `mounted` are the nodes that came from fragments. -/
structure Sound (graph : GraphDefinition B W) (mounted : List NodeId) : Prop where
  closed : graph.Closed
  rule : ∀ source ∈ mounted, ∃ rule, graph.transitions[source]? = some rule ∧
    RuleValid graph.nodes (Unresolved graph source) rule
  exit : ∀ (key : FragmentExitKey) (site : NodeId × RouteKey),
    graph.unresolvedFragmentExits[key]? = some site →
      key.nameSpace ∈ graph.mountedNamespaces ∧ site.1 ∈ mounted
  distinct : ∀ (a b : FragmentExitKey) (site : NodeId × RouteKey),
    graph.unresolvedFragmentExits[a]? = some site →
      graph.unresolvedFragmentExits[b]? = some site → a = b

theorem RuleValid.mono {nodes nodes' : BTreeMap NodeId (AgentNode B W)} {exits : RouteKey → Prop}
    {rule : TransitionRule B W} (hnodes : ∀ node ∈ nodes, node ∈ nodes')
    (h : RuleValid nodes exits rule) : RuleValid nodes' exits rule := by
  cases rule with
  | goto target => exact ⟨hnodes target h.1, h.2⟩
  | branch router targets =>
    obtain ⟨hnd, htarg, hkn, hexits⟩ := h
    exact ⟨hnd, fun route target htgt => (htarg route target htgt).imp_right
      (hnodes target), hkn, hexits⟩
  | atEnd => exact h

section

variable {self : GraphDefinition B W} {mounted : List NodeId}

/-- The exit is open, as it was handed out, and the target is a node. -/
def Connectable (self : GraphDefinition B W) (call : FragmentExit × NodeId) : Prop :=
  self.unresolvedFragmentExits[call.1.key]? = some (call.1.source, call.1.route) ∧
    call.2 ∈ self.nodes

/-- The writes of a call that returns. -/
def GraphDefinition.connected (self : GraphDefinition B W) (call : FragmentExit × NodeId)
    (router : Router B W) (targets : BTreeMap RouteKey NodeId) : GraphDefinition B W :=
  { self with
    transitions := self.transitions.insert call.1.source
      (.branch router (targets.insert call.1.route call.2))
    unresolvedFragmentExits := self.unresolvedFragmentExits.erase call.1.key }

variable {key : FragmentExitKey} {source : NodeId}

/-- An open exit leads to a branch that lacks its route. -/
theorem Sound.open_branch (hsnd : Sound self mounted) {route : RouteKey}
    (hexit : self.unresolvedFragmentExits[key]? = some (source, route)) :
    ∃ router targets, self.transitions[source]? = some (.branch router targets) ∧
      route ∉ targets := by
  obtain ⟨rule, hrule, hval⟩ := hsnd.rule source (hsnd.exit key _ hexit).2
  cases rule with
  | goto target => exact (hval.2 route ⟨key, hexit⟩).elim
  | branch router targets => exact ⟨router, targets, hrule, (hval.2.2.2 route ⟨key, hexit⟩).2⟩
  | atEnd => exact hval.elim

theorem connectExit_cases (hsnd : Sound self mounted) (call : FragmentExit × NodeId) :
    (¬Connectable self call ∧ ∃ error,
        GraphDefinition.connectExit call.1 call.2 self = (rejectBuild error, self)) ∨
      Connectable self call ∧ ∃ router targets,
        self.transitions[call.1.source]? = some (.branch router targets) ∧
          call.1.route ∉ targets ∧ GraphDefinition.connectExit call.1 call.2 self =
            (.ok (), self.connected call router targets) := by
  obtain ⟨exit, target⟩ := call
  unfold GraphDefinition.connectExit Connectable
  cases hexit : self.unresolvedFragmentExits[exit.key]? with
  | none => exact .inl ⟨fun h => (by cases h.1), _, rfl⟩
  | some site =>
    obtain ⟨source, route⟩ := site
    dsimp only
    split
    · next hoth =>
      refine .inl ⟨fun h => ?_, _, rfl⟩
      cases h.1
      exact hoth.elim (fun hne => hne rfl) fun hne => hne rfl
    next hsite =>
    obtain ⟨hsrc, hrt⟩ := not_or.mp hsite
    cases not_not.mp hsrc
    cases not_not.mp hrt
    split
    · next htgt =>
      refine .inl ⟨fun h => ?_, _, rfl⟩
      have hcont : self.nodes.contains target = true := h.2
      rw [hcont] at htgt
      cases htgt
    next htgt =>
    obtain ⟨router, targets, hrule, hrt⟩ := hsnd.open_branch hexit
    have hfree : ¬targets.contains exit.route = true := hrt
    refine .inr ⟨⟨rfl, by simpa using htgt⟩, router, targets, hrule, hrt, ?_⟩
    rw [hrule]
    dsimp only
    rw [if_neg hfree]
    rfl

/-! ## One connection -/

variable {call : FragmentExit × NodeId} {router : Router B W} {targets : BTreeMap RouteKey NodeId}

theorem connected_exit :
    (self.connected call router targets).unresolvedFragmentExits[key]? =
      if call.1.key = key then none else self.unresolvedFragmentExits[key]? := by
  simp only [GraphDefinition.connected, Std.TreeMap.getElem?_erase,
    Std.LawfulEqOrd.compare_eq_iff_eq]

theorem connected_transition :
    (self.connected call router targets).transitions[source]? = if call.1.source = source then
      some (.branch router (targets.insert call.1.route call.2)) else self.transitions[source]? := by
  simp only [GraphDefinition.connected, Std.TreeMap.getElem?_insert,
    Std.LawfulEqOrd.compare_eq_iff_eq]

/-- The connected route is the one that is no longer open. -/
theorem connected_unresolved (hsnd : Sound self mounted) (hcall : Connectable self call)
    {route : RouteKey} :
    Unresolved (self.connected call router targets) source route ↔
      Unresolved self source route ∧ (source, route) ≠ (call.1.source, call.1.route) := by
  unfold Unresolved
  constructor
  · rintro ⟨key, hkey⟩
    rw [connected_exit] at hkey
    split at hkey
    · cases hkey
    next hoth =>
    refine ⟨⟨key, hkey⟩, fun hsame => hoth ?_⟩
    rw [hsame] at hkey
    exact hsnd.distinct _ _ _ hcall.1 hkey
  · rintro ⟨⟨key, hkey⟩, hoth⟩
    refine ⟨key, ?_⟩
    rw [connected_exit, if_neg, hkey]
    rintro rfl
    exact hoth (Option.some.inj (hkey.symm.trans hcall.1))

theorem connected_sound (hsnd : Sound self mounted) (hcall : Connectable self call)
    (hrule : self.transitions[call.1.source]? = some (.branch router targets)) :
    Sound (self.connected call router targets) mounted := by
  constructor
  case closed =>
    intro source hsrc
    obtain ⟨rule, hget⟩ := mem_iff_exists_get.mp hsrc
    rw [connected_transition] at hget
    split at hget
    · next hsame =>
      rw [← hsame]
      exact hsnd.closed _ (mem_iff_exists_get.mpr ⟨_, hrule⟩)
    · exact hsnd.closed _ (mem_iff_exists_get.mpr ⟨_, hget⟩)
  case rule =>
    intro source hsrc
    obtain ⟨rule, hget, hval⟩ := hsnd.rule source hsrc
    rw [connected_transition]
    split
    · next hsame =>
      cases hsame
      cases hrule.symm.trans hget
      obtain ⟨hnd, htarg, hkn, hexits⟩ := hval
      have hopen : Unresolved self call.1.source call.1.route := ⟨call.1.key, hcall.1⟩
      refine ⟨_, rfl, hnd, fun route target htgt => ?_, fun route hrt => ?_,
        fun route hunr => ?_⟩
      · rw [Std.TreeMap.getElem?_insert] at htgt
        split at htgt
        · next hrt =>
          cases htgt
          rw [← Std.LawfulEqOrd.compare_eq_iff_eq.mp hrt]
          exact ⟨(hexits _ hopen).1, hcall.2⟩
        · exact htarg route target htgt
      · rw [Std.TreeMap.mem_insert, Std.LawfulEqOrd.compare_eq_iff_eq,
          connected_unresolved hsnd hcall]
        by_cases hsame : call.1.route = route
        · exact .inl (.inl hsame)
        · refine (hkn route hrt).imp .inr fun hunr => ⟨hunr, ?_⟩
          exact fun hsite => hsame (congrArg Prod.snd hsite).symm
      · obtain ⟨hunr, hoth⟩ := (connected_unresolved hsnd hcall).mp hunr
        obtain ⟨hmem, hfree⟩ := hexits route hunr
        rw [Std.TreeMap.mem_insert, Std.LawfulEqOrd.compare_eq_iff_eq, not_or]
        exact ⟨hmem, fun hsame => hoth (by rw [hsame]), hfree⟩
    · next hoth =>
      have hsame : Unresolved (self.connected call router targets) source =
          Unresolved self source := by
        funext route
        rw [connected_unresolved hsnd hcall, eq_iff_iff, and_iff_left_iff_imp]
        exact fun _ hsite => hoth (congrArg Prod.fst hsite).symm
      rw [hsame]
      exact ⟨rule, hget, hval⟩
  case exit =>
    intro key site hsite
    rw [connected_exit] at hsite
    split at hsite
    · cases hsite
    · exact hsnd.exit key site hsite
  case distinct =>
    intro a b site ha hb
    rw [connected_exit] at ha hb
    split at ha
    · cases ha
    split at hb
    · cases hb
    exact hsnd.distinct a b site ha hb

theorem connected_table (hrule : self.transitions[call.1.source]? = some (.branch router targets)) :
    (self.connected call router targets).table = connectTable self.table call := by
  funext source
  unfold GraphDefinition.table connectTable
  rw [connected_transition]
  split
  · next hsame =>
    cases hsame
    rw [Function.update_self]
    dsimp only
    rw [hrule]
    simp only [Option.map_some, TransitionRule.view, RuleView.connect]
    congr 2
    funext route
    simp only [Std.TreeMap.getElem?_insert, Std.LawfulEqOrd.compare_eq_iff_eq,
      Function.update_apply]
    exact if_congr eq_comm rfl rfl
  · next hoth => rw [Function.update_of_ne (Ne.symm hoth)]

theorem connected_connectable (other : FragmentExit × NodeId) :
    Connectable (self.connected call router targets) other ↔
      Connectable self other ∧ call.1.key ≠ other.1.key := by
  unfold Connectable
  rw [connected_exit]
  split
  · next hsame => simp [hsame]
  · next hoth =>
    have hnodes : (self.connected call router targets).nodes = self.nodes := rfl
    rw [hnodes]
    exact ⟨fun h => ⟨h, hoth⟩, And.left⟩

end

/-! ## Sequences of calls -/

/-- The definition after the calls, and the calls that returned. -/
def connectAll : List (FragmentExit × NodeId) → GraphDefinition B W →
    GraphDefinition B W × List (FragmentExit × NodeId)
  | [], self => (self, [])
  | call :: calls, self =>
    match GraphDefinition.connectExit call.1 call.2 self with
    | (.ok (), after) => ((connectAll calls after).1, call :: (connectAll calls after).2)
    | (.error _, after) => connectAll calls after

section

variable {self : GraphDefinition B W} {mounted : List NodeId}

theorem connectAll_spec (hsnd : Sound self mounted) (calls : List (FragmentExit × NodeId)) :
    (connectAll calls self).1.table = (connectAll calls self).2.foldl connectTable self.table ∧
      (connectAll calls self).2.Pairwise (fun a b => a.1.key ≠ b.1.key) ∧
      ∀ call ∈ (connectAll calls self).2, Connectable self call := by
  induction calls generalizing self with
  | nil => exact ⟨rfl, .nil, fun _ h => absurd h List.not_mem_nil⟩
  | cons call calls ih =>
    unfold connectAll
    obtain ⟨-, error, hcall⟩ | ⟨hcon, router, targets, hrule, -, hcall⟩ :=
      connectExit_cases hsnd call
    · rw [hcall]
      exact ih hsnd
    · rw [hcall]
      obtain ⟨htable, hdist, hall⟩ := ih (connected_sound hsnd hcon hrule)
      simp only [connected_connectable] at hall
      refine ⟨?_, List.pairwise_cons.mpr ⟨fun other hoth => (hall other hoth).2, hdist⟩,
        List.forall_mem_cons.mpr ⟨hcon, fun other hoth => (hall other hoth).1⟩⟩
      rw [htable, connected_table hrule, List.foldl_cons]

theorem connectAll_sound (hsnd : Sound self mounted) (calls : List (FragmentExit × NodeId)) :
    Sound (connectAll calls self).1 mounted := by
  induction calls generalizing self with
  | nil => exact hsnd
  | cons call calls ih =>
    unfold connectAll
    obtain ⟨-, error, hcall⟩ | ⟨hcon, router, targets, hrule, -, hcall⟩ :=
      connectExit_cases hsnd call
    · rw [hcall]
      exact ih hsnd
    · rw [hcall]
      exact ih (connected_sound hsnd hcon hrule)

variable {calls calls' : List (FragmentExit × NodeId)}

/-- The calls that return go through in any order. -/
theorem connectAll_accepts (hsnd : Sound self mounted)
    (hdist : calls.Pairwise fun a b => a.1.key ≠ b.1.key)
    (hall : ∀ call ∈ calls, Connectable self call) : (connectAll calls self).2 = calls := by
  induction calls generalizing self with
  | nil => rfl
  | cons call calls ih =>
    rw [List.pairwise_cons] at hdist
    rw [List.forall_mem_cons] at hall
    unfold connectAll
    obtain ⟨hnot, -⟩ | ⟨hcon, router, targets, hrule, -, hcall⟩ :=
      connectExit_cases hsnd call
    · exact absurd hall.1 hnot
    · rw [hcall]
      refine congrArg (call :: ·) (ih (connected_sound hsnd hcon hrule) hdist.2 ?_)
      intro other hoth
      exact (connected_connectable other).mpr ⟨hall.2 other hoth, hdist.1 other hoth⟩

theorem connectAll_any_order (hsnd : Sound self mounted) (hperm : calls.Perm calls')
    (h : (connectAll calls self).2 = calls) : (connectAll calls' self).2 = calls' := by
  obtain ⟨-, hdist, hall⟩ := connectAll_spec hsnd calls
  rw [h] at hdist hall
  refine connectAll_accepts hsnd ?_ fun call hcall => hall call (hperm.mem_iff.mpr hcall)
  exact hperm.pairwise hdist Ne.symm

/-- The table depends on the accepted connections, not on their order. -/
theorem connectAll_perm (hsnd : Sound self mounted)
    (hperm : (connectAll calls self).2.Perm (connectAll calls' self).2) :
    (connectAll calls self).1.table = (connectAll calls' self).1.table := by
  obtain ⟨htable, hdist, hall⟩ := connectAll_spec hsnd calls
  rw [htable, (connectAll_spec hsnd calls').1]
  refine hperm.foldl_eq' (fun a ha b hb table => ?_) self.table
  by_cases hsite : (a.1.source, a.1.route) = (b.1.source, b.1.route)
  · have hopen := (hall b hb).1
    rw [← hsite] at hopen
    have hkeys := hsnd.distinct _ _ _ (hall a ha).1 hopen
    rw [List.inj_on_of_nodup_map (List.pairwise_map.mpr hdist) ha hb hkeys]
  · exact connectTable_comm hsite table

end

end ServerRS.AgentCore
