import ServerRS.ActionGraph.Refinement
import ServerRS.Lib.Timeline

/-!
# Nothing is carried out without its own approval

`l0_execute` dispatches on the phase alone, and the phase is `Execute` for a proposal that may
be carried out at once as for one that the Owner has yet to decide on. The invariant is about
the history: in the phase `Execute` the pending proposal is the last one accepted, nothing was
dispatched since, and if it needs the Owner the Owner has approved it.
-/

namespace ServerRS.ActionGraph

open Lib AgentCore

section Entries

variable [WorkingContextFormat]

/-- The dispatch of the effect of a proposal with this id. -/
def isDispatchOf (id : String) (entry : Entry SecretaryAgentState) : Bool :=
  (dispatch? entry).any fun proposal => proposal.proposalId == id

def isAcceptanceOf (id : String) (entry : Entry SecretaryAgentState) : Bool :=
  (acceptance? entry).any fun proposal => proposal.proposalId == id

/-- An entry that ends the wait of a proposal: another proposal, a dispatch or a rejection. -/
def disturbs (entry : Entry SecretaryAgentState) : Bool :=
  (acceptance? entry).isSome || (dispatch? entry).isSome || isRejection entry

/-- The proposal may be carried out: it was accepted, nothing has come in between since, and where
it needs the Owner's word the Owner has approved it. -/
def Cleared (past : Story) (proposal : SecretaryActionProposal) : Prop :=
  ∃ before between, past = before ++ recorded (.proposalAccepted proposal) :: between ∧
    (∀ entry ∈ between, disturbs entry = false) ∧
    (proposal.action.NeedsOwner → ∃ input, recorded (.approvalResolved input) ∈ between ∧
      input.decision = .approve ∧ input.proposalId = proposal.proposalId)

/-- Whatever is dispatched is valid and was cleared. -/
def DispatchCleared (past : Story) (entry : Entry SecretaryAgentState) : Prop :=
  ∀ proposal, dispatch? entry = some proposal →
    validateActionProposal proposal = .ok () ∧ Cleared past proposal

theorem Cleared.snoc {past : Story} {proposal : SecretaryActionProposal}
    {entry : Entry SecretaryAgentState} (h : Cleared past proposal) (hent : disturbs entry = false) :
    Cleared (past ++ [entry]) proposal := by
  obtain ⟨before, between, rfl, hbetw, howner⟩ := h
  refine ⟨before, between ++ [entry], by rw [List.append_assoc, List.cons_append], ?_, ?_⟩
  · intro other hoth
    rcases List.mem_append.mp hoth with hoth | hoth
    · exact hbetw other hoth
    · rw [List.mem_singleton.mp hoth]
      exact hent
  · intro hneeds
    obtain ⟨input, hin, hdec⟩ := howner hneeds
    exact ⟨input, List.mem_append_left _ hin, hdec⟩

/-- What the history says about the proposal that waits at a position. -/
def Standing : Position → Story → Prop
  | .atNode .plan state, _ => state.business.phase ≠ .execute
  | .atNode .execute state, history => state.business.phase = .execute →
    ∃ proposal, state.business.pendingProposal = some proposal ∧
      validateActionProposal proposal = .ok () ∧ Cleared history proposal
  | .atNode .decide state, _ => state.business.phase ≠ .execute
  | .waiting state, history => ∃ proposal before, state.business.pendingProposal = some proposal ∧
    validateActionProposal proposal = .ok () ∧ proposal.action.NeedsOwner ∧
    history = before ++ [recorded (.proposalAccepted proposal)]
  | _, _ => True

end Entries

section Runs

variable [ActionFormat] {past : Story} {proposal : SecretaryActionProposal}
  {input : SecretaryActionResumeInput}

/-- What is not a dispatch is no matter of `DispatchCleared`. -/
theorem dispatchCleared_of_none {entry : Entry SecretaryAgentState} (h : dispatch? entry = none) :
    DispatchCleared past entry := by
  intro proposal hprop
  rw [h] at hprop
  cases hprop

/-- A dispatch of a cleared proposal; after it the phase is over. -/
theorem Dispatch.cleared {state : ActionState} {story : Story} {after : Option ActionState}
    (h : Dispatch proposal state story after) (hval : validateActionProposal proposal = .ok ())
    (hcle : Cleared past proposal) :
    Added DispatchCleared past story ∧ ∀ state', after = some state' →
      state'.business.phase = .updateState := by
  have hdis : ∀ {envelope : EffectEnvelope SecretaryActionEffect} answer,
      envelope.effect = ⟨proposal⟩ → DispatchCleared past (dispatched envelope answer) := by
    intro envelope answer heff other hoth
    rw [dispatch?_dispatched, heff] at hoth
    cases hoth
    exact ⟨hval, hcle⟩
  cases h with
  | inactive =>
    refine ⟨trivial, ?_⟩
    rintro state' ⟨⟩
  | failed answer heff =>
    refine ⟨⟨hdis answer heff, trivial⟩, ?_⟩
    rintro state' ⟨⟩
  | completed heff hpend hanss =>
    refine ⟨⟨hdis _ heff, dispatchCleared_of_none rfl, trivial⟩, ?_⟩
    rintro state' ⟨⟩
    rfl

theorem move_standing {position position' : Position} {history story : Story}
    (hmove : Move position story position') (hdisps : Throughout DispatchCleared history)
    (hstand : Standing position history) :
    Throughout DispatchCleared (history ++ story) ∧ Standing position' (history ++ story) := by
  rw [throughout_append]
  cases hmove with
  | stopped stage state => exact ⟨⟨hdisps, trivial⟩, trivial⟩
  | refused runStep stage state => exact ⟨⟨hdisps, dispatchCleared_of_none rfl, trivial⟩, trivial⟩
  | noAction runStep reason ids conversations hout hmrg =>
    exact ⟨⟨hdisps, dispatchCleared_of_none rfl, dispatchCleared_of_none rfl,
        dispatchCleared_of_none rfl, trivial⟩, fun hph => absurd hph hstand⟩
  | @direct state context proposal story after runStep ids conversations hmrg hadm howner
      hdisp =>
    have hcle : Cleared (history ++ [called runStep .plan] ++
        [recorded (.workingContext (retrieval ids conversations))] ++
        [recorded (.proposalAccepted proposal)]) proposal :=
      ⟨_, [], rfl, by simp, fun hneeds => absurd hneeds howner⟩
    obtain ⟨hadded, hph⟩ := hdisp.cleared hadm.valid hcle
    refine ⟨⟨hdisps, dispatchCleared_of_none rfl, dispatchCleared_of_none rfl,
        dispatchCleared_of_none rfl, hadded⟩, ?_⟩
    cases after with
    | none => trivial
    | some state' =>
      intro hexec
      rw [hph state' rfl] at hexec
      cases hexec
  | @asked state context proposal next runStep ids conversations hmrg hadm howner hnext =>
    refine ⟨⟨hdisps, dispatchCleared_of_none rfl, dispatchCleared_of_none rfl,
        dispatchCleared_of_none rfl, trivial⟩, ?_⟩
    rcases hnext with rfl | rfl
    · exact ⟨proposal, history ++ [called runStep .plan,
        recorded (.workingContext (retrieval ids conversations))], rfl, hadm.valid, howner, by simp⟩
    · trivial
  | idle runStep hidle =>
    refine ⟨⟨hdisps, dispatchCleared_of_none rfl, trivial⟩, ?_⟩
    intro hph
    obtain ⟨proposal, hpend, -⟩ := hstand hph
    rw [hidle hph] at hpend
    cases hpend
  | @carriedOut state proposal story after runStep hph hpend hdisp =>
    obtain ⟨waiting, hwait, hval, hcle⟩ := hstand hph
    obtain rfl : proposal = waiting := Option.some.inj (hpend.symm.trans hwait)
    have hcalled : disturbs (called runStep .execute) = false := rfl
    obtain ⟨hadded, hupdated⟩ := hdisp.cleared hval (hcle.snoc hcalled)
    refine ⟨⟨hdisps, dispatchCleared_of_none rfl, hadded⟩, ?_⟩
    cases after with
    | none => trivial
    | some state' =>
      intro hexec
      rw [hupdated state' rfl] at hexec
      cases hexec
  | decided runStep hdec =>
    refine ⟨⟨hdisps, dispatchCleared_of_none rfl, ?_⟩, ?_⟩
    · rw [added_append]
      refine ⟨added_of_forall fun past entry hent => dispatchCleared_of_none ?_,
        dispatchCleared_of_none rfl, trivial⟩
      obtain ⟨update, -, rfl⟩ := List.mem_map.mp hent
      rfl
    · unfold routeTarget
      split
      · exact hdec.phase hstand
      · trivial
  | responded runStep hout => exact ⟨⟨hdisps, dispatchCleared_of_none rfl,
      dispatchCleared_of_none rfl, trivial⟩, trivial⟩
  | drafted runStep hout hdraft => exact ⟨⟨hdisps, dispatchCleared_of_none rfl,
      dispatchCleared_of_none rfl, dispatchCleared_of_none rfl, trivial⟩, trivial⟩
  | @resumed state pending input hpend hid =>
    refine ⟨⟨hdisps, dispatchCleared_of_none rfl, trivial⟩, ?_⟩
    intro hph
    obtain ⟨proposal, before, hprop, hval, hneeds, rfl⟩ := hstand
    obtain rfl : proposal = pending := Option.some.inj (hprop.symm.trans hpend)
    have happr : input.decision = .approve := by
      cases hdec : input.decision with
      | approve => rfl
      | reject =>
        rw [hdec] at hph
        cases hph
    refine ⟨proposal, hprop, hval, before, [recorded (.approvalResolved input)], by simp, ?_,
      fun _ => ⟨input, List.mem_singleton_self _, happr, hid.symm⟩⟩
    intro entry hent
    rw [List.mem_singleton.mp hent, disturbs, isRejection]
    simp [acceptance?, decision?, happr]

theorem machine_standing {run : Position × Story} (h : Machine run) :
    Throughout DispatchCleared run.2 ∧ Standing run.1 run.2 := by
  refine h.invariant (fun run => Throughout DispatchCleared run.2 ∧ Standing run.1 run.2) ?_ ?_
  · rintro _ ⟨hnew⟩
    refine ⟨trivial, ?_⟩
    obtain ⟨⟨⟩, -, hst⟩ := Except.bind_ok hnew
    cases hst
    intro hph
    cases hph
  · rintro _ _ ⟨hdisps, hstand⟩ ⟨history, hmove⟩
    exact move_standing hmove hdisps hstand

/-! ## Every run -/

/-- A proposal is dispatched no more often than it was accepted. -/
theorem dispatches_le_acceptances {history : Story} (h : Throughout DispatchCleared history)
    (id : String) : history.countP (isDispatchOf id) ≤ history.countP (isAcceptanceOf id) := by
  refine Throughout.countP_le (h.imp fun past entry hcle hdisp => ?_)
  obtain ⟨proposal, hprop, hid⟩ := (Option.any_eq_true _ _).mp hdisp
  obtain ⟨-, before, between, rfl, hbetw, -⟩ := hcle proposal hprop
  refine ⟨before, recorded (.proposalAccepted proposal), between, rfl, hid, rfl, ?_⟩
  intro other hoth
  have hquiet := hbetw other hoth
  cases hnone : dispatch? other with
  | none => rw [isDispatchOf, hnone, Option.any_none]
  | some dispatched => simp [disturbs, hnone] at hquiet

/-- After a rejection nothing is dispatched that was not accepted since. -/
theorem accepted_since_rejection {between : Story} (hrej : input.decision = .reject)
    (h : Cleared (past ++ recorded (.approvalResolved input) :: between) proposal) :
    recorded (.proposalAccepted proposal) ∈ between := by
  obtain ⟨before, rest, hspl, hrest, -⟩ := h
  obtain ⟨middle, rfl⟩ := split_of_split hspl (fun heq => nomatch heq) fun hmem => by
    have hquiet := hrest _ hmem
    simp [disturbs, isRejection, decision?, hrej] at hquiet
  exact List.mem_append_right middle List.mem_cons_self

/-- At a suspended run, a decision on any other proposal is refused. -/
theorem resume_refused {checkpoint : AgentCheckpoint SecretaryAgentState}
    {pending : SecretaryActionProposal}
    (hpend : checkpoint.state.business.pendingProposal = some pending)
    (hid : input.proposalId ≠ pending.proposalId) :
    ∃ rejection, applyResumeInput checkpoint input = .error (.resumeInputRejected rejection) := by
  cases hres : applyResumeInput checkpoint input with
  | error error =>
    obtain ⟨rejection, rfl⟩ := applyResumeInput_error hres
    exact ⟨rejection, rfl⟩
  | ok state =>
    have happd := AgentState.applyUpdates_eq_ok.mp (applyResumeInput_ok.mp hres)
    obtain ⟨next, hone, -⟩ := applyAll_cons.mp happd
    obtain ⟨business, happ, -⟩ := AgentState.applyOne_business_ok.mp hone
    obtain ⟨⟨waiting, hwait, hmatches⟩, -⟩ :=
      SecretaryAgentState.applyUpdate_approvalResolved.mp happ
    obtain rfl : pending = waiting := Option.some.inj (hpend.symm.trans hwait)
    exact absurd hmatches.symm hid

/-- In every run on action graphs, whatever the planner, the retriever, the executor and the Owner
do: an effect is dispatched only for a valid proposal that was accepted, with nothing else
accepted, dispatched or rejected since, and with the Owner's approval in between where the
proposal needs it; nothing is dispatched after a rejection that was not accepted since; no
proposal is dispatched more often than it was accepted; and a suspended run waits for a proposal
that needs the Owner, and refuses a decision on any other, which changes nothing but what loading
the checkpoint changes. -/
theorem no_effect_without_approval {W S : Type} {run : Recorded SecretaryAgentState W S}
    (h : ActionRuns run) :
    (∀ before envelope answer after, run.2 = before ++ dispatched envelope answer :: after →
      validateActionProposal envelope.effect.proposal = .ok () ∧
        Cleared before envelope.effect.proposal) ∧
    (∀ before input between envelope answer after,
      run.2 = before ++ recorded (.approvalResolved input) :: between ++
        dispatched envelope answer :: after →
      input.decision = .reject →
      recorded (.proposalAccepted envelope.effect.proposal) ∈ between) ∧
    (∀ id, run.2.countP (isDispatchOf id) ≤ run.2.countP (isAcceptanceOf id)) ∧
    ∀ checkpoint shared, run.1 = (.suspended checkpoint, shared) →
      ∃ pending, checkpoint.state.business.pendingProposal = some pending ∧
        pending.action.NeedsOwner ∧
        ∀ input : SecretaryActionResumeInput, input.proposalId ≠ pending.proposalId →
          (∃ rejection, applyResumeInput checkpoint input =
            .error (.resumeInputRejected rejection)) ∧
          ∀ (runtime : GraphRuntime SecretaryAgentState W S) store watch fuel trace st,
            runtime.checkpointStore = some store →
            store.load checkpoint.id shared.store = (.ok checkpoint, st) →
            ∃ error, resumeWithContext runtime watch fuel checkpoint.id input trace shared =
              (.error error, { shared with store := st }) := by
  obtain ⟨position, hrepr, hmachine⟩ := actionRuns_machine h
  obtain ⟨hdisps, hstand⟩ := machine_standing hmachine
  refine ⟨?_, ?_, dispatches_le_acceptances hdisps, ?_⟩
  · intro before envelope answer after hspl
    rw [hspl] at hdisps
    exact hdisps.split _ rfl
  · intro before input between envelope answer after hspl hrej
    rw [hspl] at hdisps
    exact accepted_since_rejection hrej (hdisps.split _ rfl).2
  · intro checkpoint shared hsusp
    rw [hsusp] at hrepr
    cases hrepr with
    | suspended hnext =>
      obtain ⟨pending, before, hpend, -, howner, -⟩ := hstand
      refine ⟨pending, hpend, howner, fun input hid => ?_⟩
      obtain ⟨rejection, href⟩ := resume_refused hpend hid
      refine ⟨⟨rejection, href⟩, ?_⟩
      intro runtime store watch fuel trace st hsto hload
      cases hres : resumeWithContext runtime watch fuel checkpoint.id input trace shared with
      | mk result shared' =>
        cases resumeWithContext_ways hsto hres with
        | unloaded hfail =>
          rw [hload] at hfail
          cases hfail
        | unsuitable hldd hchk =>
          rw [hload] at hldd
          cases hldd
          exact ⟨_, rfl⟩
        | inputRejected hldd hchk hin =>
          rw [hload] at hldd
          cases hldd
          exact ⟨_, rfl⟩
        | untaken hldd hchk hin htake =>
          rw [hload] at hldd
          cases hldd
          rw [href] at hin
          cases hin
        | executed hldd hchk hin htake hexec =>
          rw [hload] at hldd
          cases hldd
          rw [href] at hin
          cases hin

end Runs

section Scripted

open Scripted

/-- A task that the Owner approves is created once, on that approval. -/
theorem no_effect_without_approval_task :
    (played taskScript [decision "p-task" .approve]).2.countP (isDispatchOf "p-task") = 1 ∧
      ∃ before envelope answer after, (played taskScript [decision "p-task" .approve]).2 =
          before ++ dispatched envelope answer :: after ∧
        Cleared before envelope.effect.proposal := by
  have hruns := played_runs taskScript [decision "p-task" .approve]
  have hcnt : (played taskScript [decision "p-task" .approve]).2.countP
      (isDispatchOf "p-task") = 1 := by decide +kernel
  generalize played taskScript [decision "p-task" .approve] = run at hruns hcnt ⊢
  have hsome : 0 < run.2.countP (isDispatchOf "p-task") := by rw [hcnt]; exact Nat.one_pos
  obtain ⟨entry, hent, hdisp⟩ := List.countP_pos_iff.mp hsome
  obtain ⟨proposal, hprop, -⟩ := (Option.any_eq_true _ _).mp hdisp
  obtain ⟨envelope, answer, rfl, -⟩ := dispatch?_eq_some hprop
  obtain ⟨before, after, hspl⟩ := List.append_of_mem hent
  have hcle := (no_effect_without_approval hruns).1 before envelope answer after hspl
  exact ⟨hcnt, before, envelope, answer, after, hspl, hcle.2⟩

end Scripted

end ServerRS.ActionGraph
