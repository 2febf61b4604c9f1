import Mathlib.Order.Bounds.Basic
import ServerRS.NapCat.Handler

/-!
# The heartbeat watchdog

Models `napcat/heartbeat.rs` and the loop of `NapCatListener::run_forward`. Times are in
nanoseconds.

The comment over `heartbeat_deadline` gives a rule (`stated`): before the first heartbeat the
connection has the startup grace, and after one it has the declared interval times the multiplier.
The code never waits less than the grace, so it does what the rule says if and only if the grace is
the shorter of the two or has passed as well (`watchdog_by_rule_iff`). Of the events only the
heartbeats matter, and the loop ends with a timeout at the first moment between two frames at which
the deadline has expired (`listen_timeout_iff`).
-/

namespace ServerRS.NapCat

/-! ## Configuration -/

structure HeartbeatConfig where
  enabled : Bool
  startupGraceSecs : ℕ
  minIntervalSecs : ℕ
  maxIntervalSecs : ℕ
  defaultIntervalSecs : ℕ
  timeoutMultiplier : ℕ
deriving DecidableEq

namespace HeartbeatConfig

def default : HeartbeatConfig := ⟨true, 300, 5, 300, 30, 3⟩

def validate (config : HeartbeatConfig) : Except String Unit :=
  if config.startupGraceSecs = 0 ∨ 3600 < config.startupGraceSecs then
    .error "heartbeat.startup_grace_secs must be in 1..=3600"
  else if config.minIntervalSecs = 0 ∨ 3600 < config.minIntervalSecs ∨
      config.maxIntervalSecs < config.minIntervalSecs ∨ 3600 < config.maxIntervalSecs then
    .error "heartbeat min/max interval must be in 1..=3600 and max >= min"
  else if config.defaultIntervalSecs < config.minIntervalSecs ∨
      config.maxIntervalSecs < config.defaultIntervalSecs then
    .error "heartbeat.default_interval_secs out of [min, max]"
  else if config.timeoutMultiplier = 0 ∨ 10 < config.timeoutMultiplier then
    .error "heartbeat.timeout_multiplier must be in 1..=10"
  else .ok ()

def clampInterval (config : HeartbeatConfig) : Option ℕ → ℕ
  | some secs => max config.minIntervalSecs (min secs config.maxIntervalSecs)
  | none => config.defaultIntervalSecs

theorem clampInterval_le {config : HeartbeatConfig} (h : config.validate = .ok ())
    (declared : Option ℕ) :
    config.clampInterval declared ≤ 3600 ∧ config.timeoutMultiplier ≤ 10 := by
  unfold validate at h
  split_ifs at h with hgrace hbounds hdefault hmult
  cases declared with
  | none => exact ⟨by simp only [clampInterval]; omega, by omega⟩
  | some secs => exact ⟨by simp only [clampInterval]; omega, by omega⟩

end HeartbeatConfig

/-! ## State -/

inductive LifecycleState where
  | connected
  | lifecycleReceived
  | heartbeating
  | ended
deriving DecidableEq

structure HeartbeatState where
  config : HeartbeatConfig
  lifecycle : LifecycleState
  declaredIntervalSecs : ℕ
  lastHeartbeatAt : Option ℕ
  lastBusinessEventAt : Option ℕ
  connectedAt : ℕ
deriving DecidableEq

inductive HeartbeatDeadline where
  | disabled
  | waiting (remaining : ℕ)
  | expired
deriving DecidableEq

/-- `Duration::from_secs`. -/
def fromSecs (secs : ℕ) : ℕ := 10 ^ 9 * secs

namespace HeartbeatState

def new (config : HeartbeatConfig) (now : ℕ) : HeartbeatState :=
  ⟨config, .connected, config.defaultIntervalSecs, none, none, now⟩

def observeMeta (state : HeartbeatState) (now : ℕ) : MetaEvent → HeartbeatState
  | .lifecycle =>
    if state.lifecycle = .connected then { state with lifecycle := .lifecycleReceived } else state
  | .heartbeat intervalSecs =>
    { state with
      declaredIntervalSecs := state.config.clampInterval intervalSecs
      lastHeartbeatAt := some now
      lifecycle := .heartbeating }

def observeBusinessEvent (state : HeartbeatState) (now : ℕ) : HeartbeatState :=
  { state with lastBusinessEventAt := some now }

/-- An event that is not a meta event is a business event. -/
def observe (state : HeartbeatState) (now : ℕ) : Option MetaEvent → HeartbeatState
  | some event => state.observeMeta now event
  | none => state.observeBusinessEvent now

-- `checked_mul` fails where the seconds do not fit into 64 bits.
def deadlineOffset (state : HeartbeatState) : ℕ :=
  let grace := state.config.startupGraceSecs
  let secs := state.declaredIntervalSecs * state.config.timeoutMultiplier
  match state.lifecycle with
  | .connected | .lifecycleReceived | .ended => fromSecs grace
  | .heartbeating => fromSecs (max (if secs < 2 ^ 64 then secs else grace) grace)

/-- What is left at `now` of a deadline. -/
def remaining (deadline now : ℕ) : HeartbeatDeadline :=
  if deadline ≤ now then .expired else .waiting (deadline - now)

def heartbeatDeadline (state : HeartbeatState) (now : ℕ) : HeartbeatDeadline :=
  if state.config.enabled = false then .disabled
  else if state.lifecycle = .ended then .disabled
  else remaining (state.lastHeartbeatAt.getD state.connectedAt + state.deadlineOffset) now

def after (state : HeartbeatState) (history : List (ℕ × Option MetaEvent)) : HeartbeatState :=
  history.foldl (fun state event => state.observe event.1 event.2) state

end HeartbeatState

open HeartbeatState

/-! ## The rule -/

/-- The heartbeat of an event, with the interval that it declares. -/
def heartbeat? (event : ℕ × Option MetaEvent) : Option (ℕ × Option ℕ) :=
  match event.2 with
  | some (.heartbeat intervalSecs) => some (event.1, intervalSecs)
  | some .lifecycle | none => none

def heartbeats (history : List (ℕ × Option MetaEvent)) : List (ℕ × Option ℕ) :=
  history.filterMap heartbeat?

/-- The rule of the comment. -/
def stated (config : HeartbeatConfig) (connectedAt : ℕ) (history : List (ℕ × Option MetaEvent))
    (now : ℕ) : HeartbeatDeadline :=
  if config.enabled = false then .disabled
  else
    match (heartbeats history).getLast? with
    | none => remaining (connectedAt + fromSecs config.startupGraceSecs) now
    | some last =>
      remaining (last.1 + fromSecs (config.clampInterval last.2 * config.timeoutMultiplier)) now

/-- What the heartbeats of a history leave in the state. -/
structure Reflects (config : HeartbeatConfig) (connectedAt : ℕ) (last : Option (ℕ × Option ℕ))
    (state : HeartbeatState) : Prop where
  sameConfig : state.config = config
  sameConnection : state.connectedAt = connectedAt
  lastHeartbeatAt : state.lastHeartbeatAt = last.map Prod.fst
  alive : state.lifecycle ≠ .ended
  lifecycle : state.lifecycle = .heartbeating ↔ last.isSome = true
  declared : ∀ heartbeat ∈ last, state.declaredIntervalSecs = config.clampInterval heartbeat.2

section

variable {config : HeartbeatConfig} {connectedAt now : ℕ}
  {history : List (ℕ × Option MetaEvent)} {last : Option (ℕ × Option ℕ)} {state : HeartbeatState}

theorem Reflects.observe (h : Reflects config connectedAt last state)
    (event : ℕ × Option MetaEvent) :
    Reflects config connectedAt ((heartbeat? event).or last) (state.observe event.1 event.2) := by
  obtain ⟨hconf, hcon, hlast, halive, hlif, hdecl⟩ := h
  obtain ⟨now, _ | intervalSecs | _⟩ := event
  · exact ⟨hconf, hcon, hlast, halive, hlif, hdecl⟩
  · refine ⟨hconf, hcon, rfl, LifecycleState.noConfusion, ⟨fun _ => rfl, fun _ => rfl⟩, ?_⟩
    rintro heartbeat hhear
    cases hhear
    exact congrArg (HeartbeatConfig.clampInterval · intervalSecs) hconf
  · simp only [HeartbeatState.observe, observeMeta]
    split
    · next hsta =>
      -- a connection that has just begun has no heartbeat to forget
      have hnone : last.isSome ≠ true := fun hsome =>
        LifecycleState.noConfusion (hsta.symm.trans (hlif.mpr hsome))
      exact ⟨hconf, hcon, hlast, LifecycleState.noConfusion,
        ⟨fun h => LifecycleState.noConfusion h, fun hsome => absurd hsome hnone⟩, hdecl⟩
    · exact ⟨hconf, hcon, hlast, halive, hlif, hdecl⟩

theorem reflects_after : Reflects config connectedAt (heartbeats history).getLast?
    ((new config connectedAt).after history) := by
  induction history using List.reverseRecOn with
  | nil =>
    exact ⟨rfl, rfl, rfl, LifecycleState.noConfusion,
      ⟨fun h => LifecycleState.noConfusion h, fun h => Bool.noConfusion h⟩, fun _ h => by cases h⟩
  | append_singleton history event ih =>
    have hlast : (heartbeats (history ++ [event])).getLast? =
        (heartbeat? event).or (heartbeats history).getLast? := by
      rw [heartbeats, List.filterMap_append, List.getLast?_append]
      cases hbeat : heartbeat? event <;> simp [hbeat, heartbeats]
    rw [hlast, HeartbeatState.after, List.foldl_append]
    exact ih.observe event

/-- The rule of the code. -/
theorem heartbeatDeadline_eq (hval : config.validate = .ok ())
    (h : Reflects config connectedAt last state) :
    state.heartbeatDeadline now =
      if config.enabled = false then .disabled
      else
        last.elim (remaining (connectedAt + fromSecs config.startupGraceSecs) now) fun last =>
          remaining (last.1 + fromSecs (max (config.clampInterval last.2 * config.timeoutMultiplier)
            config.startupGraceSecs)) now := by
  obtain ⟨rfl, rfl, hlast, halive, hlif, hdecl⟩ := h
  unfold heartbeatDeadline
  rw [if_neg halive, hlast]
  congr 1
  cases last with
  | none =>
    have hsta : state.lifecycle ≠ .heartbeating := fun h => Bool.noConfusion (hlif.mp h)
    have hoffs : state.deadlineOffset = fromSecs state.config.startupGraceSecs := by
      unfold deadlineOffset
      split
      · rfl
      · rfl
      · rfl
      · next h => exact absurd h hsta
    rw [hoffs]
    rfl
  | some last =>
    have hbeating : state.lifecycle = .heartbeating := hlif.mpr rfl
    have hfits : state.declaredIntervalSecs * state.config.timeoutMultiplier < 2 ^ 64 := by
      obtain ⟨hint, hmult⟩ := HeartbeatConfig.clampInterval_le hval last.2
      calc state.declaredIntervalSecs * state.config.timeoutMultiplier
          ≤ 3600 * 10 := Nat.mul_le_mul ((hdecl last rfl).trans_le hint) hmult
        _ < 2 ^ 64 := by decide
    have hoffs : state.deadlineOffset =
        fromSecs (max (state.declaredIntervalSecs * state.config.timeoutMultiplier)
          state.config.startupGraceSecs) := by
      simp only [deadlineOffset, hbeating, if_pos hfits]
    rw [hoffs, hdecl last rfl]
    rfl

theorem fromSecs_lt {secs more : ℕ} (h : secs < more) : fromSecs secs < fromSecs more := by
  unfold fromSecs
  omega

theorem remaining_eq_iff {deadline late : ℕ} (h : deadline < late) :
    remaining late now = remaining deadline now ↔ late ≤ now := by
  unfold remaining
  split_ifs with hlate hdead hdead
  · exact ⟨fun _ => hlate, fun _ => rfl⟩
  · exact absurd (h.le.trans hlate) hdead
  · exact ⟨False.elim, fun h => absurd h hlate⟩
  · refine ⟨fun hwait => ?_, fun h => absurd h hlate⟩
    injection hwait with hwait
    omega

/-- The grace is no part of the rule after a heartbeat, and of the code it is. -/
theorem heartbeatDeadline_eq_stated_iff (hval : config.validate = .ok ()) :
    ((new config connectedAt).after history).heartbeatDeadline now =
        stated config connectedAt history now ↔
      config.enabled = false ∨ ∀ last ∈ (heartbeats history).getLast?,
        config.startupGraceSecs ≤ config.clampInterval last.2 * config.timeoutMultiplier ∨
          last.1 + fromSecs config.startupGraceSecs ≤ now := by
  rw [heartbeatDeadline_eq hval reflects_after, stated]
  by_cases henab : config.enabled = false
  · rw [if_pos henab, if_pos henab]
    exact ⟨fun _ => .inl henab, fun _ => rfl⟩
  · rw [if_neg henab, if_neg henab, or_iff_right henab]
    cases hlast : (heartbeats history).getLast? with
    | none => exact ⟨fun _ last h => absurd h (Option.not_mem_none last), fun _ => rfl⟩
    | some last =>
      simp only [Option.elim_some, Option.mem_def, Option.some.injEq, forall_eq']
      rcases Nat.lt_or_ge (config.clampInterval last.2 * config.timeoutMultiplier)
        config.startupGraceSecs with hshort | hlong
      · rw [max_eq_right hshort.le, or_iff_right (Nat.not_le.mpr hshort)]
        exact remaining_eq_iff (Nat.add_lt_add_left (fromSecs_lt hshort) last.1)
      · rw [max_eq_left hlong]
        exact ⟨fun _ => .inl hlong, fun _ => rfl⟩

/-- Business and lifecycle events are without effect. -/
theorem heartbeatDeadline_congr (hval : config.validate = .ok ())
    {other : List (ℕ × Option MetaEvent)} (h : heartbeats other = heartbeats history) :
    ((new config connectedAt).after other).heartbeatDeadline now =
      ((new config connectedAt).after history).heartbeatDeadline now := by
  rw [heartbeatDeadline_eq hval reflects_after, heartbeatDeadline_eq hval reflects_after, h]

end

/-! ## The listener -/

/-- What the stream delivers next, what it finds there, and when: the moment at which the heartbeat
state learns of it, and the moment at which its handling is over. -/
structure Arrival where
  message : Option WsMessage
  env : FrameEnv
  arrivesAt : ℕ
  observedAfter : ℕ
  handledAfter : ℕ

/-- The loop between two frames. -/
structure ListenerState where
  now : ℕ
  heartbeat : HeartbeatState
  handler : PersonalSecretaryInboundHandler

inductive ListenerEnd where
  | heartbeatTimeout (time : ℕ) (text : String)
  | closed (time : ℕ)
  | failed (error : NapCatError)
  /-- There is no deadline, and no further frame. -/
  | waiting
deriving DecidableEq

/-- What `handle_ws_message` makes of a text for the heartbeat state. -/
def observeText (crates : Crates) (state : HeartbeatState) (now : ℕ) (text : String) :
    HeartbeatState :=
  if MAX_WS_TEXT_BYTES < text.utf8ByteSize then state
  else (crates.fromStr text).elim state fun rawEvent => state.observe now (parseMetaEvent rawEvent)

def observeMessage (crates : Crates) (state : HeartbeatState) (now : ℕ) :
    Option WsMessage → HeartbeatState
  | some (.text text) => observeText crates state now text
  | _ => state

namespace ListenerState

/-- A frame is taken as soon as the loop is idle and the frame is there. -/
def takenAt (state : ListenerState) (arrival : Arrival) : ℕ := max state.now arrival.arrivesAt

def handle (crates : Crates) (state : ListenerState) (arrival : Arrival) :
    Except NapCatError Bool × ListenerState :=
  let observedAt := state.takenAt arrival + arrival.observedAfter
  let (result, handler) := handleOneMessage crates arrival.env state.handler arrival.message
  (result, {
    now := observedAt + arrival.handledAfter
    heartbeat := observeMessage crates state.heartbeat observedAt arrival.message
    handler })

/-- The sleep is over before the next frame is there, or together with it: the select is biased. -/
def timesOut (state : ListenerState) (wait : ℕ) (arrival : Arrival) : Prop :=
  state.now + wait ≤ state.takenAt arrival

instance (state : ListenerState) (wait : ℕ) (arrival : Arrival) :
    Decidable (state.timesOut wait arrival) :=
  inferInstanceAs (Decidable (_ ≤ _))

end ListenerState

/-- How the loop goes on after a frame. -/
def proceed (handled : Except NapCatError Bool × ListenerState) (others : ListenerEnd) :
    ListenerEnd :=
  match handled.1 with
  | .error error => .failed error
  | .ok true => .closed handled.2.now
  | .ok false => others

/-- The loop of `run_forward`, with what the stream delivers. -/
def listen (crates : Crates) (state : ListenerState) : List Arrival → ListenerEnd
  | [] =>
    match state.heartbeat.heartbeatDeadline state.now with
    | .expired => .heartbeatTimeout state.now "heartbeat deadline already expired"
    | .disabled => .waiting
    | .waiting wait => .heartbeatTimeout (state.now + wait) "no heartbeat within deadline"
  | arrival :: rest =>
    let handled := state.handle crates arrival
    match state.heartbeat.heartbeatDeadline state.now with
    | .expired => .heartbeatTimeout state.now "heartbeat deadline already expired"
    | .disabled => proceed handled (listen crates handled.2 rest)
    | .waiting wait =>
      if state.timesOut wait arrival then
        .heartbeatTimeout (state.now + wait) "no heartbeat within deadline"
      else proceed handled (listen crates handled.2 rest)

/-- `NapCatListener::run_forward`, with what connecting and the observer of it answer. -/
def runForward (crates : Crates) (config : HeartbeatConfig) (connect : Except NapCatError ℕ)
    (handler : PersonalSecretaryInboundHandler) (arrivals : List Arrival) : ListenerEnd :=
  match config.validate with
  | .error error => .failed (.protocol error)
  | .ok () =>
    match connect with
    | .error error => .failed error
    | .ok connectedAt => listen crates ⟨connectedAt, new config connectedAt, handler⟩ arrivals

/-- At this time the loop can be between two frames, with this heartbeat state. -/
inductive Idle (crates : Crates) : List Arrival → ListenerState → ℕ → HeartbeatState → Prop
  | last {state : ListenerState} {time : ℕ} (hnow : state.now ≤ time) :
    Idle crates [] state time state.heartbeat
  | before {arrival : Arrival} {rest : List Arrival} {state : ListenerState} {time : ℕ}
    (hnow : state.now ≤ time) (htkn : time ≤ state.takenAt arrival) :
    Idle crates (arrival :: rest) state time state.heartbeat
  | after {arrival : Arrival} {rest : List Arrival} {state : ListenerState} {time : ℕ}
    {heartbeat : HeartbeatState} (hopen : (state.handle crates arrival).1 = .ok false)
    (h : Idle crates rest (state.handle crates arrival).2 time heartbeat) :
    Idle crates (arrival :: rest) state time heartbeat

/-- The times between two frames at which the deadline has expired. -/
def expiries (crates : Crates) (arrivals : List Arrival) (state : ListenerState) : Set ℕ :=
  {time | ∃ heartbeat, Idle crates arrivals state time heartbeat ∧
    heartbeat.heartbeatDeadline time = .expired}

section

variable {crates : Crates} {arrivals rest : List Arrival} {arrival : Arrival}
  {state : ListenerState} {heartbeat : HeartbeatState} {now time wait : ℕ}

theorem remaining_eq_expired {deadline : ℕ} :
    remaining deadline now = .expired ↔ deadline ≤ now := by
  unfold remaining
  split_ifs with h <;> simp [h]

theorem heartbeatDeadline_of_disabled (h : heartbeat.heartbeatDeadline now = .disabled) :
    heartbeat.heartbeatDeadline time ≠ .expired := by
  unfold heartbeatDeadline remaining at h ⊢
  split_ifs at h ⊢
  all_goals exact HeartbeatDeadline.noConfusion

theorem heartbeatDeadline_of_waiting (h : heartbeat.heartbeatDeadline now = .waiting wait) :
    heartbeat.heartbeatDeadline time = .expired ↔ now + wait ≤ time := by
  unfold heartbeatDeadline at h ⊢
  split_ifs at h ⊢
  rw [remaining_eq_expired]
  unfold remaining at h
  split_ifs at h
  cases h
  omega

theorem Idle.now_le (h : Idle crates arrivals state time heartbeat) : state.now ≤ time := by
  induction h with
  | last hnow => exact hnow
  | before hnow _ => exact hnow
  | @after arrival _ state _ _ _ _ ih =>
    calc state.now
        ≤ state.takenAt arrival := le_max_left _ _
      _ ≤ state.takenAt arrival + arrival.observedAfter := Nat.le_add_right _ _
      _ ≤ state.takenAt arrival + arrival.observedAfter + arrival.handledAfter :=
        Nat.le_add_right _ _
      _ ≤ _ := ih

theorem now_le_of_expiry (h : time ∈ expiries crates arrivals state) : state.now ≤ time :=
  h.choose_spec.1.now_le

/-- The next frame is taken before any of them. -/
theorem takenAt_le_of_expiry (h : time ∈ expiries crates rest (state.handle crates arrival).2) :
    state.takenAt arrival ≤ time :=
  (Nat.le_add_right _ _).trans ((Nat.le_add_right _ _).trans (now_le_of_expiry h))

theorem expiries_cons : time ∈ expiries crates (arrival :: rest) state ↔
    (state.now ≤ time ∧ time ≤ state.takenAt arrival ∧
        state.heartbeat.heartbeatDeadline time = .expired) ∨
      ((state.handle crates arrival).1 = .ok false ∧
        time ∈ expiries crates rest (state.handle crates arrival).2) := by
  constructor
  · rintro ⟨heartbeat, hidle, hexp⟩
    cases hidle with
    | before hnow htkn => exact .inl ⟨hnow, htkn, hexp⟩
    | after hopen h => exact .inr ⟨hopen, heartbeat, h, hexp⟩
  · rintro (⟨hnow, htkn, hexp⟩ | ⟨hopen, heartbeat, h, hexp⟩)
    · exact ⟨_, .before hnow htkn, hexp⟩
    · exact ⟨heartbeat, .after hopen h, hexp⟩

theorem expiries_nil : time ∈ expiries crates [] state ↔
    state.now ≤ time ∧ state.heartbeat.heartbeatDeadline time = .expired := by
  constructor
  · rintro ⟨heartbeat, hidle, hexp⟩
    cases hidle with
    | last hnow => exact ⟨hnow, hexp⟩
  · rintro ⟨hnow, hexp⟩
    exact ⟨_, .last hnow, hexp⟩

theorem timeout_iff_of_least {fired : ℕ} {text : String} {times : Set ℕ} (h : IsLeast times fired) :
    (∃ shown, ListenerEnd.heartbeatTimeout fired text = .heartbeatTimeout time shown) ↔
      IsLeast times time := by
  constructor
  · rintro ⟨shown, heq⟩
    cases heq
    exact h
  · intro htime
    cases h.unique htime
    exact ⟨text, rfl⟩

theorem not_timeout_iff {ending : ListenerEnd} {times : Set ℕ}
    (hending : ∀ text, ending ≠ .heartbeatTimeout time text) (htimes : ∀ time, time ∉ times) :
    (∃ text, ending = .heartbeatTimeout time text) ↔ IsLeast times time :=
  ⟨fun ⟨text, h⟩ => absurd h (hending text), fun h => absurd h.1 (htimes time)⟩

/-- Where nothing expires before a frame is taken, what follows the frame decides. -/
theorem proceed_timeout_iff {others : ListenerEnd}
    (hquiet : ∀ time ≤ state.takenAt arrival, state.heartbeat.heartbeatDeadline time ≠ .expired)
    (hothers : (∃ text, others = .heartbeatTimeout time text) ↔
      IsLeast (expiries crates rest (state.handle crates arrival).2) time) :
    (∃ text, proceed (state.handle crates arrival) others = .heartbeatTimeout time text) ↔
      IsLeast (expiries crates (arrival :: rest) state) time := by
  have hcls (hres : (state.handle crates arrival).1 ≠ .ok false) (time : ℕ) :
      time ∉ expiries crates (arrival :: rest) state := by
    intro h
    rcases expiries_cons.mp h with ⟨_, htkn, hexp⟩ | ⟨hopen, _⟩
    · exact hquiet _ htkn hexp
    · exact hres hopen
  unfold proceed
  split
  · next hres =>
    refine not_timeout_iff (fun _ => ListenerEnd.noConfusion) (hcls ?_)
    simp [hres]
  · next hres =>
    refine not_timeout_iff (fun _ => ListenerEnd.noConfusion) (hcls ?_)
    simp [hres]
  · next hres =>
    have hsame : expiries crates (arrival :: rest) state =
        expiries crates rest (state.handle crates arrival).2 := by
      ext time
      rw [expiries_cons]
      constructor
      · rintro (⟨_, htkn, hexp⟩ | ⟨_, h⟩)
        · exact absurd hexp (hquiet _ htkn)
        · exact h
      · exact fun h => .inr ⟨hres, h⟩
    rw [hothers, hsame]

/-- The loop ends with a timeout at the first of the expiries. -/
theorem listen_timeout_iff : (∃ text, listen crates state arrivals = .heartbeatTimeout time text) ↔
    IsLeast (expiries crates arrivals state) time := by
  induction arrivals generalizing state with
  | nil =>
    unfold listen
    cases hdead : state.heartbeat.heartbeatDeadline state.now with
    | expired =>
      exact timeout_iff_of_least
        ⟨expiries_nil.mpr ⟨le_rfl, hdead⟩, fun _ h => now_le_of_expiry h⟩
    | disabled =>
      exact not_timeout_iff (fun _ => ListenerEnd.noConfusion)
        fun _ h => heartbeatDeadline_of_disabled hdead (expiries_nil.mp h).2
    | waiting wait =>
      refine timeout_iff_of_least ⟨expiries_nil.mpr ⟨Nat.le_add_right _ _, ?_⟩, fun _ h => ?_⟩
      · exact (heartbeatDeadline_of_waiting hdead).mpr le_rfl
      · exact (heartbeatDeadline_of_waiting hdead).mp (expiries_nil.mp h).2
  | cons arrival rest ih =>
    unfold listen
    cases hdead : state.heartbeat.heartbeatDeadline state.now with
    | expired =>
      exact timeout_iff_of_least
        ⟨expiries_cons.mpr (.inl ⟨le_rfl, le_max_left _ _, hdead⟩),
          fun _ h => now_le_of_expiry h⟩
    | disabled =>
      exact proceed_timeout_iff (fun _ _ => heartbeatDeadline_of_disabled hdead) ih
    | waiting wait =>
      have hexp (time : ℕ) : state.heartbeat.heartbeatDeadline time = .expired ↔
          state.now + wait ≤ time := heartbeatDeadline_of_waiting hdead
      simp only
      split
      · next hout =>
        refine timeout_iff_of_least ⟨expiries_cons.mpr (.inl ?_), fun time h => ?_⟩
        · exact ⟨Nat.le_add_right _ _, hout, (hexp _).mpr le_rfl⟩
        · rcases expiries_cons.mp h with ⟨_, _, h⟩ | ⟨_, h⟩
          · exact (hexp time).mp h
          -- the sleep is over before the frame would be taken
          · exact hout.trans (takenAt_le_of_expiry h)
      · next hout =>
        refine proceed_timeout_iff (fun time htkn h => hout ?_) ih
        exact ((hexp time).mp h).trans htkn

end

/-! ## The watchdog -/

/-- The watchdog does what the comment says of it: at `now` it answers by the rule, only the
heartbeats count, and the loop ends with a timeout at the first expiry between two frames. -/
def WatchdogByRule (config : HeartbeatConfig) (connectedAt : ℕ)
    (history : List (ℕ × Option MetaEvent)) (now : ℕ) : Prop :=
  ((new config connectedAt).after history).heartbeatDeadline now =
      stated config connectedAt history now ∧
    (∀ other, heartbeats other = heartbeats history →
      ((new config connectedAt).after other).heartbeatDeadline now =
        ((new config connectedAt).after history).heartbeatDeadline now) ∧
    ∀ crates handler arrivals time,
      (∃ text, runForward crates config (.ok connectedAt) handler arrivals =
          .heartbeatTimeout time text) ↔
        IsLeast (expiries crates arrivals ⟨connectedAt, new config connectedAt, handler⟩) time

/-- After a heartbeat the code waits for the grace as well. -/
theorem watchdog_by_rule_iff {config : HeartbeatConfig} (hvalid : config.validate = .ok ())
    (connectedAt : ℕ) (history : List (ℕ × Option MetaEvent)) (now : ℕ) :
    WatchdogByRule config connectedAt history now ↔
      config.enabled = false ∨ ∀ last ∈ (heartbeats history).getLast?,
        config.startupGraceSecs ≤ config.clampInterval last.2 * config.timeoutMultiplier ∨
          last.1 + fromSecs config.startupGraceSecs ≤ now := by
  refine Iff.trans ⟨fun h => h.1, fun h => ⟨h, ?_, ?_⟩⟩ (heartbeatDeadline_eq_stated_iff hvalid)
  · exact fun other hoth => heartbeatDeadline_congr hvalid hoth
  rintro crates handler arrivals time
  unfold runForward
  rw [hvalid]
  exact listen_timeout_iff

namespace Scripted

/-- A watchdog whose grace is shorter than what three intervals take. -/
def shortGrace : HeartbeatConfig := { HeartbeatConfig.default with startupGraceSecs := 60 }

/-- A heartbeat right after the connection that declares half a minute. -/
def beaten : List (ℕ × Option MetaEvent) := [(0, some (.heartbeat (some 30)))]

theorem shortGrace_valid : shortGrace.validate = .ok () := by decide

theorem default_valid : HeartbeatConfig.default.validate = .ok () := by decide

theorem short_grace_by_rule : WatchdogByRule shortGrace 0 beaten (fromSecs 90) :=
  (watchdog_by_rule_iff shortGrace_valid 0 beaten (fromSecs 90)).mpr
    (.inr fun _ h => .inl (by cases h; decide))

/-- Three intervals after its last heartbeat, the default watchdog still waits. -/
theorem default_outlasts_rule : HeartbeatConfig.default.validate = .ok () ∧
    stated .default 0 beaten (fromSecs 90) = .expired ∧
    ((new .default 0).after beaten).heartbeatDeadline (fromSecs 90) = .waiting (fromSecs 210) ∧
    ¬WatchdogByRule .default 0 beaten (fromSecs 90) := by
  refine ⟨default_valid, by decide, by decide, fun h => ?_⟩
  exact absurd h.1 (by decide)

end Scripted

end ServerRS.NapCat
