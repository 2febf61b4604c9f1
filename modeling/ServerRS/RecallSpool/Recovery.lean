import ServerRS.RecallSpool.Frames

/-!
# The recovery of a recall spool

Recovery stores the pieces that it reads the file in (`recoverFrom_eq_store`): it keeps the frames and
puts the rest into files of the quarantine. That succeeds exactly when the names of these files are
free (`store_ok_iff`). Frames are read back whole, and a later recovery passes them
(`Frames.events_bytes`, `Frames.recoverFrom_bytes`).
-/

namespace ServerRS.RecallSpool

open Lib
open Spool (Bytes)

namespace RecallWal

variable {E : Type} (self : RecallWal E)

/-- Whatever opens in these bytes was sealed by `append`, which seals events. -/
def SealedByAppend (bytes : Bytes) : Prop :=
  ∀ rest, rest <:+ bytes → ∀ plaintext, self.opened rest = some plaintext →
    ∃ event, plaintext = self.json.toVec event

/-- Why these bytes do not begin with a frame. -/
def reason (rest : Bytes) : String :=
  match self.decodeOne rest with
  | .error error => error.code
  | .ok _ => ""

/-- The names of the files for corrupt data that begins at these places. -/
def quarantineNames : (ℕ → ℕ) → List Bytes → List String
  | _, [] => []
  | clock, rest :: gaps =>
    quarantineName (clock 0) (self.reason rest) :: quarantineNames (fun n => clock (n + 1)) gaps

/-- The names differ, and the directory has none of them. -/
def NamesFree (names : List String) (disk : RecallDisk) : Prop :=
  names.Nodup ∧ ∀ name ∈ names, name ∉ disk.quarantine.map Prod.fst

instance (names : List String) (disk : RecallDisk) : Decidable (NamesFree names disk) :=
  inferInstanceAs (Decidable (_ ∧ _))

/-- Keep the frames of some pieces, and put the rest into quarantine. -/
def store : (ℕ → ℕ) → List (Piece UInt8) → Bytes → RecallDisk → Except String Bytes × RecallDisk
  | _, [], recovered, disk => (.ok recovered, disk)
  | clock, .frame data :: pieces, recovered, disk => store clock pieces (recovered ++ data) disk
  | clock, .gap rest length :: pieces, recovered, disk =>
    match quarantine (clock 0) (rest.take length) (self.reason rest) disk with
    | (.error error, disk) => (.error error, disk)
    | (.ok _, disk) => store (fun n => clock (n + 1)) pieces recovered disk

variable {self} {bytes rest recovered data : Bytes} {plaintext : Bytes} {n fuel : ℕ} {event : E}
  {clock : ℕ → ℕ} {disk : RecallDisk} {pieces : List (Piece UInt8)} {frames : List Bytes}

/-! ## The loop -/

theorem magicPosition_getD :
    (magicPosition bytes).getD bytes.length = self.framing.unmarked bytes := by
  induction bytes with
  | nil => rfl
  | cons byte bytes ih =>
    rw [magicPosition, Framing.unmarked]
    by_cases hmagic : (byte :: bytes).take 4 = MAGIC
    · rw [if_pos hmagic, show self.framing.marked (byte :: bytes) = true from decide_eq_true hmagic]
      rfl
    · rw [if_neg hmagic, show self.framing.marked (byte :: bytes) = false from decide_eq_false hmagic,
        ← ih, List.length_cons]
      cases magicPosition bytes
      · rfl
      · rfl

theorem nextFrameOffset_getD {byte : UInt8} :
    (nextFrameOffset (byte :: bytes) 0).getD (byte :: bytes).length =
      self.framing.unmarked bytes + 1 := by
  rw [nextFrameOffset, ← magicPosition_getD]
  show ((magicPosition bytes).map (0 + 1 + ·)).getD (bytes.length + 1) = _
  cases magicPosition bytes with
  | none => rfl
  | some position => exact Nat.add_comm _ _

theorem SealedByAppend.drop (h : self.SealedByAppend rest) (n : ℕ) :
    self.SealedByAppend (rest.drop n) :=
  fun later hlater => h later (hlater.trans (List.drop_suffix _ _))

/-- A frame that opens decodes to the event that `append` sealed. -/
theorem decodeOne_of_authentic (hseal : self.SealedByAppend bytes) (hrest : rest <:+ bytes)
    (h : self.authenticLen rest = some n) : ∃ event, self.decodeOne rest = .ok (n, event) := by
  obtain ⟨hopen, rfl⟩ := authenticLen_eq_some.mp h
  obtain ⟨plaintext, hpla⟩ := Option.isSome_iff_exists.mp hopen
  obtain ⟨event, rfl⟩ := hseal rest hrest plaintext hpla
  exact ⟨event, decodeOne_of_opened hpla (self.json.fromSlice_toVec event)⟩

theorem decodeOne_of_not_authentic (h : self.authenticLen rest = none) : ∃ error,
    self.decodeOne rest = .error error ∧ (error = .tornTail ↔ self.framing.torn rest = true) :=
  decodeOne_error fun _ hope => by cases hope.symm.trans (Option.map_eq_none_iff.mp h)

theorem recoverFrom_eq_store (hseal : self.SealedByAppend rest) (hfuel : rest.length ≤ fuel) :
    self.recoverFrom fuel clock rest recovered disk =
      self.store clock (self.framing.pieces fuel rest) recovered disk := by
  induction fuel generalizing rest clock recovered disk with
  | zero =>
    rw [List.eq_nil_of_length_eq_zero (Nat.le_zero.mp hfuel), Framing.pieces_nil]
    rfl
  | succ fuel ih =>
    cases rest with
    | nil => rfl
    | cons byte rest =>
      rw [List.length_cons] at hfuel
      rw [recoverFrom, List.isEmpty_cons, if_neg Bool.false_ne_true]
      cases hfrm : self.framing.frameLen (byte :: rest) with
      | some n =>
        have hn := (self.framing.frameLen_le hfrm).1
        obtain ⟨event, hdec⟩ := decodeOne_of_authentic hseal List.suffix_rfl hfrm
        rw [Framing.pieces_of_frame hfrm, store, hdec,
          ← ih (hseal.drop n) (by rw [List.length_drop, List.length_cons]; omega)]
      | none =>
        obtain ⟨error, hdec, htornIff⟩ := decodeOne_of_not_authentic hfrm
        have hrsn : self.reason (byte :: rest) = error.code := by rw [reason, hdec]
        rw [hdec]
        cases htorn : self.framing.torn (byte :: rest) with
        | true =>
          obtain rfl := htornIff.mpr htorn
          rw [Framing.pieces_of_torn hfrm htorn, store, hrsn, List.take_length]
          rfl
        | false =>
          have hoth : error ≠ .tornTail := fun heq => by
            rw [htornIff.mp heq] at htorn
            cases htorn
          rw [Framing.pieces_of_none hfrm htorn, store, hrsn]
          have hdrop : self.SealedByAppend (rest.drop (self.framing.unmarked rest)) :=
            hseal.drop (self.framing.unmarked rest + 1)
          cases error with
          | tornTail => exact absurd rfl hoth
          | _ =>
            dsimp only
            rw [nextFrameOffset_getD, List.drop_succ_cons]
            split
            · next heq => rw [heq]
            · next heq => rw [heq, ih hdrop (by rw [List.length_drop]; omega)]

/-! ## Files in quarantine -/

variable {names : List String}

theorem namesFree_cons {name : String} (file : Bytes) :
    NamesFree (name :: names) disk ↔ name ∉ disk.quarantine.map Prod.fst ∧
      NamesFree names { disk with quarantine := disk.quarantine ++ [(name, file)] } := by
  rw [NamesFree, NamesFree, List.nodup_cons, List.forall_mem_cons]
  simp only [List.map_append, List.map_cons, List.map_nil, List.mem_append, List.mem_singleton,
    not_or]
  constructor
  · rintro ⟨⟨hnew, hnd⟩, hfree, hother⟩
    refine ⟨hfree, hnd, fun other hoth => ⟨hother other hoth, ?_⟩⟩
    rintro rfl
    exact hnew hoth
  · rintro ⟨hfree, hnd, hother⟩
    exact ⟨⟨fun hmem => (hother name hmem).2 rfl, hnd⟩, hfree, fun other hoth =>
      (hother other hoth).1⟩

/-- With free names recovery keeps the frames and adds the rest to the quarantine; else it fails. -/
theorem store_ok_iff (hnames : names = self.quarantineNames clock (pieces.filterMap Piece.gap?)) :
    (NamesFree names disk → self.store clock pieces recovered disk =
      (.ok (recovered ++ (pieces.filterMap Piece.frame?).flatten),
        { disk with quarantine :=
            disk.quarantine ++ names.zip (pieces.filterMap Piece.left?) })) ∧
      (¬ NamesFree names disk → ∃ error disk',
        self.store clock pieces recovered disk = (.error error, disk')) := by
  induction pieces generalizing clock recovered disk names with
  | nil =>
    subst hnames
    refine ⟨fun _ => ?_, fun hnot => absurd ⟨List.nodup_nil, fun _ h => by cases h⟩ hnot⟩
    rw [store]
    simp only [List.filterMap_nil, List.flatten_nil, List.append_nil, List.zip_nil_right]
  | cons piece pieces ih =>
    cases piece with
    | frame data =>
      obtain ⟨hok, herr⟩ := @ih (recovered ++ data) clock disk names hnames
      refine ⟨fun hfree => ?_, herr⟩
      rw [store, hok hfree]
      simp only [List.filterMap_cons, Piece.frame?, Piece.left?, List.flatten_cons,
        List.append_assoc]
    | gap rest length =>
      subst hnames
      obtain ⟨hok, herr⟩ := @ih recovered (fun n => clock (n + 1))
        { disk with quarantine := disk.quarantine ++
            [(quarantineName (clock 0) (self.reason rest), rest.take length)] } _ rfl
      have hcons : self.quarantineNames clock ((Piece.gap rest length :: pieces).filterMap Piece.gap?) =
          quarantineName (clock 0) (self.reason rest) ::
            self.quarantineNames (fun n => clock (n + 1)) (pieces.filterMap Piece.gap?) := rfl
      rw [hcons, namesFree_cons (rest.take length), store, quarantine]
      by_cases htkn : quarantineName (clock 0) (self.reason rest) ∈ disk.quarantine.map Prod.fst
      · rw [if_pos htkn]
        exact ⟨fun hfree => absurd htkn hfree.1, fun _ => ⟨_, _, rfl⟩⟩
      · rw [if_neg htkn]
        dsimp only
        refine ⟨fun hfree => ?_, fun hnot => herr fun hfree => hnot ⟨htkn, hfree⟩⟩
        rw [hok hfree.2]
        simp only [List.filterMap_cons, Piece.frame?, Piece.left?, List.zip_cons_cons,
          List.append_assoc, List.singleton_append]

/-! ## Reading back -/

theorem readsAs_of_authentic (hseal : self.SealedByAppend bytes) (hrest : rest <:+ bytes)
    (h : self.authenticLen rest = some n) : ∃ event, self.ReadsAs (rest.take n) event := by
  obtain ⟨event, hdec⟩ := decodeOne_of_authentic hseal hrest h
  exact ⟨event, readsAs_take hdec⟩

end RecallWal

/-- Frames of a file, each with its event. -/
abbrev Frames (E : Type) := List (Bytes × E)

namespace Frames

variable {E : Type} {wal : RecallWal E} {frames : Frames E}

@[simp] def bytes (frames : Frames E) : Bytes := (frames.map Prod.fst).flatten

@[simp] def events (frames : Frames E) : List E := frames.map Prod.snd

theorem bytes_cons (frame : Bytes × E) (frames : Frames E) :
    Frames.bytes (frame :: frames) = frame.1 ++ frames.bytes := rfl

/-- Each is read as its event, whatever follows. -/
abbrev Read (wal : RecallWal E) (frames : Frames E) : Prop :=
  ∀ frame ∈ frames, wal.ReadsAs frame.1 frame.2

theorem exists_of_readsAs {all : List Bytes} (h : ∀ data ∈ all, ∃ event, wal.ReadsAs data event) :
    ∃ frames : Frames E, frames.Read wal ∧ frames.map Prod.fst = all := by
  induction all with
  | nil => exact ⟨[], by simp, rfl⟩
  | cons data all ih =>
    obtain ⟨⟨event, hev⟩, hall⟩ := List.forall_mem_cons.mp h
    obtain ⟨frames, hreads, rfl⟩ := ih hall
    exact ⟨(data, event) :: frames, List.forall_mem_cons.mpr ⟨hev, hreads⟩, rfl⟩

theorem not_isEmpty {frame : Bytes × E} (h : wal.ReadsAs frame.1 frame.2) (rest : Bytes) :
    (frame.1 ++ rest).isEmpty = false := by
  rw [List.isEmpty_eq_false_iff, ← List.length_pos_iff, List.length_append]
  exact Nat.add_pos_left h.1 _

section Read

variable (hreads : frames.Read wal)
include hreads

theorem length_le_bytes : frames.length ≤ frames.bytes.length := by
  induction frames with
  | nil => exact Nat.zero_le _
  | cons frame frames ih =>
    obtain ⟨hframe, hrest⟩ := List.forall_mem_cons.mp hreads
    rw [bytes_cons, List.length_append, Nat.add_comm]
    exact Nat.add_le_add (ih hrest) hframe.1

theorem decodeFrom_bytes (fuel : ℕ) (rest : Bytes) :
    wal.decodeFrom (frames.length + fuel) (frames.bytes ++ rest) = (wal.decodeFrom fuel rest).map
      fun more => (frames.map fun frame => (frame.1.length, frame.2)) ++ more := by
  induction frames with
  | nil =>
    rw [List.length_nil, Nat.zero_add]
    exact (congrFun Except.map_id _).symm
  | cons frame frames ih =>
    obtain ⟨hframe, hrest⟩ := List.forall_mem_cons.mp hreads
    rw [List.length_cons, Nat.add_right_comm, bytes_cons, List.append_assoc, RecallWal.decodeFrom,
      not_isEmpty hframe, if_neg Bool.false_ne_true, hframe.2]
    dsimp only
    rw [List.drop_left, ih hrest]
    cases wal.decodeFrom fuel rest <;> rfl

/-- Recovery passes the frames. -/
theorem recoverFrom_bytes (fuel : ℕ) (clock : ℕ → ℕ) (rest recovered : Bytes) (disk : RecallDisk) :
    wal.recoverFrom (frames.length + fuel) clock (frames.bytes ++ rest) recovered disk =
      wal.recoverFrom fuel clock rest (recovered ++ frames.bytes) disk := by
  induction frames generalizing recovered with
  | nil => simp
  | cons frame frames ih =>
    obtain ⟨hframe, hrest⟩ := List.forall_mem_cons.mp hreads
    rw [List.length_cons, Nat.add_right_comm, bytes_cons, List.append_assoc,
      RecallWal.recoverFrom, not_isEmpty hframe, if_neg Bool.false_ne_true, hframe.2]
    dsimp only
    rw [List.drop_left, List.take_left, ih hrest, List.append_assoc]

theorem events_bytes : wal.events frames.bytes = .ok frames.events := by
  obtain ⟨fuel, hfuel⟩ := Nat.exists_eq_add_of_le (length_le_bytes hreads)
  have hdecoded := decodeFrom_bytes hreads fuel []
  rw [List.append_nil] at hdecoded
  rw [RecallWal.events, RecallWal.decodeFrames, hfuel, hdecoded]
  cases fuel <;> simp [RecallWal.decodeFrom, Except.map, Function.comp_def]

end Read

end Frames

end ServerRS.RecallSpool
