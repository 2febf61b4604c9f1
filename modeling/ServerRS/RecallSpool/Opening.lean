import ServerRS.RecallSpool.Recovery
import ServerRS.Spool.MessageSpool

/-!
# Opening a recall spool

A process that opens the spool should succeed unless the file belongs to another key, keep every frame
that opens, put everything else into quarantine, and have nothing left to do when it opens again.
`open_recovers_iff` says for which disks it does: the file has no torn header of its own, no header of
a frame that reaches past the end of the file comes before a frame (the rest is taken for a torn tail,
with the frames in it), and the files in quarantine get names that are free. The name of a file is the
millisecond and the reason, so two corrupt frames in one millisecond are enough to fail
(`two_corrupt_frames`).
-/

namespace ServerRS.RecallSpool

open Lib
open Spool (Bytes KEY_ID_LEN NONCE_LEN)

namespace RecallWal

variable {E : Type} (self : RecallWal E)

/-! ## What opening should do -/

/-- What follows the header of the file. -/
def body (disk : RecallDisk) : Bytes := (disk.spool.getD []).drop SPOOL_HEADER_LEN

/-- The file has the header of this version. -/
def HeaderWritten (disk : RecallDisk) : Prop :=
  SPOOL_HEADER_LEN ≤ (disk.spool.getD []).length ∧ (disk.spool.getD []).take 4 = MAGIC ∧
    ((disk.spool.getD []).drop 4).take 1 = [VERSION]

instance (disk : RecallDisk) : Decidable (HeaderWritten disk) :=
  inferInstanceAs (Decidable (_ ∧ _ ∧ _))

def KeyDiffers (disk : RecallDisk) : Prop :=
  HeaderWritten disk ∧ ((disk.spool.getD []).drop 5).take KEY_ID_LEN ≠ self.key.keyId

instance (disk : RecallDisk) : Decidable (self.KeyDiffers disk) :=
  inferInstanceAs (Decidable (_ ∧ _))

/-- The spool holds the frames of the file before, and the quarantine the rest; opening it again, at
any time, changes nothing. -/
structure Recovered (wal : RecallWal E) (disk disk' : RecallDisk) : Prop where
  spool : disk'.spool = some (wal.header ++ (wal.framing.frames 0 (body disk)).flatten)
  quarantine : ∃ pieces : List (Piece UInt8), ∃ files, pieces.flatMap Piece.data = body disk ∧
    pieces.filterMap Piece.frame? = wal.framing.frames 0 (body disk) ∧
    pieces.filterMap Piece.left? = files.map Prod.snd ∧
    disk'.quarantine = disk.quarantine ++ files
  again : ∀ clock, ∃ backlog, wal.openWal clock disk' = (.ok backlog, disk')

/-- Opening succeeds unless the key differs, and recovers the file. -/
def Recovers (clock : ℕ → ℕ) (disk : RecallDisk) : Prop :=
  (self.KeyDiffers disk → ∃ error, self.openWal clock disk = (.error error, disk)) ∧
    (¬ self.KeyDiffers disk → ∃ backlog disk', self.openWal clock disk = (.ok backlog, disk') ∧
      self.Recovered disk disk')

/-- The file is missing, empty, or has a header; nothing before a frame looks like a torn tail; and
what is left out gets names that are free. -/
structure Readable (wal : RecallWal E) (clock : ℕ → ℕ) (disk : RecallDisk) : Prop where
  header : disk.spool.getD [] = [] ∨ HeaderWritten disk
  legible : ¬ wal.KeyDiffers disk → wal.framing.Legible 0 (body disk)
  names : ¬ wal.KeyDiffers disk →
    NamesFree (wal.quarantineNames clock (wal.framing.gaps true 0 (body disk))) disk

variable {self} {clock : ℕ → ℕ} {disk disk' : RecallDisk} {frames : Frames E}

/-- The first of some lists, with all their elements, are all of them. -/
theorem eq_of_flatten_eq {α : Type} {first all : List (List α)} (h : first <+: all)
    (hne : ∀ list ∈ all, list ≠ []) (hflat : first.flatten = all.flatten) : first = all := by
  obtain ⟨more, rfl⟩ := h
  rw [List.flatten_append, List.self_eq_append_right, List.flatten_eq_nil_iff] at hflat
  cases more with
  | nil => exact (List.append_nil first).symm
  | cons list more =>
    exact absurd (hflat list List.mem_cons_self)
      (hne list (List.mem_append_right _ List.mem_cons_self))

theorem length_quarantineNames (gaps : List Bytes) :
    (self.quarantineNames clock gaps).length = gaps.length := by
  induction gaps generalizing clock with
  | nil => rfl
  | cons rest gaps ih => exact congrArg (· + 1) ih

/-! ## The header -/

theorem length_header : self.header.length = SPOOL_HEADER_LEN := by
  rw [header, List.length_append, self.key.length_keyId]
  rfl

theorem initialize_empty (h : disk.spool.getD [] = []) :
    self.initializeOrVerifyHeader disk = (.ok (), { disk with spool := some self.header }) := by
  rw [initializeOrVerifyHeader, h]
  rfl

theorem initialize_written (h : HeaderWritten disk) : self.initializeOrVerifyHeader disk =
    if self.KeyDiffers disk then
      (.error "recall spool encryption key does not match spool key id", disk)
    else (.ok (), disk) := by
  obtain ⟨hlen, hmagic, hver⟩ := h
  have hpos : (disk.spool.getD []).length ≠ 0 := by
    have hhdr : SPOOL_HEADER_LEN = 21 := rfl
    omega
  have hread : ¬ ((disk.spool.getD []).length < SPOOL_HEADER_LEN ∨
      (disk.spool.getD []).take 4 ≠ MAGIC ∨ ((disk.spool.getD []).drop 4).take 1 ≠ [VERSION]) := by
    rintro (hshort | hoth | hoth)
    · omega
    · exact hoth hmagic
    · exact hoth hver
  rw [initializeOrVerifyHeader, if_neg hpos, if_neg hread]
  by_cases hkey : self.KeyDiffers disk
  · rw [if_pos hkey, if_pos hkey.2]
  · have hid : ¬ ((disk.spool.getD []).drop 5).take KEY_ID_LEN ≠ self.key.keyId :=
      fun hoth => hkey ⟨⟨hlen, hmagic, hver⟩, hoth⟩
    rw [if_neg hkey, if_neg hid]

theorem initialize_other (hne : disk.spool.getD [] ≠ []) (h : ¬ HeaderWritten disk) :
    self.initializeOrVerifyHeader disk =
      (.error "recall spool header is missing or unsupported", disk) := by
  have hpos : (disk.spool.getD []).length ≠ 0 := fun hzero =>
    hne (List.eq_nil_of_length_eq_zero hzero)
  have hread : (disk.spool.getD []).length < SPOOL_HEADER_LEN ∨
      (disk.spool.getD []).take 4 ≠ MAGIC ∨ ((disk.spool.getD []).drop 4).take 1 ≠ [VERSION] := by
    by_contra hnone
    rw [not_or, not_or, not_not, not_not, Nat.not_lt] at hnone
    exact h hnone
  rw [initializeOrVerifyHeader, if_neg hpos, if_pos hread]

/-- A file that is opened begins with the header. -/
theorem initialize_ok (hhdr : disk.spool.getD [] = [] ∨ HeaderWritten disk)
    (hkey : ¬ self.KeyDiffers disk) : self.initializeOrVerifyHeader disk =
      (.ok (), { disk with spool := some (self.header ++ body disk) }) := by
  rcases hhdr with hemp | hwr
  · have hbody : body disk = [] := by rw [body, hemp, List.drop_nil]
    rw [initialize_empty hemp, hbody, List.append_nil]
  · rw [initialize_written hwr, if_neg hkey]
    obtain ⟨hlen, hmagic, hver⟩ := hwr
    have hid : ((disk.spool.getD []).drop 5).take KEY_ID_LEN = self.key.keyId := by
      by_contra hoth
      exact hkey ⟨⟨hlen, hmagic, hver⟩, hoth⟩
    have hbytes : disk.spool.getD [] = self.header ++ body disk := by
      have h4 := List.take_append_drop 4 (disk.spool.getD [])
      have h5 := List.take_append_drop 1 ((disk.spool.getD []).drop 4)
      have h21 := List.take_append_drop KEY_ID_LEN ((disk.spool.getD []).drop 5)
      rw [List.drop_drop] at h5 h21
      rw [header, body, List.append_assoc, List.append_assoc, ← hid, ← hmagic, ← hver]
      exact h4.symm.trans (congrArg _ (h5.symm.trans (congrArg _ h21.symm)))
    cases hspl : disk.spool with
    | none =>
      rw [hspl] at hlen
      exact absurd hlen (by decide)
    | some bytes =>
      rw [hspl, Option.getD_some] at hbytes
      rw [← hbytes, ← hspl]

/-! ## Recovery of a file with a header -/

theorem snapshot_header {bytes : Bytes} (h : disk.spool = some (self.header ++ bytes)) :
    snapshot disk = .ok bytes := by
  rw [snapshot, h, Option.getD_some]
  rw [if_neg (by rw [List.length_append, length_header]; omega), List.drop_left' length_header]

theorem refresh_frames (hreads : frames.Read self)
    (h : disk.spool = some (self.header ++ frames.bytes)) :
    self.refreshTelemetry disk = .ok frames.events := by
  rw [refreshTelemetry, snapshot_header h]
  exact Frames.events_bytes hreads

theorem initialize_header {bytes : Bytes} (h : disk.spool = some (self.header ++ bytes)) :
    self.initializeOrVerifyHeader disk = (.ok (), disk) := by
  have hwr : HeaderWritten disk := by
    rw [HeaderWritten, h, Option.getD_some]
    refine ⟨?_, rfl, rfl⟩
    rw [List.length_append, length_header]
    exact Nat.le_add_right _ _
  have hkey : ¬ self.KeyDiffers disk := by
    rintro ⟨-, hoth⟩
    rw [h, Option.getD_some] at hoth
    exact hoth (List.take_left' self.key.length_keyId)
  rw [initialize_written hwr, if_neg hkey]

theorem length_body_fuel (hreads : frames.Read self) (tail : Bytes) : ∃ fuel,
    tail.length ≤ fuel ∧ (self.header ++ (frames.bytes ++ tail)).length = frames.length + fuel := by
  have hle := Frames.length_le_bytes hreads
  refine ⟨SPOOL_HEADER_LEN + (frames.bytes.length - frames.length) + tail.length, by omega, ?_⟩
  rw [List.length_append, List.length_append, length_header]
  omega

/-- A spool that holds frames only is opened as it is. -/
theorem open_frames (hreads : frames.Read self)
    (h : disk.spool = some (self.header ++ frames.bytes)) :
    self.openWal clock disk = (.ok frames.events, disk) := by
  obtain ⟨fuel, -, hfuel⟩ := length_body_fuel hreads []
  have hloop := Frames.recoverFrom_bytes hreads fuel clock [] [] disk
  rw [List.append_nil, List.nil_append] at hloop
  rw [List.append_nil] at hfuel
  rw [openWal, initialize_header h]
  dsimp only
  rw [recover, h, Option.getD_some, List.drop_left' length_header, hfuel, hloop]
  cases fuel <;> simp [recoverFrom, refresh_frames hreads h]

variable (self) in
/-- The pieces that a reader of the file finds. -/
def piecesOf (disk : RecallDisk) : List (Piece UInt8) :=
  self.framing.pieces (self.header ++ body disk).length (body disk)

theorem length_body_le : (body disk).length ≤ (self.header ++ body disk).length := by
  rw [List.length_append]
  exact Nat.le_add_left _ _

/-- The disk after a recovery. -/
def recoveredDisk (self : RecallWal E) (clock : ℕ → ℕ) (disk : RecallDisk) : RecallDisk where
  spool := some (self.header ++ ((self.piecesOf disk).filterMap Piece.frame?).flatten)
  quarantine := disk.quarantine ++
    (self.quarantineNames clock (self.framing.gaps true 0 (body disk))).zip
      ((self.piecesOf disk).filterMap Piece.left?)

theorem read_piecesOf (hseal : self.SealedByAppend (body disk)) : ∃ frames : Frames E,
    frames.Read self ∧ frames.map Prod.fst = (self.piecesOf disk).filterMap Piece.frame? := by
  refine Frames.exists_of_readsAs fun data hdata => ?_
  obtain ⟨rest, n, hrest, hfrm, rfl⟩ := Framing.exists_of_mem_frames hdata
  exact readsAs_of_authentic hseal hrest hfrm

section Opened

variable (hseal : self.SealedByAppend (body disk))
  (hhdr : disk.spool.getD [] = [] ∨ HeaderWritten disk) (hkey : ¬ self.KeyDiffers disk)
include hseal hhdr hkey

theorem open_of_free
    (hfree : NamesFree (self.quarantineNames clock (self.framing.gaps true 0 (body disk))) disk) :
    ∃ backlog, self.openWal clock disk = (.ok backlog, self.recoveredDisk clock disk) := by
  obtain ⟨frames, hreads, hframes⟩ := read_piecesOf hseal
  have hspl : (self.recoveredDisk clock disk).spool = some (self.header ++ frames.bytes) := by
    rw [Frames.bytes, hframes, recoveredDisk]
  have hnames : self.quarantineNames clock (self.framing.gaps true 0 (body disk)) =
      self.quarantineNames clock ((self.piecesOf disk).filterMap Piece.gap?) := by
    rw [piecesOf, Framing.gaps_pieces length_body_le]
  have hloop := (recoverFrom_eq_store hseal length_body_le).trans
    ((@store_ok_iff E self [] clock { disk with spool := some (self.header ++ body disk) } _ _
      hnames).1 hfree)
  rw [List.nil_append] at hloop
  have hrec : self.recover clock { disk with spool := some (self.header ++ body disk) } =
      (.ok (), self.recoveredDisk clock disk) := by
    rw [recover, Option.getD_some, List.drop_left' length_header, hloop]
    dsimp only
    split
    · rfl
    · next hsame =>
      rw [not_not] at hsame
      rw [recoveredDisk, hsame]
  refine ⟨frames.events, ?_⟩
  rw [openWal, initialize_ok hhdr hkey]
  dsimp only
  rw [hrec]
  dsimp only
  rw [refresh_frames hreads hspl]

theorem open_of_taken
    (htkn : ¬ NamesFree (self.quarantineNames clock (self.framing.gaps true 0 (body disk))) disk) :
    ∃ error disk', self.openWal clock disk = (.error error, disk') := by
  have hnames : self.quarantineNames clock (self.framing.gaps true 0 (body disk)) =
      self.quarantineNames clock ((self.piecesOf disk).filterMap Piece.gap?) := by
    rw [piecesOf, Framing.gaps_pieces length_body_le]
  obtain ⟨error, disk', hsto⟩ := (@store_ok_iff E self [] clock
    { disk with spool := some (self.header ++ body disk) } _ _ hnames).2 htkn
  have hloop := (recoverFrom_eq_store hseal length_body_le).trans hsto
  have hrec : self.recover clock { disk with spool := some (self.header ++ body disk) } =
      (.error error, disk') := by
    rw [recover, Option.getD_some, List.drop_left' length_header, hloop]
  refine ⟨error, disk', ?_⟩
  rw [openWal, initialize_ok hhdr hkey]
  dsimp only
  rw [hrec]

end Opened

/-- Opening recovers a disk exactly when it is readable. -/
theorem open_recovers_iff (hsealed : self.SealedByAppend (body disk)) :
    self.Recovers clock disk ↔ self.Readable clock disk := by
  constructor
  · rintro ⟨-, hopens⟩
    have hhdr : disk.spool.getD [] = [] ∨ HeaderWritten disk := by
      by_contra hnone
      rw [not_or] at hnone
      obtain ⟨backlog, disk', hopen, -⟩ := hopens fun hkey => hnone.2 hkey.1
      rw [openWal, initialize_other hnone.1 hnone.2] at hopen
      cases hopen
    have hfree : ¬ self.KeyDiffers disk →
        NamesFree (self.quarantineNames clock (self.framing.gaps true 0 (body disk))) disk := by
      intro hkey
      by_contra htkn
      obtain ⟨backlog, disk', hopen, -⟩ := hopens hkey
      obtain ⟨error, disk'', herr⟩ := open_of_taken hsealed hhdr hkey htkn
      rw [hopen] at herr
      cases herr
    refine ⟨hhdr, fun hkey => ?_, hfree⟩
    obtain ⟨backlog, disk', hopen, hspl, -, -⟩ := hopens hkey
    obtain ⟨backlog', hopen'⟩ := open_of_free hsealed hhdr hkey (hfree hkey)
    have hdisk : disk' = self.recoveredDisk clock disk :=
      (Prod.mk.inj (hopen.symm.trans hopen')).2
    rw [hdisk, recoveredDisk, Option.some_inj, List.append_cancel_left_eq] at hspl
    -- the frames kept are the first ones of the file, and as many bytes
    have hpieces : (self.piecesOf disk).filterMap Piece.frame? <+:
          self.framing.frames 0 (body disk) ∧
        ((self.piecesOf disk).filterMap Piece.frame? = self.framing.frames 0 (body disk) ↔
          self.framing.Legible 0 (body disk)) := Framing.frames_pieces length_body_le
    refine hpieces.2.mp (eq_of_flatten_eq hpieces.1 ?_ hspl)
    exact fun data hdata => Framing.ne_nil_of_mem_frames hdata
  · intro h
    refine ⟨fun hkey => ?_, fun hkey => ?_⟩
    · rw [openWal, initialize_written hkey.1, if_pos hkey]
      exact ⟨_, rfl⟩
    · obtain ⟨backlog, hopen⟩ := open_of_free hsealed h.header hkey (h.names hkey)
      have hkept : (self.piecesOf disk).filterMap Piece.frame? = self.framing.frames 0 (body disk) :=
        (Framing.frames_pieces length_body_le).2.mpr (h.legible hkey)
      refine ⟨backlog, _, hopen, ?_, ?_, fun clock' => ?_⟩
      · rw [recoveredDisk, hkept]
      · refine ⟨self.piecesOf disk, _, Framing.data_pieces length_body_le, hkept, ?_, rfl⟩
        rw [List.map_snd_zip]
        rw [Piece.length_left, piecesOf, Framing.gaps_pieces length_body_le, length_quarantineNames]
      · obtain ⟨frames, hreads, hframes⟩ := read_piecesOf hsealed
        exact ⟨_, open_frames hreads (by rw [Frames.bytes, hframes, recoveredDisk])⟩

end RecallWal

namespace Scripted

/-- One event, the empty object. -/
def wal : RecallWal Unit where
  key := Spool.scriptedKey
  json :=
    { toVec _ := [0x7B, 0x7D]
      fromSlice bytes := if bytes = [0x7B, 0x7D] then some () else none
      fromSlice_toVec _ := rfl }

theorem length_nonce : (List.replicate NONCE_LEN (5 : UInt8)).length = NONCE_LEN :=
  List.length_replicate

def frame : Bytes := wal.encrypt ⟨List.replicate NONCE_LEN 5, length_nonce⟩ [0x7B, 0x7D]

/-- A frame of another version. -/
def otherVersion : Bytes := MAGIC ++ List.replicate 17 2

/-- The clock stands still. -/
def clock : ℕ → ℕ := fun _ => 1800000000000

/-- A frame between one of another version and a torn one. -/
def damaged : RecallDisk := ⟨some (wal.header ++ otherVersion ++ frame ++ frame.take 30), []⟩

def collision : RecallDisk := ⟨some (wal.header ++ otherVersion ++ frame ++ otherVersion), []⟩

theorem sealedByAppend_of_tails {bytes : Bytes} (h : ∀ rest ∈ bytes.tails,
    wal.opened rest = none ∨ wal.opened rest = some [0x7B, 0x7D]) : wal.SealedByAppend bytes := by
  intro rest hrest plaintext hopened
  rcases h rest ((List.mem_tails _ _).mpr hrest) with hnone | hsome
  · cases hnone.symm.trans hopened
  · exact ⟨(), Option.some.inj (hopened.symm.trans hsome)⟩

theorem damaged_sealed : wal.SealedByAppend (RecallWal.body damaged) :=
  sealedByAppend_of_tails (by decide)

theorem damaged_readable : wal.Readable clock damaged where
  header := .inr (by decide)
  legible := fun _ => by decide
  names := fun _ => by decide

theorem damaged_recovers : wal.Recovers clock damaged :=
  (RecallWal.open_recovers_iff damaged_sealed).mpr damaged_readable

/-- The file of the second corrupt frame has the name of the first. -/
theorem two_corrupt_frames :
    wal.SealedByAppend (RecallWal.body collision) ∧ ¬ wal.Recovers clock collision := by
  refine ⟨sealedByAppend_of_tails (by decide), fun h => ?_⟩
  have hkey : ¬ wal.KeyDiffers collision := by decide
  have hfails : (wal.openWal clock collision).1.isOk = false := by decide
  obtain ⟨backlog, disk', hopen, -⟩ := h.2 hkey
  rw [hopen] at hfails
  cases hfails

end Scripted

end ServerRS.RecallSpool
