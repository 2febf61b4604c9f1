import Mathlib.Data.List.Infix

/-!
# Reading on after corrupt data

Data holds frames, and between them anything. A reader that comes to a place without a frame leaves
out the data up to the next mark, or all of the rest when that looks like a frame whose end is missing
(`pieces`). What it reads are the frames of the data, one after the other, exactly when no such place
has a frame behind it (`frames_pieces`); the places where it begins to leave out data are those
of `gaps`.
-/

namespace ServerRS.Lib

/-- How a reader tells frames: by the length of the frame that the data begins with, by whether the
data looks like the beginning of one, and by the mark that begins each. -/
structure Framing (α : Type) where
  frameLen : List α → Option ℕ
  torn : List α → Bool
  marked : List α → Bool
  frameLen_le {rest : List α} {n : ℕ} : frameLen rest = some n → 0 < n ∧ n ≤ rest.length
  marked_of_frame {rest : List α} {n : ℕ} : frameLen rest = some n → marked rest = true
  /-- Data that has no mark only looks torn when it is too short for a frame. -/
  no_frame_of_unmarked {rest : List α} : torn rest = true → marked rest = false →
    ∀ k, frameLen (rest.drop k) = none

/-- A frame, or data that is left out: the first `length` elements of the rest. -/
inductive Piece (α : Type) where
  | frame (data : List α)
  | gap (rest : List α) (length : ℕ)

namespace Piece

variable {α : Type}

def data : Piece α → List α
  | frame data => data
  | gap rest length => rest.take length

def frame? : Piece α → Option (List α)
  | frame data => some data
  | gap _ _ => none

/-- The rest from the place where data is left out. -/
def gap? : Piece α → Option (List α)
  | frame _ => none
  | gap rest _ => some rest

def left? : Piece α → Option (List α)
  | frame _ => none
  | gap rest length => some (rest.take length)

theorem length_left (pieces : List (Piece α)) :
    (pieces.filterMap left?).length = (pieces.filterMap gap?).length := by
  induction pieces with
  | nil => rfl
  | cons piece pieces ih =>
    cases piece with
    | frame data => exact ih
    | gap rest length => exact congrArg (· + 1) ih

end Piece

namespace Framing

variable {α : Type} (framing : Framing α)

/-! ## What the data holds -/

/-- The frames, each the first one behind the one before it. The first `skip` elements belong to a
frame. -/
def frames : ℕ → List α → List (List α)
  | _, [] => []
  | skip + 1, _ :: rest => frames skip rest
  | 0, x :: rest =>
    match framing.frameLen (x :: rest) with
    | some n => (x :: rest).take n :: frames (n - 1) rest
    | none => frames 0 rest

/-- No place outside the frames that looks torn has a frame behind it. -/
def Legible : ℕ → List α → Prop
  | _, [] => True
  | skip + 1, _ :: rest => Legible skip rest
  | 0, x :: rest =>
    match framing.frameLen (x :: rest) with
    | some n => Legible (n - 1) rest
    | none => (framing.torn (x :: rest) = true → framing.frames 0 rest = []) ∧ Legible 0 rest

instance decidableLegible : (skip : ℕ) → (rest : List α) → Decidable (framing.Legible skip rest)
  | 0, [] | _ + 1, [] => .isTrue trivial
  | skip + 1, _ :: rest => decidableLegible skip rest
  | 0, x :: rest =>
    match h : framing.frameLen (x :: rest) with
    | some n =>
      have := decidableLegible (n - 1) rest
      decidable_of_iff (framing.Legible (n - 1) rest) (by rw [Legible, h])
    | none =>
      have := decidableLegible 0 rest
      decidable_of_iff ((framing.torn (x :: rest) = true → framing.frames 0 rest = []) ∧
        framing.Legible 0 rest) (by rw [Legible, h])

/-- The rests of the data from the places where corrupt data begins: at the start, behind a frame and
at a mark, up to the first that looks torn. -/
def gaps : Bool → ℕ → List α → List (List α)
  | _, _, [] => []
  | fresh, skip + 1, _ :: rest => gaps fresh skip rest
  | fresh, 0, x :: rest =>
    match framing.frameLen (x :: rest) with
    | some n => gaps true (n - 1) rest
    | none =>
      if fresh || framing.marked (x :: rest) then
        (x :: rest) :: if framing.torn (x :: rest) then [] else gaps false 0 rest
      else gaps false 0 rest

/-! ## What a reader takes -/

/-- The number of elements before the first mark. -/
def unmarked : List α → ℕ
  | [] => 0
  | x :: rest => if framing.marked (x :: rest) then 0 else unmarked rest + 1

def pieces : ℕ → List α → List (Piece α)
  | 0, _ => []
  | fuel + 1, rest =>
    if rest.isEmpty then []
    else
      match framing.frameLen rest with
      | some n => .frame (rest.take n) :: pieces fuel (rest.drop n)
      | none =>
        if framing.torn rest then [.gap rest rest.length]
        else
          let length := framing.unmarked rest.tail + 1
          .gap rest length :: pieces fuel (rest.drop length)

variable {framing} {rest : List α} {skip n fuel : ℕ} {fresh : Bool} {x : α}

theorem unmarked_cons : framing.unmarked (x :: rest) =
    if framing.marked (x :: rest) then 0 else framing.unmarked rest + 1 := rfl

theorem frames_skip : framing.frames skip rest = framing.frames 0 (rest.drop skip) := by
  induction rest generalizing skip with
  | nil => rw [List.drop_nil]; rfl
  | cons x rest ih =>
    cases skip with
    | zero => rfl
    | succ skip => exact ih

theorem legible_skip : framing.Legible skip rest ↔ framing.Legible 0 (rest.drop skip) := by
  induction rest generalizing skip with
  | nil => rw [List.drop_nil]; rfl
  | cons x rest ih =>
    cases skip with
    | zero => rfl
    | succ skip => exact ih

theorem gaps_skip : framing.gaps fresh skip rest = framing.gaps fresh 0 (rest.drop skip) := by
  induction rest generalizing skip with
  | nil => rw [List.drop_nil]; rfl
  | cons x rest ih =>
    cases skip with
    | zero => rfl
    | succ skip => exact ih

/-! ## A frame -/

section Frame

variable (h : framing.frameLen rest = some n)
include h

theorem drop_tail_of_frame : rest.tail.drop (n - 1) = rest.drop n := by
  rw [← List.drop_one, List.drop_drop, Nat.add_sub_cancel' (framing.frameLen_le h).1]

theorem frames_of_frame : framing.frames 0 rest = rest.take n :: framing.frames 0 (rest.drop n) := by
  rw [← drop_tail_of_frame h]
  cases rest with
  | nil => exact absurd (framing.frameLen_le h) (by rw [List.length_nil]; omega)
  | cons x rest =>
    rw [frames, h]
    dsimp only
    rw [frames_skip, List.tail_cons]

theorem legible_of_frame : framing.Legible 0 rest ↔ framing.Legible 0 (rest.drop n) := by
  rw [← drop_tail_of_frame h]
  cases rest with
  | nil => exact absurd (framing.frameLen_le h) (by rw [List.length_nil]; omega)
  | cons x rest =>
    rw [Legible, h]
    dsimp only
    rw [legible_skip, List.tail_cons]

theorem gaps_of_frame : framing.gaps fresh 0 rest = framing.gaps true 0 (rest.drop n) := by
  rw [← drop_tail_of_frame h]
  cases rest with
  | nil => exact absurd (framing.frameLen_le h) (by rw [List.length_nil]; omega)
  | cons x rest =>
    rw [gaps, h]
    dsimp only
    rw [gaps_skip, List.tail_cons]

end Frame

/-! ## No frame -/

section NoFrame

variable (h : framing.frameLen (x :: rest) = none)
include h

theorem frames_of_none : framing.frames 0 (x :: rest) = framing.frames 0 rest := by
  rw [frames, h]

theorem legible_of_none : framing.Legible 0 (x :: rest) ↔
    (framing.torn (x :: rest) = true → framing.frames 0 rest = []) ∧ framing.Legible 0 rest := by
  rw [Legible, h]

theorem gaps_of_none : framing.gaps fresh 0 (x :: rest) =
    if fresh || framing.marked (x :: rest) then
      (x :: rest) :: if framing.torn (x :: rest) then [] else framing.gaps false 0 rest
    else framing.gaps false 0 rest := by
  rw [gaps, h]

end NoFrame

theorem frames_eq_nil (h : ∀ k, framing.frameLen (rest.drop k) = none) :
    framing.frames 0 rest = [] := by
  induction rest with
  | nil => rfl
  | cons x rest ih =>
    rw [frames_of_none (h 0)]
    exact ih fun k => h (k + 1)

theorem ne_nil_of_mem_frames {data : List α} (h : data ∈ framing.frames skip rest) : data ≠ [] := by
  induction rest generalizing skip with
  | nil =>
    rw [frames] at h
    cases h
  | cons x rest ih =>
    cases skip with
    | succ skip => exact ih h
    | zero =>
      cases hfrm : framing.frameLen (x :: rest) with
      | some n =>
        obtain ⟨hpos, hle⟩ := framing.frameLen_le hfrm
        rw [frames, hfrm] at h
        rcases List.mem_cons.mp h with rfl | h
        · rw [← List.length_pos_iff, List.length_take]
          omega
        · exact ih h
      | none =>
        rw [frames_of_none hfrm] at h
        exact ih h

/-- Data without frames is legible. -/
theorem legible_of_no_frames (h : framing.frames 0 rest = []) : framing.Legible 0 rest := by
  induction rest with
  | nil => trivial
  | cons x rest ih =>
    cases hfrm : framing.frameLen (x :: rest) with
    | some n =>
      rw [frames_of_frame hfrm] at h
      cases h
    | none =>
      rw [frames_of_none hfrm] at h
      exact (legible_of_none hfrm).mpr ⟨fun _ => h, ih h⟩

/-! ## Data up to a mark -/

theorem frameLen_of_unmarked (h : framing.marked rest = false) : framing.frameLen rest = none := by
  cases hfrm : framing.frameLen rest with
  | none => rfl
  | some n =>
    rw [framing.marked_of_frame hfrm] at h
    cases h

theorem frames_unmarked :
    framing.frames 0 rest = framing.frames 0 (rest.drop (framing.unmarked rest)) := by
  induction rest with
  | nil => rfl
  | cons x rest ih =>
    rw [unmarked_cons]
    split
    · rfl
    · next hmark =>
      rw [frames_of_none (frameLen_of_unmarked (Bool.eq_false_iff.mpr hmark)), ih,
        List.drop_succ_cons]

theorem legible_unmarked :
    framing.Legible 0 rest ↔ framing.Legible 0 (rest.drop (framing.unmarked rest)) := by
  induction rest with
  | nil => rfl
  | cons x rest ih =>
    rw [unmarked_cons]
    split
    · rfl
    · next hmark =>
      have hunm := Bool.eq_false_iff.mpr hmark
      rw [legible_of_none (frameLen_of_unmarked hunm), ih, List.drop_succ_cons]
      -- what looks torn without a mark is too short for a frame
      refine and_iff_right fun htorn => frames_eq_nil fun k => ?_
      exact framing.no_frame_of_unmarked htorn hunm (k + 1)

theorem gaps_unmarked :
    framing.gaps false 0 rest = framing.gaps true 0 (rest.drop (framing.unmarked rest)) := by
  induction rest with
  | nil => rfl
  | cons x rest ih =>
    rw [unmarked_cons]
    split
    · next hmark =>
      cases hfrm : framing.frameLen (x :: rest) with
      | some n => rw [List.drop_zero, gaps_of_frame hfrm, gaps_of_frame hfrm]
      | none =>
        rw [List.drop_zero, gaps_of_none hfrm, gaps_of_none hfrm, hmark, Bool.or_true,
          Bool.or_true]
    · next hmark =>
      have hunm := Bool.eq_false_iff.mpr hmark
      rw [gaps_of_none (frameLen_of_unmarked hunm), hunm, ih, List.drop_succ_cons]
      rfl

/-! ## The pieces -/

theorem pieces_nil : framing.pieces fuel [] = [] := by
  cases fuel with
  | zero => rfl
  | succ fuel => rfl

theorem pieces_of_frame (h : framing.frameLen rest = some n) : framing.pieces (fuel + 1) rest =
    .frame (rest.take n) :: framing.pieces fuel (rest.drop n) := by
  have hne : rest.isEmpty = false := by
    cases rest with
    | nil => exact absurd (framing.frameLen_le h) (by rw [List.length_nil]; omega)
    | cons x rest => rfl
  rw [pieces, hne, h]
  rfl

theorem pieces_of_torn (h : framing.frameLen (x :: rest) = none)
    (htorn : framing.torn (x :: rest) = true) :
    framing.pieces (fuel + 1) (x :: rest) = [.gap (x :: rest) (x :: rest).length] := by
  rw [pieces, h, htorn]
  rfl

theorem pieces_of_none (h : framing.frameLen (x :: rest) = none)
    (htorn : framing.torn (x :: rest) = false) : framing.pieces (fuel + 1) (x :: rest) =
      .gap (x :: rest) (framing.unmarked rest + 1) ::
        framing.pieces fuel (rest.drop (framing.unmarked rest)) := by
  rw [pieces, h, htorn]
  rfl

/-- The pieces make up the data. -/
theorem data_pieces (hfuel : rest.length ≤ fuel) :
    (framing.pieces fuel rest).flatMap Piece.data = rest := by
  induction fuel generalizing rest with
  | zero =>
    rw [List.eq_nil_of_length_eq_zero (Nat.le_zero.mp hfuel)]
    rfl
  | succ fuel ih =>
    cases rest with
    | nil => rfl
    | cons x rest =>
      rw [List.length_cons] at hfuel
      cases hfrm : framing.frameLen (x :: rest) with
      | some n =>
        have hn := (framing.frameLen_le hfrm).1
        rw [pieces_of_frame hfrm, List.flatMap_cons, ih
            (by rw [List.length_drop, List.length_cons]; omega)]
        exact List.take_append_drop n _
      | none =>
        cases htorn : framing.torn (x :: rest) with
        | true =>
          rw [pieces_of_torn hfrm htorn, List.flatMap_cons, List.flatMap_nil, List.append_nil]
          exact List.take_length
        | false =>
          rw [pieces_of_none hfrm htorn, List.flatMap_cons, ih (by rw [List.length_drop]; omega)]
          exact List.take_append_drop (framing.unmarked rest + 1) (x :: rest)

/-- A reader takes the first frames, and all of them exactly when the data is legible. -/
theorem frames_pieces (hfuel : rest.length ≤ fuel) :
    (framing.pieces fuel rest).filterMap Piece.frame? <+: framing.frames 0 rest ∧
      ((framing.pieces fuel rest).filterMap Piece.frame? = framing.frames 0 rest ↔
        framing.Legible 0 rest) := by
  induction fuel generalizing rest with
  | zero =>
    rw [List.eq_nil_of_length_eq_zero (Nat.le_zero.mp hfuel)]
    exact ⟨List.prefix_rfl, iff_of_true rfl trivial⟩
  | succ fuel ih =>
    cases rest with
    | nil => exact ⟨List.prefix_rfl, iff_of_true rfl trivial⟩
    | cons x rest =>
      rw [List.length_cons] at hfuel
      cases hfrm : framing.frameLen (x :: rest) with
      | some n =>
        have hn := (framing.frameLen_le hfrm).1
        obtain ⟨hfst, hiff⟩ := @ih ((x :: rest).drop n)
          (by rw [List.length_drop, List.length_cons]; omega)
        rw [pieces_of_frame hfrm, frames_of_frame hfrm, legible_of_frame hfrm, ← hiff]
        exact ⟨(List.prefix_cons_inj _).mpr hfst, List.cons_inj_right _⟩
      | none =>
        cases htorn : framing.torn (x :: rest) with
        | true =>
          -- the reader stops, whatever is behind
          rw [pieces_of_torn hfrm htorn, frames_of_none hfrm, legible_of_none hfrm]
          refine ⟨List.nil_prefix, ?_⟩
          constructor
          · intro hnone
            exact ⟨fun _ => hnone.symm, legible_of_no_frames hnone.symm⟩
          · intro hlegible
            exact (hlegible.1 htorn).symm
        | false =>
          obtain ⟨hfst, hiff⟩ := @ih (rest.drop (framing.unmarked rest))
            (by rw [List.length_drop]; omega)
          rw [pieces_of_none hfrm htorn, frames_of_none hfrm, legible_of_none hfrm,
            frames_unmarked, legible_unmarked, ← hiff]
          refine ⟨hfst, ?_⟩
          rw [and_iff_right fun h => absurd (htorn.symm.trans h) Bool.false_ne_true]
          rfl

/-- The places where a reader begins to leave out data. -/
theorem gaps_pieces (hfuel : rest.length ≤ fuel) :
    (framing.pieces fuel rest).filterMap Piece.gap? = framing.gaps true 0 rest := by
  induction fuel generalizing rest with
  | zero =>
    rw [List.eq_nil_of_length_eq_zero (Nat.le_zero.mp hfuel)]
    rfl
  | succ fuel ih =>
    cases rest with
    | nil => rfl
    | cons x rest =>
      rw [List.length_cons] at hfuel
      cases hfrm : framing.frameLen (x :: rest) with
      | some n =>
        have hn := (framing.frameLen_le hfrm).1
        rw [pieces_of_frame hfrm, gaps_of_frame hfrm,
          ← ih (by rw [List.length_drop, List.length_cons]; omega)]
        rfl
      | none =>
        rw [gaps_of_none hfrm, Bool.true_or, if_pos rfl]
        cases htorn : framing.torn (x :: rest) with
        | true =>
          rw [pieces_of_torn hfrm htorn]
          rfl
        | false =>
          rw [pieces_of_none hfrm htorn, gaps_unmarked, ← ih (by rw [List.length_drop]; omega)]
          rfl

theorem exists_of_mem_frames {data : List α}
    (h : data ∈ (framing.pieces fuel rest).filterMap Piece.frame?) :
    ∃ before n, before <:+ rest ∧ framing.frameLen before = some n ∧ data = before.take n := by
  induction fuel generalizing rest with
  | zero => cases h
  | succ fuel ih =>
    cases rest with
    | nil => cases h
    | cons x rest =>
      have hlater : ∀ k, data ∈ (framing.pieces fuel ((x :: rest).drop k)).filterMap Piece.frame? →
          ∃ before n, before <:+ x :: rest ∧ framing.frameLen before = some n ∧
            data = before.take n := by
        intro k hk
        obtain ⟨before, n, hbef, hn⟩ := ih hk
        exact ⟨before, n, hbef.trans (List.drop_suffix _ _), hn⟩
      cases hfrm : framing.frameLen (x :: rest) with
      | some n =>
        rw [pieces_of_frame hfrm] at h
        rcases List.mem_cons.mp h with rfl | h
        · exact ⟨x :: rest, n, List.suffix_rfl, hfrm, rfl⟩
        · exact hlater n h
      | none =>
        cases htorn : framing.torn (x :: rest) with
        | true =>
          rw [pieces_of_torn hfrm htorn] at h
          cases h
        | false =>
          rw [pieces_of_none hfrm htorn] at h
          exact hlater (framing.unmarked rest + 1) h

end Framing

end ServerRS.Lib
