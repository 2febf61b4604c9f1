import Mathlib.Data.List.Basic

/-!
# Logs of self-delimiting frames

A framed log is a sequence of encoded frames, followed by what is left of a frame whose
writing was cut off. Cutting a framed log anywhere leaves a framed log
(`take_encodeAll_append`), and a scanner that can read one frame at a time reads all the
complete ones (`scanLoop_encodeAll`).

Of any input a scanner that returns has read the longest run of complete frames that the input
begins with (`scanLoop_longest`), and more fuel would not have changed what it does
(`scanLoop_fuel`).
-/

namespace ServerRS.Lib

variable {α φ σ ε : Type}

/-- The encoded frames, one after the other. -/
def encodeAll (enc : φ → List α) (frames : List φ) : List α := frames.flatMap enc

/-- Nothing, or the beginning of a frame that is not complete. -/
def Torn (enc : φ → List α) (ok : φ → Prop) (tail : List α) : Prop :=
  tail = [] ∨ ∃ f, ok f ∧ tail <+: enc f ∧ tail.length < (enc f).length

/-- Read one frame after the other until the input is empty or ends within a frame. -/
def scanLoop (next : σ → List α → Except ε (Option (σ × ℕ))) :
    ℕ → σ → List α → Except ε (σ × List α)
  | 0, s, rest => .ok (s, rest)
  | fuel + 1, s, rest =>
    if rest.isEmpty then .ok (s, rest)
    else
      match next s rest with
      | .error e => .error e
      | .ok none => .ok (s, rest)
      | .ok (some (s', len)) => scanLoop next fuel s' (rest.drop len)

@[simp] theorem scanLoop_nil (next : σ → List α → Except ε (Option (σ × ℕ))) (fuel : ℕ) (s : σ) :
    scanLoop next fuel s [] = .ok (s, []) := by
  cases fuel <;> rfl

section

variable {enc : φ → List α} {ok : φ → Prop}

@[simp] theorem encodeAll_nil : encodeAll enc [] = [] := rfl

@[simp] theorem encodeAll_cons (f : φ) (frames : List φ) :
    encodeAll enc (f :: frames) = enc f ++ encodeAll enc frames := rfl

@[simp] theorem encodeAll_append (first second : List φ) :
    encodeAll enc (first ++ second) = encodeAll enc first ++ encodeAll enc second :=
  List.flatMap_append

theorem Torn.nil : Torn enc ok [] := .inl rfl

variable {tail : List α}

theorem Torn.take (h : Torn enc ok tail) (k : ℕ) : Torn enc ok (tail.take k) := by
  rcases h with rfl | ⟨f, hf, hpre, hlen⟩
  · rw [List.take_nil]
    exact .nil
  · have hle : (tail.take k).length ≤ tail.length := List.length_take_le' k tail
    exact .inr ⟨f, hf, (List.take_prefix k tail).trans hpre, by omega⟩

/-- The beginning of a frame is torn. -/
theorem Torn.of_take {f : φ} (hf : ok f) {k : ℕ} (hk : k < (enc f).length) :
    Torn enc ok ((enc f).take k) :=
  .inr ⟨f, hf, List.take_prefix k _, by rw [List.length_take]; omega⟩

/-- What a cut leaves of a framed log: its first frames and a torn one. A frame that ends
before the cut is left. -/
theorem take_encodeAll_append {frames : List φ} (hok : ∀ f ∈ frames, ok f)
    (htail : Torn enc ok tail) (k : ℕ) :
    ∃ n tail', n ≤ frames.length ∧ Torn enc ok tail' ∧
      (encodeAll enc frames ++ tail).take k = encodeAll enc (frames.take n) ++ tail' ∧
      ∀ m ≤ frames.length, (encodeAll enc (frames.take m)).length ≤ k → m ≤ n := by
  induction frames generalizing k with
  | nil => exact ⟨0, tail.take k, Nat.le_refl 0, htail.take k, rfl, fun m hm _ => hm⟩
  | cons f frames ih =>
    by_cases hk : k < (enc f).length
    · -- the cut goes through the first frame
      refine ⟨0, (enc f).take k, Nat.zero_le _, .of_take (hok f (by simp)) hk, ?_, ?_⟩
      · rw [encodeAll_cons, List.append_assoc, List.take_append_of_le_length (by omega)]
        rfl
      · intro m _ hlen
        cases m with
        | zero => exact Nat.le_refl 0
        | succ m =>
          rw [List.take_succ_cons, encodeAll_cons, List.length_append] at hlen
          omega
    · obtain ⟨n, tail', hn, htorn, htake, hkeep⟩ :=
        ih (fun g hg => hok g (List.mem_cons_of_mem f hg)) (k - (enc f).length)
      refine ⟨n + 1, tail', ?_, htorn, ?_, ?_⟩
      · rw [List.length_cons]
        omega
      · rw [encodeAll_cons, List.append_assoc, List.take_append, htake,
          List.take_of_length_le (by omega), List.take_succ_cons, encodeAll_cons,
          List.append_assoc]
      · intro m hm hlen
        cases m with
        | zero => omega
        | succ m =>
          rw [List.take_succ_cons, encodeAll_cons, List.length_append] at hlen
          rw [List.length_cons] at hm
          have := hkeep m (by omega) (by omega)
          omega

variable {next : σ → List α → Except ε (Option (σ × ℕ))} {step : σ → φ → σ}
  {Good : σ → List φ → Prop}

/-- A scanner reads a framed log to its end. `Good s frames` says that `frames` can be read
one after the other from the scanner state `s`. -/
theorem scanLoop_encodeAll (hnext : ∀ s f frames rest, Good s (f :: frames) →
      next s (enc f ++ rest) = .ok (some (step s f, (enc f).length)))
    (hgood : ∀ s f frames, Good s (f :: frames) → Good (step s f) frames) (hnemp : ∀ f, enc f ≠ [])
    (htorn : ∀ s tail, Torn enc ok tail → tail ≠ [] → next s tail = .ok none) {s : σ}
    {frames : List φ} (h : Good s frames) (htail : Torn enc ok tail) {fuel : ℕ}
    (hfuel : (encodeAll enc frames ++ tail).length ≤ fuel) :
    scanLoop next fuel s (encodeAll enc frames ++ tail) = .ok (frames.foldl step s, tail) := by
  induction frames generalizing s fuel with
  | nil =>
    cases fuel with
    | zero => rfl
    | succ fuel =>
      rw [encodeAll_nil, List.nil_append, scanLoop, List.foldl_nil]
      split
      · rfl
      · next hne => rw [htorn s tail htail (by simpa using hne)]
  | cons f frames ih =>
    have hpos : 0 < (enc f).length := List.length_pos_of_ne_nil (hnemp f)
    rw [encodeAll_cons, List.append_assoc] at hfuel ⊢
    rw [List.length_append] at hfuel
    cases fuel with
    | zero => omega
    | succ fuel =>
      rw [scanLoop, if_neg (by simp [hnemp f]), hnext s f frames _ h]
      simp only [List.drop_left]
      rw [ih (hgood s f frames h) (by omega), List.foldl_cons]

end

/-! ## Any input -/

/-- `FrameRun size input n`: complete frames, one after the other, take up the first `n` elements.
`size` is the length of the frame that the input begins with. -/
inductive FrameRun (size : List α → Option ℕ) : List α → ℕ → Prop
  | nil {input : List α} : FrameRun size input 0
  | cons {input : List α} {len n : ℕ} :
      size input = some len → FrameRun size (input.drop len) n → FrameRun size input (len + n)

section

variable {next : σ → List α → Except ε (Option (σ × ℕ))} {size : List α → Option ℕ}

/-- There is fuel for every frame. -/
theorem scanLoop_fuel (hpos : ∀ s input s' len, next s input = .ok (some (s', len)) → 0 < len)
    {s : σ} {input : List α} {fuel fuel' : ℕ} (hfuel : input.length ≤ fuel)
    (hfuel' : input.length ≤ fuel') : scanLoop next fuel s input = scanLoop next fuel' s input := by
  induction fuel generalizing s input fuel' with
  | zero =>
    obtain rfl := List.length_eq_zero_iff.mp (Nat.le_zero.mp hfuel)
    rw [scanLoop_nil, scanLoop_nil]
  | succ fuel ih =>
    cases fuel' with
    | zero =>
      obtain rfl := List.length_eq_zero_iff.mp (Nat.le_zero.mp hfuel')
      rw [scanLoop_nil, scanLoop_nil]
    | succ fuel' =>
      rw [scanLoop, scanLoop]
      split
      · rfl
      · split
        · rfl
        · rfl
        · next s' len hnext =>
          have hlen := hpos s input s' len hnext
          have hdrop : (input.drop len).length = input.length - len := List.length_drop
          exact ih (by omega) (by omega)

/-- A scanner that returns has read the longest run of frames. `pos` is its position. -/
theorem scanLoop_longest {pos : σ → ℕ}
    (hsome : ∀ s input s' len, next s input = .ok (some (s', len)) →
      size input = some len ∧ 0 < len ∧ pos s' = pos s + len)
    (hnone : ∀ s input, next s input = .ok none → size input = none) (hnil : size [] = none)
    {s s' : σ} {input tail : List α} {fuel : ℕ} (hfuel : input.length ≤ fuel)
    (h : scanLoop next fuel s input = .ok (s', tail)) :
    ∃ n, FrameRun size input n ∧ pos s' = pos s + n ∧ tail = input.drop n ∧
      ∀ m, FrameRun size input m → m ≤ n := by
  have hstop : ∀ input : List α, size input = none → ∀ m, FrameRun size input m → m ≤ 0 := by
    intro input hsize m hm
    cases hm with
    | nil => exact Nat.le_refl 0
    | cons hlen => rw [hsize] at hlen; cases hlen
  induction fuel generalizing s input with
  | zero =>
    obtain rfl := List.length_eq_zero_iff.mp (Nat.le_zero.mp hfuel)
    cases h
    exact ⟨0, .nil, rfl, rfl, hstop [] hnil⟩
  | succ fuel ih =>
    rw [scanLoop] at h
    split at h
    · next hemp =>
      cases h
      rw [List.isEmpty_iff.mp hemp]
      exact ⟨0, .nil, rfl, rfl, hstop [] hnil⟩
    · cases hnext : next s input with
      | error e =>
        rw [hnext] at h
        cases h
      | ok read =>
        rw [hnext] at h
        cases read with
        | none =>
          cases h
          exact ⟨0, .nil, rfl, rfl, hstop _ (hnone _ _ hnext)⟩
        | some read =>
          obtain ⟨next', len⟩ := read
          obtain ⟨hlen, hpos, hmoved⟩ := hsome s input next' len hnext
          have hfuel' : (input.drop len).length ≤ fuel := by
            rw [List.length_drop]
            omega
          obtain ⟨n, hrun, hend, htail, hlongest⟩ := ih hfuel' h
          refine ⟨len + n, .cons hlen hrun, ?_, ?_, fun m hm => ?_⟩
          · rw [hend, hmoved, Nat.add_assoc]
          · rw [htail, List.drop_drop]
          · cases hm with
            | nil => exact Nat.zero_le _
            | cons hlen' hrest =>
              obtain rfl : len = _ := Option.some.inj (hlen.symm.trans hlen')
              exact Nat.add_le_add_left (hlongest _ hrest) len

end

end ServerRS.Lib
