import Mathlib.Data.List.Basic
import Mathlib.Data.String.Basic

/-!
# Texts put together from parts

A part whose size is known can be told from what follows it (`append_inj_of_size`). Parts with a mark
between them can be shifted against each other, when the mark also occurs in a part
(`append_mark_append_iff`).
-/

namespace ServerRS.Lib

/-- Two texts of one size that begin the same text are the same. -/
theorem append_inj_of_size {a b r s : String} (hsize : a.utf8ByteSize = b.utf8ByteSize)
    (h : a ++ r = b ++ s) : a = b ∧ r = s := by
  have hnil : ∀ {x y : String} {t : List Char}, x.utf8ByteSize = y.utf8ByteSize →
      x.toList = y.toList ++ t → t = [] := by
    intro x y t hxy hlist
    have htext : x = y ++ String.ofList t := String.toList_injective (by simpa using hlist)
    have hzero : (String.ofList t).utf8ByteSize = 0 := by
      rw [htext, String.utf8ByteSize_append] at hxy
      omega
    simpa using congrArg String.toList (String.utf8ByteSize_eq_zero_iff.mp hzero)
  have hlist : a.toList ++ r.toList = b.toList ++ s.toList := by
    simpa using congrArg String.toList h
  rcases List.append_eq_append_iff.mp hlist with ⟨t, hb, hr⟩ | ⟨t, ha, hs⟩
  · obtain rfl := hnil hsize.symm hb
    exact ⟨(String.toList_injective (by simpa using hb)).symm, String.toList_injective hr⟩
  · obtain rfl := hnil hsize ha
    exact ⟨String.toList_injective (by simpa using ha), (String.toList_injective hs).symm⟩

/-- Two pairs with a mark in the middle are the same list when they are the same pair, or when the
first part of one has the mark in it and what follows is the beginning of the other's second part. -/
theorem append_mark_append_iff {α : Type} {mark : α} {a b c d : List α} :
    a ++ mark :: b = c ++ mark :: d ↔ a = c ∧ b = d ∨
      (∃ t, c = a ++ mark :: t ∧ b = t ++ mark :: d) ∨
        ∃ t, a = c ++ mark :: t ∧ d = t ++ mark :: b := by
  constructor
  · intro h
    rcases List.append_eq_append_iff.mp h with ⟨rest, hc, hrest⟩ | ⟨rest, ha, hrest⟩
    · cases rest with
      | nil => exact .inl ⟨by simpa using hc.symm, (List.cons.inj hrest).2⟩
      | cons x t =>
        obtain ⟨rfl, hb⟩ := List.cons.inj hrest
        exact .inr (.inl ⟨t, hc, hb⟩)
    · cases rest with
      | nil => exact .inl ⟨by simpa using ha, (List.cons.inj hrest).2.symm⟩
      | cons x t =>
        obtain ⟨rfl, hd⟩ := List.cons.inj hrest
        exact .inr (.inr ⟨t, ha, hd⟩)
  · rintro (⟨rfl, rfl⟩ | ⟨t, rfl, rfl⟩ | ⟨t, rfl, rfl⟩)
    · rfl
    · simp
    · simp

end ServerRS.Lib
