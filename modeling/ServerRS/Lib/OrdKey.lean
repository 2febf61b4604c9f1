import Mathlib.Order.Basic
import Std.Data.TreeMap

/-!
# Ordering a type by a key

Newtypes are ordered by the value they wrap. `Ord` on such a type compares the
keys, and the laws that the ordered maps of `Std` ask for come from the key type. A record of
two fields is ordered by the one and then by the other.
-/

namespace ServerRS.Lib

variable {α β : Type} [Ord β]

theorem transCmp_key [Std.TransOrd β] (key : α → β) :
    Std.TransCmp (fun a b => compare (key a) (key b)) where
  eq_swap := Std.OrientedOrd.eq_swap (α := β)
  isLE_trans := Std.TransOrd.isLE_trans (α := β)

theorem lawfulEqCmp_key [Std.LawfulEqOrd β] (key : α → β) (hkey : Function.Injective key) :
    Std.LawfulEqCmp (fun a b => compare (key a) (key b)) where
  compare_self := Std.ReflOrd.compare_self (α := β)
  eq_of_compare h := hkey (Std.LawfulEqOrd.eq_of_compare h)

/-! ## Two keys -/

section

variable {γ : Type} [Ord γ]

theorem transCmp_lex [Std.TransOrd β] [Std.TransOrd γ] (first : α → β) (second : α → γ) :
    Std.TransCmp fun a b =>
      (compare (first a) (first b)).then (compare (second a) (second b)) := by
  have hfst := transCmp_key first
  have hsec := transCmp_key second
  exact inferInstanceAs (Std.TransCmp (compareLex (fun a b => compare (first a) (first b))
    fun a b => compare (second a) (second b)))

theorem lawfulEqCmp_lex [Std.LawfulEqOrd β] [Std.LawfulEqOrd γ] (first : α → β) (second : α → γ)
    (hkey : ∀ a b, first a = first b → second a = second b → a = b) :
    Std.LawfulEqCmp fun a b =>
      (compare (first a) (first b)).then (compare (second a) (second b)) where
  compare_self {a} := by
    rw [Std.ReflOrd.compare_self, Std.ReflOrd.compare_self]
    rfl
  eq_of_compare {a b} h := by
    rw [Ordering.then_eq_eq, Std.LawfulEqOrd.compare_eq_iff_eq,
      Std.LawfulEqOrd.compare_eq_iff_eq] at h
    exact hkey a b h.1 h.2

end

end ServerRS.Lib
