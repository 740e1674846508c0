import Mathlib.Tactic

/-!
# Enumerations with discriminants

What the derived `TryFromPrimitive` does: a number is the variant that has it
as its discriminant, or an error. Each enumeration lists its variants and
carries the proof that the list is complete and that no two of them share a
discriminant.
-/

namespace Rust

set_option autoImplicit false

class Discriminants (E : Type) where
  name : String
  code : E → Nat
  variants : List E
  complete : ∀ e, e ∈ variants
  distinct : (variants.map code).Nodup

section TryFrom
variable {E : Type} [Discriminants E]

theorem code_injective {e e' : E} (h : Discriminants.code e = Discriminants.code e') : e = e' :=
  List.inj_on_of_nodup_map Discriminants.distinct (Discriminants.complete e)
    (Discriminants.complete e') h

def tryFrom (E : Type) [Discriminants E] (n : Nat) : Option E :=
  (Discriminants.variants : List E).find? fun e => Discriminants.code e = n

theorem tryFrom_eq_some_iff {n : Nat} {e : E} :
    tryFrom E n = some e ↔ Discriminants.code e = n := by
  constructor
  · intro h
    simpa using List.find?_some h
  · intro h
    cases hf : tryFrom E n with
    | none =>
      have hne := List.find?_eq_none.mp hf e (Discriminants.complete e)
      simp [h] at hne
    | some e' =>
      have he' : Discriminants.code e' = n := by simpa using List.find?_some hf
      rw [code_injective (he'.trans h.symm)]

@[simp] theorem tryFrom_code (e : E) : tryFrom E (Discriminants.code e) = some e :=
  tryFrom_eq_some_iff.mpr rfl

theorem exists_tryFrom_iff {lo len : Nat}
    (h : (Discriminants.variants : List E).map Discriminants.code = List.range' lo len) (n : Nat) :
    (∃ e, tryFrom E n = some e) ↔ lo ≤ n ∧ n < lo + len := by
  rw [← List.mem_range'_1, ← h, List.mem_map]
  constructor
  · intro hsome
    rcases hsome with ⟨e, he⟩
    exact ⟨e, Discriminants.complete e, tryFrom_eq_some_iff.mp he⟩
  · intro hmem
    rcases hmem with ⟨e, _, he⟩
    exact ⟨e, tryFrom_eq_some_iff.mpr he⟩

end TryFrom

/-- A code that is absent when it is zero. -/
def nonZero (n : Nat) : Option Nat := if n = 0 then none else some n

theorem nonZero_eq_none_iff {n : Nat} : nonZero n = none ↔ n = 0 := by
  simp [nonZero]

theorem nonZero_eq_some_iff {n k : Nat} : nonZero n = some k ↔ n ≠ 0 ∧ n = k := by
  simp [nonZero]

/-- `TryFromPrimitiveError` as text. -/
def noDiscriminant (name : String) (n : Nat) : String :=
  "No discriminant in enum `" ++ name ++ "` matches the value `" ++ toString n ++ "`"

end Rust
