import Mathlib.Data.Nat.Digits.Defs
import MediaPipeline.Proofs.Decimal.Digits

/-!
Unsigned integers from text. What a text spells does not depend on the type that it is read into: the
digits stand for their positional value, with any number of zeros in front, and a plus sign may stand
before them. The type only says which values fit.
-/

namespace MediaPipeline.Decimal

/-- Digits, and the number that is their positional value. -/
def Figures (digits : List Char) (n : Nat) : Prop :=
  digits ≠ [] ∧ (∀ c ∈ digits, '0' ≤ c ∧ c ≤ '9') ∧
    Nat.ofDigits 10 (digits.reverse.map fun c => c.toNat - '0'.toNat) = n

/-- The text spells an unsigned integer: digits, with or without a plus sign in front. -/
def Spells (text : List Char) (n : Nat) : Prop :=
  ∃ digits, (text = digits ∨ text = '+' :: digits) ∧ Figures digits n

theorem isDigit_iff {c : Char} : isDigit c = true ↔ '0' ≤ c ∧ c ≤ '9' := by
  simp [isDigit, digit?]

theorem digit?_of_isDigit {c : Char} (h : '0' ≤ c ∧ c ≤ '9') :
    digit? c = some (c.toNat - '0'.toNat) := by
  rw [digit?, if_pos h]

/-- Digits go on from a number by their positional value. -/
theorem accumulate_eq_ofDigits {digits : List Char} (h : ∀ c ∈ digits, '0' ≤ c ∧ c ≤ '9')
    (start : Nat) :
    accumulate start digits = start * 10 ^ digits.length +
      Nat.ofDigits 10 (digits.reverse.map fun c => c.toNat - '0'.toNat) := by
  induction digits generalizing start with
  | nil => simp [accumulate]
  | cons c cs ih =>
      obtain ⟨hc, hcs⟩ := List.forall_mem_cons.mp h
      rw [accumulate_cons, digit?_of_isDigit hc, ih hcs]
      simp only [Option.getD_some, List.reverse_cons, List.map_append, List.map_cons, List.map_nil,
        Nat.ofDigits_append, Nat.ofDigits_singleton, List.length_map, List.length_reverse,
        List.length_cons]
      ring

theorem figures_iff {digits : List Char} {n : Nat} :
    Figures digits n ↔ digits ≠ [] ∧ digits.all isDigit = true ∧ value digits = n := by
  simp only [Figures, List.all_eq_true, isDigit_iff]
  refine and_congr_right fun _ => and_congr_right fun hall => ?_
  rw [value, accumulate_eq_ofDigits hall, Nat.zero_mul, Nat.zero_add]

theorem figures_toDigits (n : Nat) : Figures (Nat.toDigits 10 n) n :=
  figures_iff.mpr ⟨Nat.toDigits_ne_nil, all_isDigit_toDigits n, value_toDigits n⟩

/-- An unsigned integer is read exactly if its text spells it and it fits. -/
theorem unsigned?_eq_some_iff {bound n : Nat} {text : List Char} :
    unsigned? bound text = some n ↔ Spells text n ∧ n < bound := by
  have hdigits : ∀ digits : List Char,
      (if digits ≠ [] ∧ digits.all isDigit ∧ value digits < bound then some (value digits) else none) =
        some n ↔ Figures digits n ∧ n < bound := by
    intro digits
    rw [Option.ite_none_right_eq_some, figures_iff, Option.some.injEq]
    constructor
    · rintro ⟨⟨hne, hall, hlt⟩, rfl⟩
      exact ⟨⟨hne, hall, rfl⟩, hlt⟩
    · rintro ⟨⟨hne, hall, rfl⟩, hlt⟩
      exact ⟨⟨hne, hall, hlt⟩, rfl⟩
  by_cases hplus : ∃ rest, text = '+' :: rest
  · obtain ⟨rest, rfl⟩ := hplus
    refine (hdigits rest).trans (and_congr_left fun _ => ⟨fun h => ⟨rest, .inr rfl, h⟩, ?_⟩)
    rintro ⟨digits, rfl | heq, hfigures⟩
    · exact absurd (hfigures.2.1 '+' List.mem_cons_self) (by decide)
    · cases heq
      exact hfigures
  · rw [unsigned?, hdigits]
    · refine and_congr_left fun _ => ⟨fun h => ⟨text, .inl rfl, h⟩, ?_⟩
      rintro ⟨digits, rfl | rfl, h⟩
      · exact h
      · exact (hplus ⟨digits, rfl⟩).elim
    · exact fun rest h => hplus ⟨rest, h⟩

end MediaPipeline.Decimal
