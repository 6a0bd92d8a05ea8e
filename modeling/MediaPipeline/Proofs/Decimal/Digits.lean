import Mathlib.Tactic.IntervalCases
import MediaPipeline.Decimal.Reading

/-!
The decimal digits of natural numbers. All but the last digit of a number are those of its tenth,
and so what holds of digits and goes on from the tenth of a number to the number holds of all.
-/

namespace MediaPipeline.Decimal

theorem toList_toString (n : Nat) : (toString n).toList = Nat.toDigits 10 n := by
  rw [Nat.toString_eq_ofList_toDigits, String.toList_ofList]

/-- Induction on the digits of a number, from the first to the last. -/
theorem toDigits_induction {motive : Nat → List Char → Prop}
    (digit : ∀ d < 10, motive d [Nat.digitChar d])
    (append : ∀ n d, 0 < n → d < 10 → motive n (Nat.toDigits 10 n) →
      motive (10 * n + d) (Nat.toDigits 10 n ++ [Nat.digitChar d])) (n : Nat) :
    motive n (Nat.toDigits 10 n) := by
  induction n using Nat.strong_induction_on with
  | _ n ih =>
      by_cases hlt : n < 10
      · rw [Nat.toDigits_of_lt_base hlt]
        exact digit n hlt
      · have hlast := append (n / 10) (n % 10) (by omega) (Nat.mod_lt n (by decide))
          (ih (n / 10) (by omega))
        rw [Nat.div_add_mod] at hlast
        rwa [Nat.toDigits_of_base_le (by decide) (Nat.le_of_not_lt hlt)]

theorem digit?_digitChar {d : Nat} (hd : d < 10) : digit? (Nat.digitChar d) = some d := by
  interval_cases d <;> rfl

theorem all_isDigit_toDigits (n : Nat) : (Nat.toDigits 10 n).all isDigit = true := by
  induction n using toDigits_induction with
  | digit d hd => simp [isDigit, digit?_digitChar hd]
  | append n d _ hd ih => simp [isDigit, digit?_digitChar hd, ih]

/-- A number is read back from its digits. -/
theorem value_toDigits (n : Nat) : value (Nat.toDigits 10 n) = n := by
  induction n using toDigits_induction with
  | digit d hd => simp [value, accumulate, digit?_digitChar hd]
  | append n d _ hd ih =>
      rw [value, accumulate] at ih
      simp [value, accumulate, digit?_digitChar hd, ih]

theorem accumulate_cons (start : Nat) (c : Char) (cs : List Char) :
    accumulate start (c :: cs) = accumulate (10 * start + (digit? c).getD 0) cs := rfl

/-- Digits do not make a number smaller. -/
theorem le_accumulate (start : Nat) (cs : List Char) : start ≤ accumulate start cs := by
  induction cs generalizing start with
  | nil => exact Nat.le_refl start
  | cons c cs ih =>
      have hnext := ih (10 * start + (digit? c).getD 0)
      rw [accumulate_cons]
      omega

/-- Digits alone have no sign. -/
theorem splitSign_of_digits {cs : List Char} (h : cs.all isDigit = true) :
    splitSign cs = (false, cs) := by
  unfold splitSign
  split
  next => cases h
  next => cases h
  next => rfl

end MediaPipeline.Decimal
