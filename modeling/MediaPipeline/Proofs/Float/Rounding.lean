import Mathlib

/-!
How a number is rounded to a double. Two bits beside a mantissa say where between it and the next one
the number is, which is all that rounding to the nearest asks for. The rounded number is in the range
of the doubles exactly if it was below the middle between the greatest double and the power of two
after it.
-/

namespace MediaPipeline.Binary64

open Float.Model (UnpackedFloat Format totalExponent)
open Float.Model.UnpackedFloat

/-! ### Residual bits -/

/-- The residual bits of a mantissa say where a number is from it. -/
inductive Locates : ExtendedMantissa → ℚ → Prop where
  | exact (m : ℕ) : Locates ⟨m, false, false⟩ m
  | below {m : ℕ} {x : ℚ} (hlo : m < x) (hhi : x < m + 1 / 2) : Locates ⟨m, false, true⟩ x
  | middle (m : ℕ) : Locates ⟨m, true, false⟩ (m + 1 / 2)
  | above {m : ℕ} {x : ℚ} (hlo : m + 1 / 2 < x) (hhi : x < m + 1) : Locates ⟨m, true, true⟩ x

namespace Locates

/-- A quotient is where its remainder says. -/
theorem div (a : ℕ) {b : ℕ} (hb : 0 < b) :
    Locates (.ofMantissaAndAccuracy (a / b) (accuracyOfFraction (a % b) b)) (a / b : ℚ) := by
  have hbq : (0 : ℚ) < b := by exact_mod_cast hb
  have hdiv : (a : ℚ) = b * (a / b : ℕ) + (a % b : ℕ) := by exact_mod_cast (Nat.div_add_mod a b).symm
  have hquot : (a / b : ℚ) = (a / b : ℕ) + (a % b : ℕ) / b := by
    rw [hdiv, add_div, mul_div_cancel_left₀ _ hbq.ne']
  have hmod : (a % b : ℕ) < (b : ℚ) := by exact_mod_cast Nat.mod_lt a hb
  rw [hquot, accuracyOfFraction]
  generalize a / b = m
  generalize a % b = r at hmod
  by_cases hr : r = 0
  · rw [if_pos hr, hr, Nat.cast_zero, zero_div, add_zero]
    exact .exact m
  · have hr' : (0 : ℚ) < r := by exact_mod_cast Nat.pos_of_ne_zero hr
    rw [if_neg hr]
    cases hcmp : compare (2 * r) b with
    | lt =>
        have hlt : (2 * r : ℚ) < b := by exact_mod_cast Nat.compare_eq_lt.mp hcmp
        refine .below (by simpa using div_pos hr' hbq) ?_
        rw [add_lt_add_iff_left, div_lt_div_iff₀ hbq two_pos]
        linarith
    | eq =>
        have heq : (2 * r : ℚ) = b := by exact_mod_cast Nat.compare_eq_eq.mp hcmp
        have hhalf : (r / b : ℚ) = 1 / 2 := by
          rw [div_eq_div_iff hbq.ne' two_ne_zero]
          linarith
        rw [hhalf]
        exact .middle m
    | gt =>
        have hgt : (b : ℚ) < 2 * r := by exact_mod_cast Nat.compare_eq_gt.mp hcmp
        refine .above ?_ ?_
        · rw [add_lt_add_iff_left, div_lt_div_iff₀ two_pos hbq]
          linarith
        · rw [add_lt_add_iff_left, div_lt_one hbq]
          exact hmod

variable {m : ℕ} {r s : Bool} {em : ExtendedMantissa} {x : ℚ}

theorem exact_or_between (h : Locates ⟨m, r, s⟩ x) :
    (r || s) = false ∧ x = m ∨ (r || s) = true ∧ m < x ∧ x < m + 1 := by
  cases h with
  | exact => exact .inl ⟨rfl, rfl⟩
  | below hlo hhi => exact .inr ⟨rfl, hlo, by linarith⟩
  | middle => exact .inr ⟨rfl, by linarith, by linarith⟩
  | above hlo hhi => exact .inr ⟨rfl, by linarith, hhi⟩

theorem mantissa_le (h : Locates em x) : (em.mantissa : ℚ) ≤ x := by
  obtain ⟨-, hx⟩ | ⟨-, hlo, -⟩ := exact_or_between h
  · exact hx.ge
  · exact hlo.le

theorem lt_mantissa_add_one (h : Locates em x) : x < em.mantissa + 1 := by
  obtain ⟨-, hx⟩ | ⟨-, -, hhi⟩ := exact_or_between h
  · exact hx.trans_lt (lt_add_one _)
  · exact hhi

/-- Where a bit is dropped, it becomes the round bit, and the other two the sticky bit. -/
theorem shiftRightOne (h : Locates em x) : Locates em.shiftRightOne (x / 2) := by
  obtain ⟨m, r, s⟩ := em
  obtain ⟨k, rfl | rfl⟩ := m.even_or_odd'
  · have hshift : ExtendedMantissa.shiftRightOne ⟨2 * k, r, s⟩ = ⟨k, false, r || s⟩ := by
      simp [ExtendedMantissa.shiftRightOne]
    rw [hshift]
    obtain ⟨hrs, rfl⟩ | ⟨hrs, hlo, hhi⟩ := h.exact_or_between <;> rw [hrs]
    · convert Locates.exact k using 1
      simp
    · push_cast at hlo hhi
      exact .below (by linarith) (by linarith)
  · have hshift : ExtendedMantissa.shiftRightOne ⟨2 * k + 1, r, s⟩ = ⟨k, true, r || s⟩ := by
      simp [ExtendedMantissa.shiftRightOne]
      omega
    rw [hshift]
    obtain ⟨hrs, rfl⟩ | ⟨hrs, hlo, hhi⟩ := h.exact_or_between <;> rw [hrs]
    · convert Locates.middle k using 1
      push_cast
      ring
    · push_cast at hlo hhi
      exact .above (by linarith) (by linarith)

theorem shiftRight (h : Locates em x) (n : ℕ) : Locates (em >>> n) (x / 2 ^ n) := by
  change Locates (n.repeat ExtendedMantissa.shiftRightOne em) _
  induction n with
  | zero => simpa [Nat.repeat] using h
  | succ n ih =>
      rw [Nat.repeat, pow_succ, ← div_div]
      exact ih.shiftRightOne

theorem roundedMantissa_le (h : Locates em x) : em.roundedMantissa ≤ em.mantissa + 1 := by
  cases h with
  | exact m => exact Nat.le_succ m
  | below => exact Nat.le_succ _
  | middle m =>
      change m + m % 2 ≤ m + 1
      omega
  | above => exact le_rfl

/-- What is rounded reaches an even number exactly if it was at most half a unit below it, where a tie
goes up to it. -/
theorem even_le_roundedMantissa_iff (h : Locates em x) (n : ℕ) :
    2 * n ≤ em.roundedMantissa ↔ (2 * n : ℚ) - 1 / 2 ≤ x := by
  have hle : ∀ {j : ℕ}, 2 * n ≤ j ↔ (2 * n : ℚ) ≤ j := by
    intro j
    rw [← @Nat.cast_le ℚ, Nat.cast_mul, Nat.cast_two]
  have hlt : ∀ {j : ℕ}, 2 * n ≤ j ↔ (2 * n : ℚ) < j + 1 := by
    intro j
    rw [← Nat.lt_succ_iff, ← @Nat.cast_lt ℚ, Nat.cast_mul, Nat.cast_two, Nat.cast_succ]
  cases h with
  | exact m =>
      change 2 * n ≤ m ↔ _
      exact ⟨fun hn => by linarith [hle.mp hn], fun hx => hlt.mpr (by linarith)⟩
  | @below m x hlo hhi =>
      change 2 * n ≤ m ↔ _
      exact ⟨fun hn => by linarith [hle.mp hn], fun hx => hlt.mpr (by linarith)⟩
  | middle m =>
      change 2 * n ≤ m + m % 2 ↔ _
      have hodd : 2 * n ≤ m + m % 2 ↔ 2 * n ≤ m + 1 := by omega
      rw [hodd, hle]
      push_cast
      constructor <;> intro hx <;> linarith
  | @above m x hlo hhi =>
      change 2 * n ≤ m + 1 ↔ _
      refine ⟨fun hn => ?_, fun hx => hlt.mpr ?_⟩
      · have hq := hle.mp hn
        push_cast at hq
        linarith
      · push_cast
        linarith

end Locates

/-! ### The range of the doubles -/

/-- The middle between the greatest double and the power of two after it, in units of its last place. -/
def overflow : ℚ :=
  (2 ^ 53 - 1 / 2) * 2 ^ 971

/-- The number stays finite as a double. -/
def InRange : UnpackedFloat → Prop
  | .zero _ => True
  | .finite _ _ e _ => e ≤ 971
  | _ => False

theorem targetExponent_eq (m : ℕ) (e : ℤ) :
    Format.binary64.targetExponent (totalExponent m e) = max (m.log2 + 1 + e - 53) (-1074) :=
  rfl

section

variable {n : ℕ} {t : ℤ}

theorem shiftToTargetExponent_of_lt (hn : n < 2 ^ 53) (ht : -1074 ≤ t) :
    shiftToTargetExponent .binary64 n t .exact = (⟨n, false, false⟩, t) := by
  have hlog : n.log2 < 53 := by
    rcases Nat.eq_zero_or_pos n with rfl | hpos
    · decide
    · exact (Nat.log2_lt hpos.ne').mpr hn
  have hshift : (Format.binary64.targetExponent (totalExponent n t) - t).toNat = 0 := by
    rw [targetExponent_eq]
    omega
  simp only [shiftToTargetExponent, shiftToExponent, hshift, Nat.cast_zero, add_zero]
  rfl

theorem shiftToTargetExponent_two_pow (ht : -1074 ≤ t) :
    shiftToTargetExponent .binary64 (2 ^ 53) t .exact = (⟨2 ^ 52, false, false⟩, t + 1) := by
  have hshift : (Format.binary64.targetExponent (totalExponent (2 ^ 53) t) - t).toNat = 1 := by
    rw [targetExponent_eq, Nat.log2_two_pow]
    omega
  simp only [shiftToTargetExponent, shiftToExponent, hshift, Nat.cast_one]
  rfl

/-- After rounding, a number is in range by its exponent, unless the mantissa overflows at the last. -/
theorem inRange_roundWithAccuracy {s : Sign} {m : ℕ} {e : ℤ} {a : Accuracy}
    {first : ExtendedMantissa} (hfirst : shiftToTargetExponent .binary64 m e a = (first, t))
    (ht : -1074 ≤ t) (hle : first.roundedMantissa ≤ 2 ^ 53) :
    InRange (roundWithAccuracy .binary64 s m e a) ↔
      first.roundedMantissa = 0 ∨ t ≤ 970 ∨ t = 971 ∧ first.roundedMantissa < 2 ^ 53 := by
  rw [roundWithAccuracy, hfirst]
  dsimp only
  generalize first.roundedMantissa = n at *
  rcases hle.lt_or_eq with hlt | rfl
  · simp only [shiftToTargetExponent_of_lt hlt ht]
    split
    · next hn => simp [InRange, hn]
    · next hn =>
        simp only [InRange, hn, hlt, and_true, false_or]
        omega
  · simp only [shiftToTargetExponent_two_pow ht]
    simp [InRange]
    omega

end

theorem mantissa_ofMantissaAndAccuracy (m : ℕ) (a : Accuracy) :
    (ExtendedMantissa.ofMantissaAndAccuracy m a).mantissa = m := by
  obtain _ | (_ | _ | _) := a <;> rfl

/-- What is shifted for rounding fits into the mantissa of a double, and fills it unless the exponent is
the least one. -/
theorem shifted_bounds {m k : ℕ} {e : ℤ} {a : Accuracy} {x : ℚ}
    (hx : Locates (.ofMantissaAndAccuracy m a) x)
    (hk : max (m.log2 + 1 + e - 53) (-1074) = e + k) :
    x / 2 ^ k < 2 ^ 53 ∧ (-1074 < e + k → 2 ^ 52 ≤ x / 2 ^ k) := by
  have hpow : (0 : ℚ) < 2 ^ k := by positivity
  have hlo := hx.mantissa_le
  have hhi := hx.lt_mantissa_add_one
  rw [mantissa_ofMantissaAndAccuracy] at hlo hhi
  constructor
  · have hm : m + 1 ≤ 2 ^ (53 + k) :=
      Nat.lt_log2_self.trans_le (Nat.pow_le_pow_right two_pos (by omega))
    have hm' : (m + 1 : ℚ) ≤ 2 ^ 53 * 2 ^ k := by
      rw [← pow_add]
      exact_mod_cast hm
    rw [div_lt_iff₀ hpow]
    exact hhi.trans_le hm'
  · intro hnormal
    have hlog : m.log2 = 52 + k := by omega
    have hne : m ≠ 0 := by
      rintro rfl
      rw [Nat.log2_zero] at hlog
      omega
    have hm : 2 ^ (52 + k) ≤ m := hlog ▸ Nat.log2_self_le hne
    have hm' : (2 ^ 52 * 2 ^ k : ℚ) ≤ m := by
      rw [← pow_add]
      exact_mod_cast hm
    rw [le_div_iff₀ hpow]
    exact hm'.trans hlo

/-- The exponent of a normal number tells whether it is below the middle after the greatest double, unless
it is the greatest exponent. -/
theorem mul_zpow_lt_overflow_iff {y : ℚ} {t : ℤ} (hlt : y < 2 ^ 53)
    (hnormal : -1074 < t → 2 ^ 52 ≤ y) :
    y * 2 ^ t < overflow ↔ t ≤ 970 ∨ t = 971 ∧ y < 2 ^ 53 - 1 / 2 := by
  rcases lt_trichotomy t 971 with hsmall | rfl | hlarge
  · have hpow : (2 ^ t : ℚ) ≤ 2 ^ 970 := by
      exact_mod_cast zpow_le_zpow_right₀ (show (1 : ℚ) ≤ 2 by norm_num) (show t ≤ (970 : ℕ) by omega)
    have hy : y * 2 ^ t < overflow := calc
      y * 2 ^ t < 2 ^ 53 * 2 ^ t := mul_lt_mul_of_pos_right hlt (by positivity)
      _ ≤ 2 ^ 53 * 2 ^ 970 := mul_le_mul_of_nonneg_left hpow (by positivity)
      _ ≤ (2 ^ 53 - 1 / 2) * 2 * 2 ^ 970 :=
        mul_le_mul_of_nonneg_right (by norm_num) (by positivity)
      _ = overflow := by rw [overflow, mul_assoc, ← pow_succ']
    exact iff_of_true hy (.inl (by omega))
  · have hy : y * 2 ^ (971 : ℤ) < overflow ↔ y < 2 ^ 53 - 1 / 2 :=
      mul_lt_mul_iff_left₀ (by positivity)
    rw [hy]
    simp
  · have hpow : (2 ^ 972 : ℚ) ≤ 2 ^ t := by
      exact_mod_cast zpow_le_zpow_right₀ (show (1 : ℚ) ≤ 2 by norm_num) (show (972 : ℕ) ≤ t by omega)
    have hy : overflow ≤ y * 2 ^ t := calc
      overflow ≤ 2 ^ 53 * 2 ^ 971 := mul_le_mul_of_nonneg_right (by norm_num) (by positivity)
      _ = 2 ^ 52 * 2 ^ 972 := by rw [pow_succ _ 971, pow_succ _ 52, mul_assoc, mul_comm 2]
      _ ≤ y * 2 ^ t :=
        mul_le_mul (hnormal (by omega)) hpow (by positivity) (by linarith [hnormal (by omega)])
    exact iff_of_false hy.not_gt (by omega)

/-- A number is rounded to one in range exactly if it is below the middle after the greatest double. -/
theorem inRange_roundWithAccuracy_iff {s : Sign} {m : ℕ} {e : ℤ} {a : Accuracy} {x : ℚ}
    (hx : Locates (.ofMantissaAndAccuracy m a) x)
    (he : e ≤ Format.binary64.targetExponent (totalExponent m e)) :
    InRange (roundWithAccuracy .binary64 s m e a) ↔ x * 2 ^ e < overflow := by
  obtain ⟨k, hk⟩ : ∃ k : ℕ, Format.binary64.targetExponent (totalExponent m e) = e + k :=
    ⟨_, by rw [Int.toNat_of_nonneg (Int.sub_nonneg_of_le he), add_sub_cancel]⟩
  have hshift : shiftToTargetExponent .binary64 m e a =
      (ExtendedMantissa.ofMantissaAndAccuracy m a >>> k, e + k) := by
    rw [shiftToTargetExponent, shiftToExponent, hk, add_sub_cancel_left, Int.toNat_natCast]
  have hshifted := hx.shiftRight k
  obtain ⟨hlt, hnormal⟩ := shifted_bounds hx hk
  -- after the shift only the shifted number and its exponent matter
  have hvalue : x * 2 ^ e = x / 2 ^ k * 2 ^ (e + k) := by
    rw [zpow_add₀ two_ne_zero, zpow_natCast]
    field_simp
  rw [hvalue]
  generalize ExtendedMantissa.ofMantissaAndAccuracy m a >>> k = first at hshift hshifted
  generalize x / 2 ^ k = y at *
  have ht : -1074 ≤ e + k := by
    rw [← hk]
    exact le_max_right _ _
  generalize e + (k : ℤ) = t at *
  have hfirst : first.mantissa < 2 ^ 53 := by exact_mod_cast hshifted.mantissa_le.trans_lt hlt
  have hrounded := hshifted.roundedMantissa_le
  rw [inRange_roundWithAccuracy hshift ht (by omega), mul_zpow_lt_overflow_iff hlt hnormal]
  have hfull : 2 ^ 53 ≤ first.roundedMantissa ↔ (2 ^ 53 - 1 / 2 : ℚ) ≤ y := by
    have h := hshifted.even_le_roundedMantissa_iff (2 ^ 52)
    norm_num at h ⊢
    exact h
  -- only a number of the least exponent is rounded to zero
  have hzero : first.roundedMantissa = 0 → t ≤ 970 := by
    intro hzero
    by_contra hlarge
    have h := (hshifted.even_le_roundedMantissa_iff 1).mpr (by linarith [hnormal (by omega)])
    omega
  rw [← not_le (a := (2 ^ 53 - 1 / 2 : ℚ)), ← hfull, not_le]
  constructor
  · rintro (h | h)
    · exact .inl (hzero h)
    · exact h
  · exact .inr

end MediaPipeline.Binary64
