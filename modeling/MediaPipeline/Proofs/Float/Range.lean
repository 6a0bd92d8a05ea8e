import MediaPipeline.Proofs.Float.Rounding

/-!
Which doubles are finite: those nearest to a decimal number, and quotients. Both come from one
rounding, so that both are finite exactly if the exact result is in range.
-/

namespace MediaPipeline.Binary64

open Float.Model (UnpackedFloat Format totalExponent)
open Float.Model.UnpackedFloat

/-- The absolute value of a number; what is not finite has none. -/
def magnitude : UnpackedFloat → ℚ
  | .finite _ m e _ => m * 2 ^ e
  | _ => 0

/-! ### Rounded results -/

section

variable {s₁ s₂ : Sign} {m₁ m₂ : ℕ} {e₁ e₂ : ℤ}

/-- The dividend is shifted until the quotient fills a mantissa, or has the least exponent. -/
theorem exists_divCore (m₁ m₂ : ℕ) (e₁ e₂ : ℤ) : ∃ (k : ℕ) (e : ℤ), e₁ - e₂ = e + k ∧
    divCore .binary64 m₁ e₁ m₂ e₂ =
      (m₁ * 2 ^ k / m₂, e, accuracyOfFraction (m₁ * 2 ^ k % m₂) m₂) ∧
    (e ≤ -1074 ∨ m₂.log2 + 53 ≤ m₁.log2 + k) := by
  have htarget : Format.binary64.targetExponent (totalExponent m₁ e₁ - totalExponent m₂ e₂) =
      max (m₁.log2 + 1 + e₁ - (m₂.log2 + 1 + e₂) - 53) (-1074) := rfl
  rw [divCore, htarget]
  simp only [Nat.shiftLeft_eq]
  exact ⟨_, _, by omega, rfl, by omega⟩

/-- A quotient that is computed so far is wide enough to be rounded. -/
theorem le_targetExponent_of_div {k : ℕ} {e : ℤ} (h₁ : 0 < m₁) (h₂ : 0 < m₂)
    (he : e ≤ -1074 ∨ m₂.log2 + 53 ≤ m₁.log2 + k) :
    e ≤ Format.binary64.targetExponent (totalExponent (m₁ * 2 ^ k / m₂) e) := by
  rw [targetExponent_eq]
  rcases he with hleast | hlog
  · omega
  · have hwide : 2 ^ 52 ≤ m₁ * 2 ^ k / m₂ := by
      rw [Nat.le_div_iff_mul_le h₂]
      calc 2 ^ 52 * m₂ ≤ 2 ^ 52 * 2 ^ (m₂.log2 + 1) :=
            Nat.mul_le_mul_left _ Nat.lt_log2_self.le
        _ = 2 ^ (m₂.log2 + 53) := by
            rw [← pow_add]
            congr 1
            omega
        _ ≤ 2 ^ (m₁.log2 + k) := Nat.pow_le_pow_right two_pos hlog
        _ = 2 ^ m₁.log2 * 2 ^ k := pow_add ..
        _ ≤ m₁ * 2 ^ k := Nat.mul_le_mul_right _ (Nat.log2_self_le h₁.ne')
    have hquot : 52 ≤ (m₁ * 2 ^ k / m₂).log2 := (Nat.le_log2 (by omega)).mpr hwide
    omega

theorem inRange_div_finite (h₁ : 0 < m₁) (h₂ : 0 < m₂) :
    InRange (div .binary64 (.finite s₁ m₁ e₁ h₁) (.finite s₂ m₂ e₂ h₂)) ↔
      m₁ * 2 ^ e₁ / (m₂ * 2 ^ e₂) < overflow := by
  obtain ⟨k, e, hk, hcore, he⟩ := exists_divCore m₁ m₂ e₁ e₂
  have hvalue : m₁ * 2 ^ e₁ / (m₂ * 2 ^ e₂) = ((m₁ * 2 ^ k : ℕ) / m₂ * 2 ^ e : ℚ) := by
    have hpow : (2 ^ e₁ : ℚ) = 2 ^ e * 2 ^ k * 2 ^ e₂ := by
      rw [← zpow_natCast, ← zpow_add₀ two_ne_zero, ← zpow_add₀ two_ne_zero, ← hk, sub_add_cancel]
    rw [hpow]
    push_cast
    field_simp
  rw [UnpackedFloat.div, hcore, hvalue]
  exact inRange_roundWithAccuracy_iff (Locates.div _ h₂) (le_targetExponent_of_div h₁ h₂ he)

end

theorem one_lt_overflow : 1 < overflow :=
  calc (1 : ℚ) < 2 ^ 53 - 1 / 2 := by norm_num
    _ ≤ overflow := le_mul_of_one_le_right (by norm_num) (one_le_pow₀ one_le_two)

theorem overflow_le_two_pow : overflow ≤ 2 ^ 1024 :=
  calc overflow ≤ 2 ^ 53 * 2 ^ 971 := mul_le_mul_of_nonneg_right (by norm_num) (by positivity)
    _ = 2 ^ 1024 := by rw [← pow_add]

/-- A decimal number of a great exponent overflows. -/
theorem overflow_le_of_exponent {m : ℕ} {e : ℤ} (hm : m ≠ 0) (he : 1024 ≤ e) :
    overflow ≤ m * 10 ^ e := by
  have hpow : (10 ^ 1024 : ℚ) ≤ 10 ^ e := by
    exact_mod_cast zpow_le_zpow_right₀ (show (1 : ℚ) ≤ 10 by norm_num)
      (show (1024 : ℕ) ≤ e by exact_mod_cast he)
  have hone : (1 : ℚ) ≤ m := by exact_mod_cast Nat.one_le_iff_ne_zero.mpr hm
  calc overflow ≤ 2 ^ 1024 := overflow_le_two_pow
    _ ≤ 10 ^ 1024 := pow_le_pow_left₀ (by norm_num) (by norm_num) _
    _ ≤ 10 ^ e := hpow
    _ ≤ m * 10 ^ e := le_mul_of_one_le_left (by positivity) hone

/-- A decimal number is below one if its exponent outweighs its digits. -/
theorem lt_one_of_exponent {m : ℕ} {e : ℤ} (he : e < -m.log2) : (m * 10 ^ e : ℚ) < 1 := by
  have hm : (m : ℚ) < 10 ^ (m.log2 + 1) :=
    calc (m : ℚ) < 2 ^ (m.log2 + 1) := by exact_mod_cast Nat.lt_log2_self
      _ ≤ 10 ^ (m.log2 + 1) := pow_le_pow_left₀ (by norm_num) (by norm_num) _
  have hpow : (10 ^ (m.log2 + 1) * 10 ^ e : ℚ) ≤ 1 := by
    rw [← zpow_natCast, ← zpow_add₀ (by norm_num)]
    exact zpow_le_one_of_nonpos₀ (by norm_num) (by omega)
  calc (m * 10 ^ e : ℚ) < 10 ^ (m.log2 + 1) * 10 ^ e := mul_lt_mul_of_pos_right hm (by positivity)
    _ ≤ 1 := hpow

/-- A product that is widened by a whole mantissa is wide enough to be rounded. -/
theorem inRange_mul_widened {m n : ℕ} (hm : 0 < m <<< 53) (hn : 0 < n) :
    InRange (mul .binary64 (.finite .positive (m <<< 53) (-53) hm) (.finite .positive n 0 hn)) ↔
      (m * n : ℚ) < overflow := by
  have hpow : 2 ^ 53 ≤ m <<< 53 * n := by
    rw [Nat.shiftLeft_eq] at hm ⊢
    have hpos : 0 < m * n := Nat.mul_pos (Nat.pos_of_mul_pos_right hm) hn
    rw [Nat.mul_right_comm]
    exact Nat.le_mul_of_pos_left _ hpos
  have hwide : 53 ≤ (m <<< 53 * n).log2 := (Nat.le_log2 (by omega)).mpr hpow
  have hvalue : (m * n : ℚ) = (m <<< 53 * n : ℕ) * 2 ^ (-53 + 0 : ℤ) := by
    rw [Nat.shiftLeft_eq, add_zero, zpow_neg]
    push_cast
    field_simp
  rw [hvalue]
  refine inRange_roundWithAccuracy_iff (.exact _) ?_
  rw [targetExponent_eq]
  omega

/-- The double nearest to a decimal number is in range exactly if the decimal number is. -/
theorem inRange_ofScientific_iff (m : ℕ) (e : ℤ) :
    InRange (ofScientific .binary64 m e) ↔ m * 10 ^ e < overflow := by
  rw [ofScientific]
  -- powers of ten that are beyond the range in either direction are not computed
  split
  · next hm =>
      rw [hm, Nat.cast_zero, zero_mul]
      exact iff_of_true trivial (one_pos.trans one_lt_overflow)
  split
  · next hm he =>
      have hlarge : 1024 ≤ e := le_trans (by norm_num) he.le
      exact iff_of_false id (overflow_le_of_exponent hm hlarge).not_gt
  split
  · next hm _ he =>
      have hsmall : e < -m.log2 := lt_of_lt_of_le he (by norm_num)
      exact iff_of_true trivial ((lt_one_of_exponent hsmall).trans one_lt_overflow)
  split
  · next he =>
      obtain ⟨k, rfl⟩ := Int.eq_ofNat_of_zero_le he
      rw [zpow_natCast]
      exact_mod_cast inRange_mul_widened _ (Nat.pow_pos (by decide))
  · next he =>
      obtain ⟨k, hk⟩ := Int.eq_ofNat_of_zero_le (show 0 ≤ -e by omega)
      obtain rfl : e = -k := by omega
      rw [inRange_div_finite, neg_neg, Int.toNat_natCast, zpow_neg, zpow_natCast]
      simp [div_eq_mul_inv]

/-! ### Doubles -/

theorem exponent_ne_iff (v : BitVec Format.binary64.exponentBits) : v ≠ -1#_ ↔ v.toNat ≤ 2046 := by
  have hlt : v.toNat < 2048 := v.isLt
  rw [Ne, ← BitVec.toNat_inj]
  change v.toNat ≠ 2047 ↔ v.toNat ≤ 2046
  omega

section

variable {b : BitVec Format.binary64.numBits}

/-- What is unpacked is finite unless all bits of its exponent are set. -/
theorem isFinite_unpack_iff :
    (UnpackedFloat.unpack .binary64 b).isFinite = true ↔ (unpackExponent b).toNat ≤ 2046 := by
  rw [UnpackedFloat.unpack, ← exponent_ne_iff]
  by_cases hexp : unpackExponent b = -1#_
  · simp only [hexp, if_true]
    split <;> exact iff_of_false Bool.false_ne_true (not_not_intro rfl)
  · simp only [hexp, if_false]
    split
    · split <;> exact iff_of_true rfl hexp
    · exact iff_of_true rfl hexp

theorem inRange_unpack_iff :
    InRange (UnpackedFloat.unpack .binary64 b) ↔
      (UnpackedFloat.unpack .binary64 b).isFinite = true := by
  rw [isFinite_unpack_iff, UnpackedFloat.unpack]
  by_cases hexp : unpackExponent b = -1#_
  · rw [if_pos hexp, ← exponent_ne_iff]
    split <;> exact iff_of_false id (not_not_intro hexp)
  · have hle := (exponent_ne_iff _).mp hexp
    rw [if_neg hexp]
    split
    · next hzero =>
        split
        · exact iff_of_true trivial hle
        · -- a subnormal number has the exponent of the least normal one
          refine iff_of_true ?_ hle
          rw [hzero]
          change ((0 : ℕ) : ℤ) - (1023 + 52) + 1 ≤ 971
          norm_num
    · refine iff_of_true ?_ hle
      change ((unpackExponent b).toNat : ℤ) - (1023 + 52) ≤ 971
      generalize (unpackExponent b).toNat = k at hle ⊢
      omega

end

/-- What is packed is finite exactly if it is in range. -/
theorem isFinite_pack_iff (u : UnpackedFloat) :
    (Float.Model.pack u).isFinite = true ↔ InRange u := by
  change (UnpackedFloat.unpack .binary64 (UnpackedFloat.pack .binary64 u)).isFinite = true ↔ _
  rw [isFinite_unpack_iff]
  cases u with
  | infinity s => simp [UnpackedFloat.pack, packedInfinity, InRange]
  | notANumber => simp [UnpackedFloat.pack, packedNaN, InRange]
  | zero s => simp [UnpackedFloat.pack, packedZero, InRange]
  | finite s m e hm =>
      have hbias : e + (Format.binary64.exponentBias : ℤ) +
          (Format.binary64.mantissaBitsWithoutImplicit : ℤ) = e + 1075 := by
        rw [add_assoc]
        rfl
      simp only [UnpackedFloat.pack, InRange, hbias]
      change (unpackExponent (if 2048 ≤ _ then _ else _)).toNat ≤ 2046 ↔ _
      split
      · simp only [packedInfinity, unpackExponent_packComponents]
        change 2047 ≤ 2046 ↔ _
        omega
      · split <;> simp only [unpackExponent_packComponents]
        · rw [BitVec.toNat_ofNat]
          change _ % 2048 ≤ 2046 ↔ _
          omega
        · change 0 ≤ 2046 ↔ _
          omega

theorem isFinite_neg (x : Float) : (-x).isFinite = x.isFinite := by
  rw [Bool.eq_iff_iff]
  change (Float.Model.pack x.toModel.unpack.neg).isFinite = true ↔ x.toModel.isFinite = true
  have hunpack : InRange x.toModel.unpack ↔ x.toModel.isFinite = true := inRange_unpack_iff
  rw [isFinite_pack_iff, ← hunpack]
  cases x.toModel.unpack <;> rfl

/-- The absolute value of a double. -/
def size (x : Float) : ℚ :=
  magnitude x.toModel.unpack

/-- The quotient of two doubles is a finite one: the first is finite, and the second infinite or great
enough. A quotient by zero never is. -/
def QuotientInRange (x y : Float) : Prop :=
  x.isFinite = true ∧ (y.isInf = true ∨ y.isFinite = true ∧ size x < overflow * size y)

theorem isFinite_div_iff {x y : Float} : (x / y).isFinite = true ↔ QuotientInRange x y := by
  change (Float.Model.pack (div .binary64 x.toModel.unpack y.toModel.unpack)).isFinite = true ↔
    x.toModel.unpack.isFinite = true ∧
      (y.toModel.unpack.isInf = true ∨ y.toModel.unpack.isFinite = true ∧ _)
  rw [isFinite_pack_iff, size, size]
  -- only two numbers that are neither zero nor infinite are divided by rounding
  have hpos := one_pos.trans one_lt_overflow
  cases x.toModel.unpack with
  | infinity s => cases y.toModel.unpack <;> simp [UnpackedFloat.div, InRange, isFinite]
  | notANumber => cases y.toModel.unpack <;> simp [UnpackedFloat.div, InRange, isFinite]
  | zero s =>
      cases y.toModel.unpack with
      | finite s' n f hn =>
          have hsize : (0 : ℚ) < n * 2 ^ f := by positivity
          simpa [UnpackedFloat.div, InRange, isFinite, isInf, magnitude] using mul_pos hpos hsize
      | _ => simp [UnpackedFloat.div, InRange, isFinite, isInf, magnitude]
  | finite s m e hm =>
      have hsize : (0 : ℚ) ≤ m * 2 ^ e := by positivity
      cases y.toModel.unpack with
      | finite s' n f hn =>
          have hsize' : (0 : ℚ) < n * 2 ^ f := by positivity
          rw [inRange_div_finite, div_lt_iff₀ hsize']
          simp [isFinite, isInf, magnitude]
      | _ => simp [UnpackedFloat.div, InRange, isFinite, isInf, magnitude, hsize]

end MediaPipeline.Binary64
