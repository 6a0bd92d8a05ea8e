import MediaPipeline.Proofs.Decimal.Counting
import MediaPipeline.Proofs.Float.Range

/-!
Floating-point numbers from text. A text is read if it is a decimal numeral, as the double nearest to
its value, or if it is one of the words for infinity and for what is not a number. So it is read as a
finite number exactly if it is a numeral of a value in range.
-/

namespace MediaPipeline.Decimal

/-! ### Numerals -/

/-- A text after its sign, whether that is a minus sign, and the text. -/
inductive Signed (rest : List Char) : Bool → List Char → Prop where
  | bare : Signed rest false rest
  | plus : Signed rest false ('+' :: rest)
  | minus : Signed rest true ('-' :: rest)

/-- Digits with at most one point among them, the number without the point, and how many digits come after
the point. -/
inductive Significand : List Char → Nat → Nat → Prop where
  | whole {digits : List Char} {n : Nat} (h : Figures digits n) : Significand digits n 0
  | pointed {digits fraction : List Char} {n : Nat} (h : Figures (digits ++ fraction) n) :
      Significand (digits ++ '.' :: fraction) n fraction.length

/-- The exponent at the end of a numeral. -/
inductive Exponent : List Char → ℤ → Prop where
  | absent : Exponent [] 0
  | marked {mark : Char} {digits rest : List Char} {negative : Bool} {n : Nat}
      (hmark : mark = 'e' ∨ mark = 'E') (hsign : Signed digits negative rest) (h : Figures digits n) :
      Exponent (mark :: rest) (if negative then -n else n)

/-- The text is a decimal numeral of a value. -/
inductive Denotes : List Char → ℚ → Prop where
  | numeral {text significand rest : List Char} {negative : Bool} {n places : Nat} {e : ℤ}
      (hsign : Signed (significand ++ rest) negative text) (hdigits : Significand significand n places)
      (hexponent : Exponent rest e) :
      Denotes text ((if negative then -1 else 1) * (n * 10 ^ (e - places)))

/-- The text is a word, in letters of either case, with or without a sign. -/
def Says (text : List Char) (word : String) : Prop :=
  ∃ rest negative, Signed rest negative text ∧ String.ofList (rest.map lowerAscii) = word

/-! ### Reading -/

theorem Signed.splitSign (text : List Char) : Signed (splitSign text).2 (splitSign text).1 text := by
  unfold Decimal.splitSign
  split
  · exact .plus
  · exact .minus
  · exact .bare

/-- A text is split after its sign if no other sign follows. -/
theorem Signed.splitSign_eq {text rest : List Char} {negative : Bool} (h : Signed rest negative text)
    (hrest : ∀ c ∈ rest.head?, c ≠ '+' ∧ c ≠ '-') : Decimal.splitSign text = (negative, rest) := by
  cases h with
  | plus => rfl
  | minus => rfl
  | bare =>
      unfold Decimal.splitSign
      split
      · exact absurd rfl (hrest _ rfl).1
      · exact absurd rfl (hrest _ rfl).2
      · rfl

theorem ne_sign_of_isDigit {c : Char} (h : isDigit c = true) : c ≠ '+' ∧ c ≠ '-' := by
  constructor <;> rintro rfl <;> cases h

theorem Figures.splitSign_eq {text digits : List Char} {negative : Bool} {n : Nat}
    (h : Figures digits n) (hsign : Signed digits negative text) :
    Decimal.splitSign text = (negative, digits) := by
  obtain ⟨-, hall, -⟩ := figures_iff.mp h
  refine hsign.splitSign_eq fun c hc => ne_sign_of_isDigit ?_
  exact List.all_eq_true.mp hall c (List.mem_of_mem_head? hc)

theorem exponent?_eq_some_iff {text : List Char} {e : ℤ} :
    exponent? text = some e ↔ Exponent text e := by
  constructor
  · intro h
    unfold exponent? at h
    split at h
    · cases h
      exact .absent
    · next mark rest =>
        rw [Option.ite_none_right_eq_some] at h
        obtain ⟨⟨hmark, hne, hall⟩, h⟩ := h
        cases h
        exact .marked hmark (Signed.splitSign rest) (figures_iff.mpr ⟨hne, hall, rfl⟩)
  · intro h
    cases h with
    | absent => rfl
    | marked hmark hsign hfigures =>
        rw [exponent?, hfigures.splitSign_eq hsign]
        obtain ⟨hne, hall, rfl⟩ := figures_iff.mp hfigures
        exact if_pos ⟨hmark, hne, hall⟩

section

variable {digits fraction after : List Char}

/-- Digits are cut off where they end. -/
theorem cut_digits (hall : digits.all isDigit = true)
    (hafter : ∀ c ∈ after.head?, isDigit c = false) :
    (digits ++ after).takeWhile isDigit = digits ∧ (digits ++ after).dropWhile isDigit = after := by
  have hdigit := List.all_eq_true.mp hall
  rw [List.takeWhile_append_of_pos hdigit, List.dropWhile_append_of_pos hdigit]
  cases after with
  | nil => simp
  | cons c cs =>
      have hc := hafter c rfl
      simp [hc]

theorem exists_digits (text : List Char) : ∃ digits after, text = digits ++ after ∧
    digits.all isDigit = true ∧ ∀ c ∈ after.head?, isDigit c = false := by
  refine ⟨_, _, List.takeWhile_append_dropWhile.symm, List.all_takeWhile, ?_⟩
  intro c hc
  have hstop := List.head?_dropWhile_not isDigit text
  rw [Option.mem_def.mp hc] at hstop
  exact hstop

/-- A number without a point. -/
theorem magnitude?_whole (hall : digits.all isDigit = true)
    (hafter : ∀ c ∈ after.head?, isDigit c = false) (hpoint : ∀ rest, after ≠ '.' :: rest) :
    magnitude? (digits ++ after) =
      if digits = [] then none else (exponent? after).map fun e => nearest (value digits) e := by
  obtain ⟨htake, hdrop⟩ := cut_digits hall hafter
  unfold magnitude?
  rw [htake, hdrop]
  dsimp only
  split
  · next rest => exact absurd rfl (hpoint rest)
  · simp [accumulate]

/-- A number with a point. -/
theorem magnitude?_pointed (hall : digits.all isDigit = true) (hall' : fraction.all isDigit = true)
    (hafter : ∀ c ∈ after.head?, isDigit c = false) :
    magnitude? (digits ++ '.' :: (fraction ++ after)) =
      if digits ++ fraction = [] then none
      else (exponent? after).map fun e => nearest (value (digits ++ fraction)) (e - fraction.length) := by
  have hpoint : ∀ c ∈ ('.' :: (fraction ++ after)).head?, isDigit c = false := by
    rintro c ⟨⟩
    rfl
  obtain ⟨htake, hdrop⟩ := cut_digits hall hpoint
  obtain ⟨htake', hdrop'⟩ := cut_digits hall' hafter
  have hvalue : accumulate (value digits) fraction = value (digits ++ fraction) := by
    rw [value, value, accumulate, accumulate, accumulate, List.foldl_append]
  unfold magnitude?
  rw [htake, hdrop]
  simp only [htake', hdrop', hvalue, List.append_eq_nil_iff]

end

/-- An exponent begins with neither a digit nor a point. -/
theorem Exponent.head {text : List Char} {e : ℤ} (h : Exponent text e) :
    (∀ c ∈ text.head?, isDigit c = false) ∧ ∀ rest, text ≠ '.' :: rest := by
  cases h with
  | absent => exact ⟨nofun, nofun⟩
  | marked hmark hsign hfigures =>
      obtain rfl | rfl := hmark
      · exact ⟨by rintro c ⟨⟩; rfl, nofun⟩
      · exact ⟨by rintro c ⟨⟩; rfl, nofun⟩

theorem magnitude?_eq_some_iff {text : List Char} {x : Float} :
    magnitude? text = some x ↔ ∃ significand rest n places e, text = significand ++ rest ∧
      Significand significand n places ∧ Exponent rest e ∧ nearest n (e - places) = x := by
  constructor
  · intro h
    -- the text is cut behind its digits, and behind those after a point
    obtain ⟨digits, after, rfl, hall, hafter⟩ := exists_digits text
    by_cases hpoint : ∃ rest, after = '.' :: rest
    · obtain ⟨rest, rfl⟩ := hpoint
      obtain ⟨fraction, after, rfl, hall', hafter'⟩ := exists_digits rest
      rw [magnitude?_pointed hall hall' hafter', Option.ite_none_left_eq_some, Option.map_eq_some_iff] at h
      obtain ⟨hne, e, he, rfl⟩ := h
      have hfigures : Figures (digits ++ fraction) _ :=
        figures_iff.mpr ⟨hne, by rw [List.all_append, hall, hall', Bool.and_true], rfl⟩
      exact ⟨_, after, _, _, e, by simp, .pointed hfigures, exponent?_eq_some_iff.mp he, rfl⟩
    · rw [magnitude?_whole hall hafter fun rest h => hpoint ⟨rest, h⟩, Option.ite_none_left_eq_some,
        Option.map_eq_some_iff] at h
      obtain ⟨hne, e, he, rfl⟩ := h
      have hfigures : Figures digits _ := figures_iff.mpr ⟨hne, hall, rfl⟩
      exact ⟨_, after, _, _, e, rfl, .whole hfigures, exponent?_eq_some_iff.mp he, by simp⟩
  · rintro ⟨significand, rest, n, places, e, rfl, hdigits, hexponent, rfl⟩
    obtain ⟨hafter, hpoint⟩ := hexponent.head
    have hread := exponent?_eq_some_iff.mpr hexponent
    cases hdigits with
    | whole hfigures =>
        obtain ⟨hne, hall, rfl⟩ := figures_iff.mp hfigures
        rw [magnitude?_whole hall hafter hpoint, if_neg hne, hread]
        simp
    | @pointed digits fraction n hfigures =>
        obtain ⟨hne, hall, rfl⟩ := figures_iff.mp hfigures
        rw [List.all_append, Bool.and_eq_true] at hall
        rw [List.append_assoc, List.cons_append, magnitude?_pointed hall.1 hall.2 hafter, if_neg hne,
          hread]
        rfl

/-! ### Finite numbers -/

open Binary64 (overflow)

/-- The text is a word for infinity or for what is not a number. -/
def Special (text : List Char) : Prop :=
  Says text "inf" ∨ Says text "infinity" ∨ Says text "nan"

theorem isFinite_nearest_iff (n : Nat) (e : ℤ) :
    (nearest n e).isFinite = true ↔ n * 10 ^ e < overflow :=
  (Binary64.isFinite_pack_iff _).trans (Binary64.inRange_ofScientific_iff n e)

theorem ne_sign_of_lowerAscii {c : Char} (h : lowerAscii c ≠ '+' ∧ lowerAscii c ≠ '-') :
    c ≠ '+' ∧ c ≠ '-' := by
  constructor <;> rintro rfl
  · exact h.1 rfl
  · exact h.2 rfl

theorem says_iff {text : List Char} {word : String}
    (hword : ∀ c ∈ word.toList.head?, c ≠ '+' ∧ c ≠ '-') :
    Says text word ↔ String.ofList ((splitSign text).2.map lowerAscii) = word := by
  constructor
  · rintro ⟨rest, negative, hsign, rfl⟩
    rw [hsign.splitSign_eq]
    intro c hc
    refine ne_sign_of_lowerAscii (hword _ ?_)
    rw [String.toList_ofList, List.head?_map, Option.mem_def.mp hc]
    rfl
  · intro h
    exact ⟨_, _, Signed.splitSign text, h⟩

theorem special_iff {text : List Char} :
    Special text ↔
      (String.ofList ((splitSign text).2.map lowerAscii) = "inf" ∨
        String.ofList ((splitSign text).2.map lowerAscii) = "infinity") ∨
      String.ofList ((splitSign text).2.map lowerAscii) = "nan" := by
  rw [Special, says_iff, says_iff, says_iff, or_assoc]
  all_goals
    rintro c ⟨⟩
    decide

/-- A significand begins with a digit or with the point. -/
theorem Significand.head {text : List Char} {n places : Nat} (h : Significand text n places) :
    ∃ c rest, text = c :: rest ∧ (isDigit c = true ∨ c = '.') := by
  cases h with
  | whole hfigures =>
      obtain ⟨hne, hall, -⟩ := figures_iff.mp hfigures
      obtain ⟨c, cs, rfl⟩ := List.exists_cons_of_ne_nil hne
      exact ⟨c, cs, rfl, .inl (List.all_eq_true.mp hall c List.mem_cons_self)⟩
  | @pointed digits fraction n hfigures =>
      obtain ⟨-, hall, -⟩ := figures_iff.mp hfigures
      obtain _ | ⟨c, cs⟩ := digits
      · exact ⟨'.', fraction, rfl, .inr rfl⟩
      · exact ⟨c, _, rfl, .inl (List.all_eq_true.mp hall c List.mem_cons_self)⟩

theorem isFinite_signed (negative : Bool) (x : Float) :
    (if negative then -x else x).isFinite = x.isFinite := by
  cases negative with
  | false => rfl
  | true => exact Binary64.isFinite_neg x

theorem float?_of_special {text : List Char} (h : Special text) :
    ∃ x, float? text = some x ∧ x.isFinite = false := by
  unfold float?
  rcases special_iff.mp h with hinf | hnan
  · simp only [hinf, if_true]
    exact ⟨_, rfl, (isFinite_signed _ _).trans (by decide)⟩
  · simp only [hnan]
    exact ⟨_, rfl, (isFinite_signed _ _).trans (by decide)⟩

theorem float?_of_not_special {text : List Char} (h : ¬ Special text) :
    float? text = (magnitude? (splitSign text).2).map fun x => if (splitSign text).1 then -x else x := by
  rw [special_iff, not_or] at h
  unfold float?
  simp only [h.1, h.2, if_false]

theorem lowerAscii_eq_self {c : Char} (h : isDigit c = true ∨ c = '.') : lowerAscii c = c := by
  refine if_neg fun hupper => ?_
  obtain hdigit | rfl := h
  · exact absurd (Char.le_trans hupper.1 (isDigit_iff.mp hdigit).2) (by decide)
  · exact absurd hupper.1 (by decide)

/-- No numeral is a word. -/
theorem Significand.not_special {text significand rest : List Char} {negative : Bool} {n places : Nat}
    (h : Significand significand n places) (hsign : Signed (significand ++ rest) negative text) :
    splitSign text = (negative, significand ++ rest) ∧ ¬ Special text := by
  obtain ⟨c, cs, rfl, hc⟩ := h.head
  have hsplit : splitSign text = (negative, c :: cs ++ rest) := by
    refine hsign.splitSign_eq ?_
    rintro _ ⟨⟩
    obtain hdigit | rfl := hc
    · exact ne_sign_of_isDigit hdigit
    · decide
  refine ⟨hsplit, ?_⟩
  rw [special_iff, hsplit, List.cons_append, List.map_cons, lowerAscii_eq_self hc]
  have hfirst : ∀ (word : String) (w : Char) (ws : List Char), word.toList = w :: ws →
      String.ofList (c :: (cs ++ rest).map lowerAscii) = word → c = w := by
    rintro _ w ws hword rfl
    rw [String.toList_ofList] at hword
    exact (List.cons.inj hword).1
  rintro ((hword | hword) | hword)
  · obtain rfl := hfirst _ 'i' _ rfl hword
    exact absurd hc (by decide)
  · obtain rfl := hfirst _ 'i' _ rfl hword
    exact absurd hc (by decide)
  · obtain rfl := hfirst _ 'n' _ rfl hword
    exact absurd hc (by decide)

theorem float?_of_denotes {text : List Char} {q : ℚ} (h : Denotes text q) :
    ∃ x, float? text = some x ∧ (x.isFinite = true ↔ |q| < overflow) := by
  cases h with
  | @numeral significand rest negative n places e hsign hdigits hexponent =>
      obtain ⟨hsplit, hspecial⟩ := hdigits.not_special hsign
      have hread := magnitude?_eq_some_iff.mpr ⟨_, _, _, _, _, rfl, hdigits, hexponent, rfl⟩
      have hunit : |(if negative then -1 else 1 : ℚ)| = 1 := by cases negative <;> simp
      rw [float?_of_not_special hspecial, hsplit, hread]
      refine ⟨_, rfl, ?_⟩
      rw [isFinite_signed, isFinite_nearest_iff, abs_mul, hunit, one_mul,
        abs_of_nonneg (by positivity)]

/-- What is read is a word or a numeral, and a finite number if it is a numeral of a value in range. -/
theorem float?_cases {text : List Char} {x : Float} (h : float? text = some x) :
    Special text ∧ x.isFinite = false ∨
      ∃ q, Denotes text q ∧ (x.isFinite = true ↔ |q| < overflow) := by
  by_cases hspecial : Special text
  · obtain ⟨y, hy, hnot⟩ := float?_of_special hspecial
    obtain rfl := Option.some.inj (h.symm.trans hy)
    exact .inl ⟨hspecial, hnot⟩
  · have hread := h
    rw [float?_of_not_special hspecial, Option.map_eq_some_iff] at hread
    obtain ⟨z, hz, -⟩ := hread
    obtain ⟨significand, rest, n, places, e, htext, hdigits, hexponent, -⟩ :=
      magnitude?_eq_some_iff.mp hz
    have hdenotes := Denotes.numeral (htext ▸ Signed.splitSign text) hdigits hexponent
    obtain ⟨y, hy, hfinite⟩ := float?_of_denotes hdenotes
    obtain rfl := Option.some.inj (h.symm.trans hy)
    exact .inr ⟨_, hdenotes, hfinite⟩

/-- The text is a numeral of a value in range. -/
def FiniteText (text : List Char) : Prop :=
  ∃ q, Denotes text q ∧ |q| < overflow

/-- The text is a word for what is not finite, or a numeral of a value out of range. -/
def NonFiniteText (text : List Char) : Prop :=
  Special text ∨ ∃ q, Denotes text q ∧ overflow ≤ |q|

theorem finiteText_iff {text : List Char} :
    FiniteText text ↔ ∃ x, float? text = some x ∧ x.isFinite = true := by
  constructor
  · rintro ⟨q, hq, hsmall⟩
    obtain ⟨x, hx, hfinite⟩ := float?_of_denotes hq
    exact ⟨x, hx, hfinite.mpr hsmall⟩
  · rintro ⟨x, hx, hfinite⟩
    obtain ⟨-, hnot⟩ | ⟨q, hq, hiff⟩ := float?_cases hx
    · exact absurd hfinite (Bool.eq_false_iff.mp hnot)
    · exact ⟨q, hq, hiff.mp hfinite⟩

theorem nonFiniteText_iff {text : List Char} :
    NonFiniteText text ↔ ∃ x, float? text = some x ∧ x.isFinite = false := by
  constructor
  · rintro (hspecial | ⟨q, hq, hlarge⟩)
    · exact float?_of_special hspecial
    · obtain ⟨x, hx, hfinite⟩ := float?_of_denotes hq
      exact ⟨x, hx, Bool.eq_false_iff.mpr fun h => hlarge.not_gt (hfinite.mp h)⟩
  · rintro ⟨x, hx, hnot⟩
    obtain ⟨hspecial, -⟩ | ⟨q, hq, hfinite⟩ := float?_cases hx
    · exact .inl hspecial
    · rw [Bool.eq_false_iff, Ne, hfinite, not_lt] at hnot
      exact .inr ⟨q, hq, hnot⟩

end MediaPipeline.Decimal
