import MediaPipeline.Proofs.Decimal.Digits
import MediaPipeline.Proofs.Json.Texts

/-!
Scanning undoes printing. The tokens of a tree are what its print is scanned into, whatever comes
behind it, as long as a numeral is not run into it.
-/

namespace MediaPipeline.Json

/-! ### Texts -/

theorem readUnits_ofChar (cs : List Char) :
    readUnits .quote (cs.map TextUnit.ofChar) = .ok cs := by
  induction cs with
  | nil => rfl
  | cons c cs ih =>
      rw [List.map_cons]
      obtain ⟨hc, -⟩ | ⟨letter, hc, -, hletter, -⟩ | ⟨hc, hlt⟩ := TextUnit.ofChar_cases c
      · rw [hc, readUnits, ih]
        rfl
      · rw [hc, readUnits, ih, hletter]
        rfl
      · have hlow : isLowSurrogate c.toNat = false := by
          simp only [isLowSurrogate, Bool.and_eq_false_iff, decide_eq_false_iff_not]
          omega
        have hhigh : isHighSurrogate c.toNat = false := by
          simp only [isHighSurrogate, Bool.and_eq_false_iff, decide_eq_false_iff_not]
          omega
        rw [hc, readUnits.eq_def]
        simp only [hlow, hhigh, ih, Char.ofNat_toNat]
        rfl

/-- A text is read back from its spelling. -/
@[simp] theorem Spelling.read_ofString (s : String) : (Spelling.ofString s).read = .ok s := by
  simp only [read, ofString, readUnits_ofChar]
  exact congrArg Except.ok String.ofList_toList

theorem hexValue?_hexDigit {d : Nat} (hd : d < 16) : hexValue? (hexDigit d) = some d := by
  interval_cases d <;> rfl

/-! ### Numerals -/

namespace NumeralState

/-- What has been seen of a numeral after its first character. -/
def first? (c : Char) : Option NumeralState :=
  if c = '-' then some .sign
  else if c = '0' then some .zero
  else if '1' ≤ c ∧ c ≤ '9' then some .whole
  else none

/-- What has been seen of a numeral after some more characters, if they belong to it. -/
def follow? (s : NumeralState) : List Char → Option NumeralState
  | [] => some s
  | c :: cs => match s.step c with
    | .more s => s.follow? cs
    | .stop | .fault => none

theorem follow?_append (s : NumeralState) (cs ds : List Char) :
    s.follow? (cs ++ ds) = (s.follow? cs).bind fun s => s.follow? ds := by
  induction cs generalizing s with
  | nil => rfl
  | cons c cs ih =>
      simp only [List.cons_append, follow?]
      cases s.step c with
      | more s => exact ih s
      | stop | fault => rfl

end NumeralState

/-- The characters are a whole numeral. -/
def isNumeral : List Char → Bool
  | [] => false
  | c :: cs => ((NumeralState.first? c).bind fun s => s.follow? cs).any NumeralState.isFinal

/-- White space between lexemes. -/
def isBlank (c : Char) : Prop :=
  c = ' ' ∨ c = '\t' ∨ c = '\n' ∨ c = '\r'

/-- No numeral goes on with what comes here: it is nothing, white space, or what stands behind a
value. -/
def Delimited (rest : List Char) : Prop :=
  ∀ c ∈ rest.head?, (c = ',' ∨ c = ']' ∨ c = '}') ∨ isBlank c

theorem NumeralState.step_of_delimiter {s : NumeralState} (hs : s.isFinal = true) {c : Char}
    (hc : (c = ',' ∨ c = ']' ∨ c = '}') ∨ isBlank c) : s.step c = .stop := by
  rcases hc with (rfl | rfl | rfl) | (rfl | rfl | rfl | rfl) <;> cases s <;>
    first | rfl | cases hs

namespace Token

theorem start_of_first? {c : Char} {s : NumeralState} (h : NumeralState.first? c = some s)
    (rest : Mode → List Token) : start c rest = rest (.numeral [c] s) := by
  unfold NumeralState.first? at h
  split at h
  · next hc =>
      cases h
      rw [hc]
      rfl
  split at h
  · next hc =>
      cases h
      rw [hc]
      rfl
  split at h
  · next hc =>
      cases h
      unfold start
      split <;> simp_all
  · cases h

theorem scan_numeral {text rest : List Char} (h : isNumeral text = true) (hr : Delimited rest) :
    scan .between (text ++ rest) = .number text :: scan .between rest := by
  -- The scanner keeps what it has seen reversed, so this goes over what is left of the numeral.
  have hfollow : ∀ (cs seen : List Char) (s : NumeralState),
      (s.follow? cs).any NumeralState.isFinal = true →
      scan (.numeral seen s) (cs ++ rest) = .number (seen.reverse ++ cs) :: scan .between rest := by
    intro cs
    induction cs with
    | nil =>
        intro seen s hs
        cases rest with
        | nil => simp_all [scan, NumeralState.follow?]
        | cons c rest =>
            have hstop := NumeralState.step_of_delimiter hs (hr c rfl)
            simp [scan, hstop]
    | cons c cs ih =>
        intro seen s hs
        rw [List.cons_append, scan]
        rw [NumeralState.follow?] at hs
        cases hstep : s.step c with
        | more s =>
            rw [hstep] at hs
            simp [ih (c :: seen) s hs]
        | stop | fault => simp [hstep] at hs
  cases text with
  | nil => cases h
  | cons c cs =>
      rw [isNumeral] at h
      cases hfirst : NumeralState.first? c with
      | none => simp [hfirst] at h
      | some s =>
          rw [hfirst] at h
          rw [List.cons_append, scan, start_of_first? hfirst, hfollow cs [c] s h]
          rfl

end Token

/-- A natural number is written as a numeral: its digits begin with zero only if it is zero. -/
theorem isNumeral_toDigits (n : Nat) : isNumeral (Nat.toDigits 10 n) = true := by
  have hwhole : 0 < n → ∃ c cs, Nat.toDigits 10 n = c :: cs ∧
      NumeralState.first? c = some .whole ∧ NumeralState.whole.follow? cs = some .whole := by
    induction n using Decimal.toDigits_induction with
    | digit d hd =>
        intro hpos
        interval_cases d <;> exact ⟨_, [], rfl, rfl, rfl⟩
    | append n d hpos hd ih =>
        intro _
        obtain ⟨c, cs, hcs, hfirst, hfollow⟩ := ih hpos
        refine ⟨c, cs ++ [Nat.digitChar d], by rw [hcs, List.cons_append], hfirst, ?_⟩
        rw [NumeralState.follow?_append, hfollow]
        interval_cases d <;> rfl
  cases n with
  | zero => rfl
  | succ n =>
      obtain ⟨c, cs, hcs, hfirst, hfollow⟩ := hwhole (Nat.succ_pos n)
      simp [hcs, isNumeral, hfirst, hfollow, NumeralState.isFinal]

/-! ### Trees -/

/-- A tree as it is written: nothing is damaged, and texts are spelled the one way. -/
inductive Written : {part : Part} → Json part → Prop
  | null : Written .null
  | boolean (b : Bool) : Written (.boolean b)
  | number {numeral : List Char} : isNumeral numeral = true → Written (.number numeral)
  | text (s : String) : Written (.text (.ofString s))
  | list {items : Items} : Written items → Written (.list items)
  | object {members : Members} : Written members → Written (.object members)
  | endList : Written (.endList .closed)
  | item {v : Value} {rest : Items} : Written v → Written rest → Written (.item v rest)
  | endObject : Written (.endObject .closed)
  | member {v : Value} {rest : Members} (key : String) : Written v → Written rest →
    Written (.member (.ofString key) v rest)

/-- A tree without damage. -/
inductive Sound : {part : Part} → Json part → Prop
  | null : Sound .null
  | boolean (b : Bool) : Sound (.boolean b)
  | number {numeral : List Char} : isNumeral numeral = true → Sound (.number numeral)
  | text {spelling : Spelling} : spelling.ending = .quote → Sound (.text spelling)
  | list {items : Items} : Sound items → Sound (.list items)
  | object {members : Members} : Sound members → Sound (.object members)
  | endList : Sound (.endList .closed)
  | item {v : Value} {rest : Items} : Sound v → Sound rest → Sound (.item v rest)
  | endObject : Sound (.endObject .closed)
  | member {key : Spelling} {v : Value} {rest : Members} : key.ending = .quote → Sound v →
    Sound rest → Sound (.member key v rest)

/-- The tokens of a tree, those of what is left of a list or an object with the comma in front. -/
def tokens : {part : Part} → Json part → List Token
  | _, .null => [.null]
  | _, .boolean b => [.boolean b]
  | _, .number numeral => [.number numeral]
  | _, .text spelling => [.text spelling]
  | _, .list (.item v rest) => .openBracket :: (v.tokens ++ rest.tokens)
  | _, .list (.endList _) => [.openBracket, .closeBracket]
  | _, .object (.member key v rest) =>
    .openBrace :: .text key :: .colon :: (v.tokens ++ rest.tokens)
  | _, .object _ => [.openBrace, .closeBrace]
  | _, .broken .. => []
  | _, .endList _ => [.closeBracket]
  | _, .item v rest => .comma :: (v.tokens ++ rest.tokens)
  | _, .endObject _ | _, .unnamed => [.closeBrace]
  | _, .member key v rest => .comma :: .text key :: .colon :: (v.tokens ++ rest.tokens)

end MediaPipeline.Json
