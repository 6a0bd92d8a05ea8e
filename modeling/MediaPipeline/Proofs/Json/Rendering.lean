import Mathlib.Data.List.Forall2
import MediaPipeline.Proofs.Json.Scanning

/-!
The texts of a document. A tree can be spelled in many ways: with white space around each lexeme,
and with the digits of a code unit in either case. `Rendered` is this grammar, and whatever it
derives is read as the tree it was derived for.
-/

namespace MediaPipeline.Json

/-! ### Grammar -/

/-- White space alone. -/
def Blank (cs : List Char) : Prop :=
  ∀ c ∈ cs, isBlank c

/-- The characters spell a unit of a text. -/
inductive TextUnit.Rendered : TextUnit → List Char → Prop
  | plain {c : Char} : c ≠ '"' → c ≠ '\\' → 0x20 ≤ c.toNat → Rendered (.plain c) [c]
  | escape {letter : Char} : (unescape? letter).isSome → Rendered (.escape letter) ['\\', letter]
  | code {a b c d : Char} {i j k l : Nat} : hexValue? a = some i → hexValue? b = some j →
    hexValue? c = some k → hexValue? d = some l →
    Rendered (.code (16 * (16 * (16 * i + j) + k) + l)) ['\\', 'u', a, b, c, d]

/-- The characters spell a text in quotes. -/
inductive Spelling.Rendered : Spelling → List Char → Prop
  | quoted {units : List TextUnit} {css : List (List Char)} :
    List.Forall₂ TextUnit.Rendered units css →
    Rendered ⟨units, .quote⟩ ('"' :: (css.flatten ++ ['"']))

/-- The characters spell a part of a document, with white space between the lexemes. What is left of
a list or an object is spelled with the comma in front, and the first item or member stands behind a
bracket as any other one stands behind its comma. -/
inductive Rendered : {part : Part} → Json part → List Char → Prop
  | blank {part : Part} {v : Json part} {c : Char} {cs : List Char} : isBlank c → Rendered v cs →
    Rendered v (c :: cs)
  | null : Rendered .null ['n', 'u', 'l', 'l']
  | true : Rendered (.boolean true) ['t', 'r', 'u', 'e']
  | false : Rendered (.boolean false) ['f', 'a', 'l', 's', 'e']
  | number {numeral : List Char} : isNumeral numeral = true → Rendered (.number numeral) numeral
  | text {spelling : Spelling} {cs : List Char} : spelling.Rendered cs →
    Rendered (.text spelling) cs
  | emptyList {cs : List Char} : Rendered (.endList .closed) cs →
    Rendered (.list (.endList .closed)) ('[' :: cs)
  | list {v : Value} {rest : Items} {cs : List Char} : Rendered (.item v rest) (',' :: cs) →
    Rendered (.list (.item v rest)) ('[' :: cs)
  | emptyObject {cs : List Char} : Rendered (.endObject .closed) cs →
    Rendered (.object (.endObject .closed)) ('{' :: cs)
  | object {key : Spelling} {v : Value} {rest : Members} {cs : List Char} :
    Rendered (.member key v rest) (',' :: cs) → Rendered (.object (.member key v rest)) ('{' :: cs)
  | endList : Rendered (.endList .closed) [']']
  | item {v : Value} {rest : Items} {cs ds : List Char} : Rendered v cs → Rendered rest ds →
    Rendered (.item v rest) (',' :: (cs ++ ds))
  | endObject : Rendered (.endObject .closed) ['}']
  | member {key : Spelling} {v : Value} {rest : Members} {before after ks cs ds : List Char} :
    Blank before → key.Rendered ks → Blank after → Rendered v cs → Rendered rest ds →
    Rendered (.member key v rest) (',' :: (before ++ ks ++ after ++ ':' :: (cs ++ ds)))

/-- The text is a document that holds a value, with white space before and behind. -/
def Document (v : Value) (text : String) : Prop :=
  ∃ cs ds, Rendered v cs ∧ Blank ds ∧ text.toList = cs ++ ds

/-! ### Lexemes -/

namespace Token

theorem start_of_blank {c : Char} (h : isBlank c) (rest : Mode → List Token) :
    start c rest = rest .between := by
  rcases h with rfl | rfl | rfl | rfl <;> rfl

theorem scan_blank {cs : List Char} (h : Blank cs) (rest : List Char) :
    scan .between (cs ++ rest) = scan .between rest := by
  induction cs with
  | nil => rfl
  | cons c cs ih =>
      obtain ⟨hc, hcs⟩ := List.forall_mem_cons.mp h
      rw [List.cons_append, scan, start_of_blank hc]
      exact ih hcs

theorem scan_unit {units : List TextUnit} {u : TextUnit} {cs : List Char} (h : u.Rendered cs)
    (rest : List Char) :
    scan (.text units) (cs ++ rest) = scan (.text (u :: units)) rest := by
  cases h with
  | plain hquote hbackslash hle => simp [scan, hquote, hbackslash, Nat.not_lt.mpr hle]
  | @escape letter hletter =>
      have hu : letter ≠ 'u' := by
        rintro rfl
        cases hletter
      simp [scan, hu, hletter]
  | code ha hb hc hd => simp [scan, ha, hb, hc, hd]

theorem scan_spelling {s : Spelling} {cs : List Char} (h : s.Rendered cs) (rest : List Char) :
    scan .between (cs ++ rest) = .text s :: scan .between rest := by
  obtain ⟨hunits⟩ := h
  -- The scanner holds the units seen so far in reverse.
  have hscan : ∀ seen, ∀ {us css}, List.Forall₂ TextUnit.Rendered us css →
      scan (.text seen) (css.flatten ++ '"' :: rest) =
        .text ⟨seen.reverse ++ us, .quote⟩ :: scan .between rest := by
    intro seen us css h
    induction h generalizing seen with
    | nil => simp [scan, ofText]
    | cons hu _ ih => simp [scan_unit hu, ih]
  have hall := hscan [] hunits
  simpa [scan, start] using hall

end Token

/-! ### Trees -/

theorem Rendered.delimited_items {is : Items} {cs : List Char} (h : Rendered is cs)
    (rest : List Char) : Delimited (cs ++ rest) := by
  cases h with
  | blank hc _ => simp [Delimited, hc]
  | endList => simp [Delimited]
  | item _ _ => simp [Delimited]

theorem Rendered.delimited_members {ms : Members} {cs : List Char} (h : Rendered ms cs)
    (rest : List Char) : Delimited (cs ++ rest) := by
  cases h with
  | blank hc _ => simp [Delimited, hc]
  | endObject => simp [Delimited]
  | member _ _ _ _ _ => simp [Delimited]

/-- What is derived is scanned into the tokens of the tree. -/
theorem Rendered.scan {part : Part} {v : Json part} {cs : List Char} (h : Rendered v cs)
    {rest : List Char} (hr : Delimited rest) :
    Token.scan .between (cs ++ rest) = v.tokens ++ Token.scan .between rest := by
  induction h generalizing rest with
  | blank hc _ ih =>
      rw [List.cons_append, Token.scan, Token.start_of_blank hc]
      exact ih hr
  | null | true | false | endList | endObject => rfl
  | number h => exact Token.scan_numeral h hr
  | text h => exact Token.scan_spelling h rest
  | emptyList _ ih => exact congrArg (Token.openBracket :: ·) (ih hr)
  | emptyObject _ ih => exact congrArg (Token.openBrace :: ·) (ih hr)
  -- A bracket stands where the item inside has its comma, and both are followed by the same.
  | list _ ih => exact congrArg (Token.openBracket :: ·) (List.cons.inj (ih hr)).2
  | object _ ih => exact congrArg (Token.openBrace :: ·) (List.cons.inj (ih hr)).2
  | item _ hrest ihv ihrest =>
      have hscan := ihv (hrest.delimited_items rest)
      rw [ihrest hr] at hscan
      rw [tokens]
      simp only [List.cons_append, List.append_assoc]
      exact congrArg (Token.comma :: ·) hscan
  | member hbefore hkey hafter _ hrest ihv ihrest =>
      have hscan := ihv (hrest.delimited_members rest)
      rw [ihrest hr] at hscan
      rw [tokens]
      simp only [List.cons_append, List.append_assoc]
      refine congrArg (Token.comma :: ·) ((Token.scan_blank hbefore _).trans ?_)
      rw [Token.scan_spelling hkey, Token.scan_blank hafter]
      exact congrArg (Token.text _ :: Token.colon :: ·) hscan

theorem Spelling.Rendered.ending {s : Spelling} {cs : List Char} (h : s.Rendered cs) :
    s.ending = .quote := by
  cases h
  rfl

theorem Rendered.sound {part : Part} {v : Json part} {cs : List Char} (h : Rendered v cs) :
    v.Sound := by
  induction h with
  | blank _ _ ih => exact ih
  | null => exact .null
  | true => exact .boolean _
  | false => exact .boolean _
  | number h => exact .number h
  | text h => exact .text h.ending
  | emptyList _ ih => exact .list ih
  | list _ ih => exact .list ih
  | emptyObject _ ih => exact .object ih
  | object _ ih => exact .object ih
  | endList => exact .endList
  | item _ _ ihv ihrest => exact .item ihv ihrest
  | endObject => exact .endObject
  | member _ hkey _ _ _ ihv ihrest => exact .member hkey.ending ihv ihrest

/-! ### What is written -/

theorem Written.ne_unnamed {ms : Members} (h : ms.Written) : ms ≠ .unnamed := by
  rintro rfl
  cases h

theorem TextUnit.rendered_ofChar (c : Char) : (ofChar c).Rendered (ofChar c).print := by
  obtain ⟨hc, hquote, hbackslash, hle⟩ | ⟨letter, hc, -, hletter, -⟩ | ⟨hc, hlt⟩ := ofChar_cases c
  · rw [hc]
    exact .plain hquote hbackslash hle
  · rw [hc]
    exact .escape (Option.isSome_of_eq_some hletter)
  · have hhex : ∀ m, hexValue? (hexDigit (m % 16)) = some (m % 16) := fun m =>
      hexValue?_hexDigit (Nat.mod_lt m (by decide))
    have hsum : 16 * (16 * (16 * (c.toNat / 4096 % 16) + c.toNat / 256 % 16) +
        c.toNat / 16 % 16) + c.toNat % 16 = c.toNat := by
      omega
    have hcode := Rendered.code (hhex (c.toNat / 4096)) (hhex (c.toNat / 256))
      (hhex (c.toNat / 16)) (hhex c.toNat)
    rw [hsum] at hcode
    rwa [hc]

theorem Spelling.rendered_ofString (s : String) : (ofString s).Rendered (ofString s).print := by
  have hunits : List.Forall₂ TextUnit.Rendered (s.toList.map .ofChar)
      (s.toList.map fun c => (TextUnit.ofChar c).print) := by
    rw [List.forall₂_map_left_iff, List.forall₂_map_right_iff, List.forall₂_same]
    exact fun c _ => TextUnit.rendered_ofChar c
  have hquoted := Rendered.quoted hunits
  simpa [print, ofString, List.flatMap_def, Function.comp_def] using hquoted

theorem Written.rendered {part : Part} {v : Json part} (h : v.Written) :
    Rendered v v.following := by
  induction h with
  | null => exact .null
  | boolean b =>
      cases b with
      | false => exact .false
      | true => exact .true
  | number h => exact .number h
  | text s => exact .text (Spelling.rendered_ofString s)
  | list h ih =>
      cases h with
      | endList => exact .emptyList ih
      | item _ _ => exact .list ih
  | object h ih =>
      cases h with
      | endObject => exact .emptyObject ih
      | member _ _ _ => exact .object ih
  | endList => exact .endList
  | item _ _ ihv ihrest =>
      rw [following_value] at ihv
      rw [following, print_item]
      exact .item ihv ihrest
  | endObject => exact .endObject
  | member key _ hrest ihv ihrest =>
      rw [following_value] at ihv
      rw [following, print_member _ _ hrest.ne_unnamed]
      have hblank : Blank [] := by simp [Blank]
      simpa using Rendered.member hblank (Spelling.rendered_ofString key) hblank ihv ihrest

/-- The text of a written value is a document that holds it. -/
theorem Written.document {v : Value} (h : v.Written) : Document v v.toText := by
  have hrendered := h.rendered
  rw [following_value] at hrendered
  exact ⟨v.print, [], hrendered, nofun, by rw [toText, String.toList_ofList, List.append_nil]⟩

end MediaPipeline.Json
