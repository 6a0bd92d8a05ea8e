import MediaPipeline.Json.Tree

/-!
What a written document looks like. Texts stand in quotes, with no character escaped but quotes,
backslashes and control characters; lists stand in brackets and objects in braces, with commas
between their parts and no white space.
-/

namespace MediaPipeline.Json

/-! ### Escaping -/

/-- How a character is spelled: as itself, or escaped by a letter or by its number if it is a quote,
a backslash or a control character. -/
theorem TextUnit.ofChar_cases (c : Char) :
    (ofChar c = .plain c ∧ c ≠ '"' ∧ c ≠ '\\' ∧ 0x20 ≤ c.toNat) ∨
    (∃ letter, ofChar c = .escape letter ∧ letter ≠ 'u' ∧ unescape? letter = some c ∧
      (c = '"' ∨ c = '\\' ∨ c.toNat < 0x20)) ∨
    (ofChar c = .code c.toNat ∧ c.toNat < 0x20) := by
  unfold ofChar
  split
  case h_8 hquote hbackslash _ _ _ _ _ =>
    split
    · next h => exact .inr (.inr ⟨rfl, h⟩)
    · next h => exact .inl ⟨rfl, hquote, hbackslash, Nat.le_of_not_lt h⟩
  all_goals exact .inr (.inl ⟨_, rfl, by decide, rfl, by decide⟩)

/-- A character as it stands in a written text. -/
def escaped (c : Char) : String :=
  String.ofList (TextUnit.ofChar c).print

/-- Nothing is escaped but quotes, backslashes and control characters. -/
theorem escaped_eq_iff {c : Char} :
    escaped c = String.singleton c ↔ c ≠ '"' ∧ c ≠ '\\' ∧ 0x20 ≤ c.toNat := by
  rw [escaped, ← String.toList_inj, String.toList_ofList, String.toList_singleton]
  obtain ⟨hc, hquote, hbackslash, hle⟩ | ⟨letter, hc, -, -, hspecial⟩ | ⟨hc, hlt⟩ :=
    TextUnit.ofChar_cases c
  · simp [hc, TextUnit.print, hquote, hbackslash, hle]
  · rw [hc, TextUnit.print]
    refine iff_of_false (by simp) ?_
    rintro ⟨hquote, hbackslash, hle⟩
    exact hspecial.elim hquote fun h => h.elim hbackslash (Nat.not_lt.mpr hle)
  · rw [hc, TextUnit.print]
    exact iff_of_false (by simp) fun h => Nat.not_lt.mpr h.2.2 hlt

/-! ### Layout -/

/-- A text in quotes. -/
def quotedText (s : String) : String :=
  "\"" ++ String.join (s.toList.map escaped) ++ "\""

/-- A list of what is written already. -/
def listText (texts : List String) : String :=
  "[" ++ String.intercalate "," texts ++ "]"

/-- An object of what is written already. -/
def objectText (members : List (String × String)) : String :=
  "\x7b" ++ String.intercalate "," (members.map fun m => quotedText m.1 ++ ":" ++ m.2) ++ "\x7d"

theorem toList_quotedText (s : String) : (quotedText s).toList = (Spelling.ofString s).print := by
  simp [quotedText, String.toList_join, Spelling.print, Spelling.ofString, List.flatMap_map,
    escaped]

@[simp] theorem toText_ofString (s : String) : (ofString s).toText = quotedText s := by
  rw [← String.toList_inj, toText, String.toList_ofList, toList_quotedText, ofString, print]

@[simp] theorem toText_ofNat (n : Nat) : (ofNat n).toText = toString n :=
  String.ofList_toList

/-- The print of what is left of a list or an object behind a value, with the comma in front of it;
a value is printed as it is. -/
def following : {part : Part} → Json part → List Char
  | _, .item v rest => ',' :: (Json.item v rest).print
  | _, .member key v rest => ',' :: (Json.member key v rest).print
  | _, v => v.print

theorem following_value (v : Value) : v.following = v.print := by
  cases v <;> rfl

theorem print_item (v : Value) (rest : Items) :
    (Json.item v rest).print = v.print ++ rest.following := by
  cases rest <;> rfl

theorem print_member (key : Spelling) (v : Value) {rest : Members} (h : rest ≠ .unnamed) :
    (Json.member key v rest).print = key.print ++ ':' :: (v.print ++ rest.following) := by
  cases rest with
  | unnamed => exact absurd rfl h
  | endObject _ | member _ _ _ => simp [print, following]

@[simp] theorem toText_ofList (vs : List Value) :
    (ofList vs).toText = listText (vs.map toText) := by
  have hitems : ∀ v ws, ((v :: ws).foldr item (.endList .closed)).print =
      List.intercalate [','] ((v :: ws).map print) ++ [']'] := by
    intro v ws
    induction ws generalizing v with
    | nil => simp [print]
    | cons w ws ih =>
        have hw := ih w
        rw [List.foldr_cons] at hw
        rw [List.foldr_cons, print_item, List.foldr_cons, following, hw]
        simp [List.intercalate_cons_cons]
  rw [← String.toList_inj, toText, String.toList_ofList, ofList, print]
  cases vs with
  | nil => rfl
  | cons v ws =>
      rw [hitems]
      simp [listText, String.toList_intercalate, toText, Function.comp_def]

@[simp] theorem toText_ofMembers (ms : List (String × Value)) :
    (ofMembers ms).toText = objectText (ms.map fun m => (m.1, m.2.toText)) := by
  have hmembers : ∀ (m : String × Value) ns,
      ((m :: ns).foldr (fun m => member (.ofString m.1) m.2) (.endObject .closed)).print =
        List.intercalate [','] ((m :: ns).map fun m =>
          (Spelling.ofString m.1).print ++ ':' :: m.2.print) ++ ['}'] := by
    intro m ns
    induction ns generalizing m with
    | nil => simp [print]
    | cons n ns ih =>
        have hn := ih n
        rw [List.foldr_cons] at hn
        rw [List.foldr_cons, List.foldr_cons, print_member, following, hn]
        · simp [List.intercalate_cons_cons]
        · nofun
  rw [← String.toList_inj, toText, String.toList_ofList, ofMembers, print]
  cases ms with
  | nil => rfl
  | cons m ns =>
      rw [hmembers]
      simp only [objectText, String.toList_append, String.toList_intercalate, List.map_map,
        Function.comp_def, toList_quotedText, toText, String.toList_ofList, List.append_assoc]
      rfl

end MediaPipeline.Json
