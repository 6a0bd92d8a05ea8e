import MediaPipeline.Json.Reading
import MediaPipeline.Proofs.Json.Rendering

/-!
A written document is read back as the tree it was written from. The tokens of a tree are put
together to the same tree, whatever comes behind them; the fuel of a reader is enough, for it loses
one unit where a value begins and one where a list or an object goes on, and each time a token.
-/

namespace MediaPipeline.Json

/-! ### From tokens to trees -/

section

variable {fuel : Nat} {ts rest : List Token} {t : Token} {v : Value} {key : Spelling}

theorem takeValue_list (ht : t ≠ .closeBracket) :
    takeValue (fuel + 1) (.openBracket :: t :: ts) =
      (.list (takeItems fuel (t :: ts)).1, (takeItems fuel (t :: ts)).2) := by
  cases t <;> first | rfl | exact absurd rfl ht

theorem takeItems_closed (hv : takeValue fuel ts = (v, .closeBracket :: rest)) :
    takeItems (fuel + 1) ts = (.item v (.endList .closed), rest) := by
  simp only [takeItems, hv]

theorem takeItems_comma (hv : takeValue fuel ts = (v, .comma :: t :: rest))
    (ht : t ≠ .closeBracket) :
    takeItems (fuel + 1) ts =
      (.item v (takeItems fuel (t :: rest)).1, (takeItems fuel (t :: rest)).2) := by
  rw [takeItems, hv]
  cases t <;> first | rfl | exact absurd rfl ht

theorem takeMembers_closed (hv : takeValue fuel ts = (v, .closeBrace :: rest)) :
    takeMembers (fuel + 1) (.text key :: .colon :: ts) =
      (.member key v (.endObject .closed), rest) := by
  simp only [takeMembers, hv]

theorem takeMembers_comma {next : Spelling}
    (hv : takeValue fuel ts = (v, .comma :: .text next :: rest)) :
    takeMembers (fuel + 1) (.text key :: .colon :: ts) =
      (.member key v (takeMembers fuel (.text next :: rest)).1,
        (takeMembers fuel (.text next :: rest)).2) := by
  simp only [takeMembers, hv]

end

/-- No value begins with the token that closes a list. -/
theorem Sound.exists_tokens {v : Value} (h : v.Sound) :
    ∃ t ts, v.tokens = t :: ts ∧ t ≠ .closeBracket := by
  cases h with
  | null | boolean _ | number _ | text _ => exact ⟨_, _, rfl, nofun⟩
  | list h => cases h <;> exact ⟨_, _, rfl, nofun⟩
  | object h => cases h <;> exact ⟨_, _, rfl, nofun⟩

/-- The tokens of a part are put together to that part: those of a value to the value, and those
that go on a list or an object behind a value to one with that value in front. -/
def Taken : {part : Part} → Json part → Prop
  | .value, v => ∀ fuel rest, 2 * v.tokens.length ≤ fuel →
    takeValue fuel (v.tokens ++ rest) = (v, rest)
  | .items, is => ∀ fuel ts v rest, 2 * is.tokens.length ≤ fuel →
    takeValue fuel ts = (v, is.tokens ++ rest) → takeItems (fuel + 1) ts = (.item v is, rest)
  | .members, ms => ∀ fuel ts key v rest, 2 * ms.tokens.length ≤ fuel →
    takeValue fuel ts = (v, ms.tokens ++ rest) →
    takeMembers (fuel + 1) (.text key :: .colon :: ts) = (.member key v ms, rest)

theorem Taken.takeItems {v : Value} {is : Items} (hv : v.Taken) (his : is.Taken) (fuel : Nat)
    (rest : List Token) (hfuel : 2 * (v.tokens ++ is.tokens).length ≤ fuel) :
    takeItems (fuel + 1) (v.tokens ++ is.tokens ++ rest) = (.item v is, rest) := by
  rw [List.length_append] at hfuel
  rw [List.append_assoc]
  exact his fuel _ v rest (by omega) (hv fuel _ (by omega))

theorem Taken.takeMembers {v : Value} {ms : Members} (hv : v.Taken) (hms : ms.Taken) (fuel : Nat)
    (key : Spelling) (rest : List Token) (hfuel : 2 * (v.tokens ++ ms.tokens).length ≤ fuel) :
    takeMembers (fuel + 1) (.text key :: .colon :: (v.tokens ++ ms.tokens ++ rest)) =
      (.member key v ms, rest) := by
  rw [List.length_append] at hfuel
  rw [List.append_assoc]
  exact hms fuel _ key v rest (by omega) (hv fuel _ (by omega))

/-- A value that is read with one step of fuel is taken, since it has a token. -/
theorem Taken.of_succ {v : Value} (hpos : 0 < v.tokens.length)
    (h : ∀ fuel rest, takeValue (fuel + 1) (v.tokens ++ rest) = (v, rest)) : v.Taken := by
  intro fuel rest hfuel
  cases fuel with
  | zero => omega
  | succ fuel => exact h fuel rest

theorem Taken.list {v : Value} {is : Items} (hsound : v.Sound) (hv : v.Taken) (his : is.Taken) :
    (Json.list (.item v is)).Taken := by
  intro fuel rest hfuel
  rw [tokens, List.length_cons] at hfuel
  obtain ⟨fuel, rfl⟩ : ∃ k, fuel = k + 2 := ⟨fuel - 2, by omega⟩
  have hitems := hv.takeItems his fuel rest (by omega)
  -- What follows the bracket is read as an item unless it closes the list.
  obtain ⟨t, ts, hts, ht⟩ := hsound.exists_tokens
  rw [hts, List.cons_append, List.cons_append] at hitems
  rw [tokens, hts, List.cons_append, List.cons_append, List.cons_append, takeValue_list ht, hitems]

theorem Taken.object {key : Spelling} {v : Value} {ms : Members} (hv : v.Taken) (hms : ms.Taken) :
    (Json.object (.member key v ms)).Taken := by
  intro fuel rest hfuel
  simp only [tokens, List.length_cons] at hfuel
  obtain ⟨fuel, rfl⟩ : ∃ k, fuel = k + 2 := ⟨fuel - 2, by omega⟩
  have hmembers := hv.takeMembers hms fuel key rest (by omega)
  simp only [tokens, List.cons_append, takeValue, hmembers]

theorem Taken.item {v : Value} {is : Items} (hsound : v.Sound) (hv : v.Taken) (his : is.Taken) :
    (Json.item v is).Taken := by
  intro fuel ts w rest hfuel htake
  rw [tokens, List.length_cons] at hfuel
  obtain ⟨fuel, rfl⟩ : ∃ k, fuel = k + 1 := ⟨fuel - 1, by omega⟩
  have hitems := hv.takeItems his fuel rest (by omega)
  obtain ⟨t, us, hts, ht⟩ := hsound.exists_tokens
  rw [hts, List.cons_append, List.cons_append] at hitems
  rw [tokens, hts, List.cons_append, List.cons_append, List.cons_append] at htake
  rw [takeItems_comma htake ht, hitems]

theorem Taken.member {key : Spelling} {v : Value} {ms : Members} (hv : v.Taken) (hms : ms.Taken) :
    (Json.member key v ms).Taken := by
  intro fuel ts key' w rest hfuel htake
  simp only [tokens, List.length_cons] at hfuel
  obtain ⟨fuel, rfl⟩ : ∃ k, fuel = k + 1 := ⟨fuel - 1, by omega⟩
  have hmembers := hv.takeMembers hms fuel key rest (by omega)
  rw [takeMembers_comma htake]
  exact congrArg (fun m : Members × List Token => (Json.member key' w m.1, m.2)) hmembers

theorem Sound.taken : {part : Part} → {v : Json part} → v.Sound → v.Taken
  | _, _, .endList => fun _ _ _ _ _ => takeItems_closed
  | _, _, .endObject => fun _ _ _ _ _ _ => takeMembers_closed
  | _, _, .null | _, _, .boolean _ | _, _, .number _ | _, _, .text _
  | _, _, .list .endList | _, _, .object .endObject =>
      .of_succ (Nat.succ_pos _) fun _ _ => rfl
  | _, _, .list (.item hv his) => .list hv hv.taken his.taken
  | _, _, .object (.member _ hv hms) => .object hv.taken hms.taken
  | _, _, .item hv his => .item hv hv.taken his.taken
  | _, _, .member _ hv hms => .member hv.taken hms.taken

/-! ### Whole documents -/

/-- A document is read as what it holds, and nothing stands behind it. -/
theorem Document.ofText_eq {v : Value} {text : String} (h : Document v text) :
    ofText text = (v, Bool.false) := by
  obtain ⟨cs, ds, hv, hblank, htext⟩ := h
  have hdelimited : Delimited ds := fun c hc => .inr (hblank c (List.mem_of_mem_head? hc))
  have hscan : Token.ofDocument text = v.tokens := by
    have hend : Token.scan .between (ds ++ []) = [] := Token.scan_blank hblank []
    rw [List.append_nil] at hend
    rw [Token.ofDocument, htext, hv.scan hdelimited, hend, List.append_nil]
  have htake := hv.sound.taken (2 * v.tokens.length + 2) [] (Nat.le_add_right ..)
  rw [List.append_nil] at htake
  simp [ofText, hscan, htake]

theorem Document.readText_eq {α : Type} {v : Value} {text : String} (h : Document v text)
    (read : Reader α) : readText read text = read v := by
  simp only [readText, h.ofText_eq]
  cases read v <;> rfl

theorem readText_toText {α : Type} (read : Reader α) {v : Value} (h : v.Written) :
    readText read v.toText = read v :=
  h.document.readText_eq read

@[simp] theorem Written.ofString (s : String) : (Json.ofString s).Written :=
  .text s

@[simp] theorem Written.ofNat (n : Nat) : (Json.ofNat n).Written :=
  .number (Decimal.toList_toString n ▸ isNumeral_toDigits n)

theorem Written.ofList {vs : List Value} (h : ∀ v ∈ vs, v.Written) : (Json.ofList vs).Written := by
  refine .list ?_
  induction vs with
  | nil => exact .endList
  | cons v vs ih =>
      obtain ⟨hv, hvs⟩ := List.forall_mem_cons.mp h
      exact .item hv (ih hvs)

theorem Written.ofMembers {ms : List (String × Value)} (h : ∀ m ∈ ms, m.2.Written) :
    (Json.ofMembers ms).Written := by
  refine .object ?_
  induction ms with
  | nil => exact .endObject
  | cons m ms ih =>
      obtain ⟨hm, hms⟩ := List.forall_mem_cons.mp h
      exact .member m.1 hm (ih hms)

namespace Reader

@[simp] theorem text_ofString (s : String) : text (ofString s) = .ok s := by
  simp [text, ofString, orMalformed]

/-- A list is read back if its items are. -/
theorem list_ofList {α : Type} {read : Reader α} {write : α → Value} (xs : List α)
    (h : ∀ x ∈ xs, read (write x) = .ok x) : list read (ofList (xs.map write)) = .ok xs := by
  rw [ofList, list]
  induction xs with
  | nil => simp [items, orFault, ListEnd.fault?, orMalformed]
  | cons x xs ih =>
      obtain ⟨hx, hxs⟩ := List.forall_mem_cons.mp h
      rw [List.map_cons, List.foldr_cons, items, hx, ih hxs]
      rfl

/-- An object is read back as its members. -/
theorem members_ofMembers (ms : List (String × Value)) :
    members .ok (ms.foldr (fun m => .member (.ofString m.1) m.2) (.endObject .closed)) =
      .ok ms := by
  induction ms with
  | nil => simp [members, orFault, ObjectEnd.fault?, orMalformed]
  | cons m ms ih =>
      rw [List.foldr_cons, members, Spelling.read_ofString, ih]
      rfl

end Reader

end MediaPipeline.Json
