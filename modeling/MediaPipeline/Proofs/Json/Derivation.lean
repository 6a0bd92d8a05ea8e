import MediaPipeline.Proofs.Except
import MediaPipeline.Proofs.Json.Parsing

/-!
Texts that are read are documents. The scanner passes over nothing but what the grammar allows, so
that each token without damage stands in the text as it is spelled; and a tree that can be stepped
over has been put together from all the tokens that were taken for it. So the grammar derives the
text for the tree.
-/

namespace MediaPipeline.Json

/-! ### Lexemes -/

theorem NumeralState.isFinal_of_stop {s : NumeralState} {c : Char} (h : s.step c = .stop) :
    s.isFinal = true := by
  cases s with
  | zero | whole | fraction | exponent => rfl
  | sign | point | mark | markSign =>
      unfold step at h
      split_ifs at h

namespace Token

/-- A token that tells of no damage. -/
def Whole : Token → Prop
  | text s => s.ending = .quote
  | broken _ _ _ => False
  | _ => True

/-- The characters spell a token. -/
inductive Rendered : Token → List Char → Prop
  | openBrace : Rendered openBrace ['{']
  | closeBrace : Rendered closeBrace ['}']
  | openBracket : Rendered openBracket ['[']
  | closeBracket : Rendered closeBracket [']']
  | comma : Rendered comma [',']
  | colon : Rendered colon [':']
  | null : Rendered null ['n', 'u', 'l', 'l']
  | true : Rendered (boolean true) ['t', 'r', 'u', 'e']
  | false : Rendered (boolean false) ['f', 'a', 'l', 's', 'e']
  | number {numeral : List Char} : isNumeral numeral = Bool.true → Rendered (number numeral) numeral
  | text {s : Spelling} {cs : List Char} : s.Rendered cs → Rendered (text s) cs

variable {cs seen due : List Char} {t token : Token} {ts : List Token} {units : List TextUnit}

theorem exists_of_scan_word (ht : t.Whole) (h : scan (.word due token) cs = t :: ts)
    (hdue : due ≠ []) :
    t = token ∧ ∃ after, cs = due ++ after ∧ scan .between after = ts := by
  induction due generalizing cs with
  | nil => exact absurd rfl hdue
  | cons d due ih =>
      cases cs with
      | nil =>
          rw [scan] at h
          cases h
          exact ht.elim
      | cons c cs =>
          cases due with
          | nil =>
              by_cases hc : c = d
              · simp only [scan, hc, if_true, List.cons.injEq] at h
                exact ⟨h.1.symm, cs, by simp [hc], h.2⟩
              · simp only [scan, hc, if_false] at h
                cases h
                exact ht.elim
          | cons e due =>
              by_cases hc : c = d
              · simp only [scan, hc, if_true] at h
                obtain ⟨rfl, after, rfl, hafter⟩ := ih h (by simp)
                exact ⟨rfl, after, by simp [hc], hafter⟩
              · simp only [scan, hc, if_false] at h
                cases h
                exact ht.elim

theorem exists_of_scan_numeral {s : NumeralState} (ht : t.Whole)
    (h : scan (.numeral seen s) cs = t :: ts) :
    ∃ more after, cs = more ++ after ∧ (s.follow? more).any NumeralState.isFinal = true ∧
      t = number (seen.reverse ++ more) ∧ scan .between after = ts := by
  induction cs generalizing seen s with
  | nil =>
      rw [scan] at h
      split at h
      · next hfinal =>
          cases h
          exact ⟨[], [], rfl, hfinal, by simp, rfl⟩
      · cases h
        exact ht.elim
  | cons c cs ih =>
      rw [scan] at h
      split at h
      · next s' hstep =>
          obtain ⟨more, after, rfl, hmore, rfl, hafter⟩ := ih h
          exact ⟨c :: more, after, rfl, by simpa [NumeralState.follow?, hstep] using hmore, by simp,
            hafter⟩
      · next hstop =>
          cases h
          exact ⟨[], c :: cs, rfl, NumeralState.isFinal_of_stop hstop, by simp, rfl⟩
      · cases h
        exact ht.elim

/-- A digit of a code unit stands where it is scanned. -/
theorem exists_of_scan_code {count value : Nat} (ht : t.Whole)
    (h : scan (.code units count value) cs = t :: ts) :
    ∃ c d rest, cs = c :: rest ∧ hexValue? c = some d ∧
      (if count = 3 then scan (.text (.code (16 * value + d) :: units)) rest
        else scan (.code units (count + 1) (16 * value + d)) rest) = t :: ts := by
  cases cs with
  | nil =>
      rw [scan] at h
      cases h
      cases ht
  | cons c rest =>
      rw [scan] at h
      split at h
      · next d hd => exact ⟨c, d, rest, rfl, hd, h⟩
      · cases h
        simp only [ofText, Whole] at ht
        split at ht <;> cases ht

/-- The rest of a text up to its quote, with the units that have been scanned. -/
theorem exists_of_scan_text (ht : t.Whole) (h : scan (.text units) cs = t :: ts) :
    ∃ us css after, cs = css.flatten ++ '"' :: after ∧ List.Forall₂ TextUnit.Rendered us css ∧
      t = text ⟨units.reverse ++ us, .quote⟩ ∧ scan .between after = ts := by
  -- A unit takes one character, two or six of the text, so this goes by the length of the rest.
  induction hlength : cs.length using Nat.strong_induction_on generalizing cs units with
  | h n ih =>
      have hunit : ∀ {u : TextUnit} {c : Char} {lexeme rest : List Char},
          u.Rendered (c :: lexeme) → cs = (c :: lexeme) ++ rest →
          scan (.text (u :: units)) rest = t :: ts →
          ∃ us css after, cs = css.flatten ++ '"' :: after ∧
            List.Forall₂ TextUnit.Rendered us css ∧ t = text ⟨units.reverse ++ us, .quote⟩ ∧
            scan .between after = ts := by
        intro u c lexeme rest hu hcs hrest
        have hshorter : rest.length < n := by
          rw [← hlength, hcs, List.length_append, List.length_cons]
          omega
        obtain ⟨us, css, after, rfl, hus, rfl, hafter⟩ := ih _ hshorter hrest rfl
        exact ⟨u :: us, (c :: lexeme) :: css, after, by simp [hcs], .cons hu hus, by simp, hafter⟩
      cases cs with
      | nil =>
          rw [scan] at h
          cases h
          cases ht
      | cons c cs =>
          rw [scan] at h
          split_ifs at h with hquote hbackslash hcontrol
          · cases h
            exact ⟨[], [], cs, by simp [hquote], .nil, by simp [ofText], rfl⟩
          · subst hbackslash
            cases cs with
            | nil =>
                rw [scan] at h
                cases h
                cases ht
            | cons letter cs =>
                rw [scan] at h
                split_ifs at h with hu hletter
                · subst hu
                  obtain ⟨a, i, _, rfl, ha, h⟩ := exists_of_scan_code ht h
                  obtain ⟨b, j, _, rfl, hb, h⟩ := exists_of_scan_code ht h
                  obtain ⟨c, k, _, rfl, hc, h⟩ := exists_of_scan_code ht h
                  obtain ⟨d, l, rest, rfl, hd, h⟩ := exists_of_scan_code ht h
                  rw [if_pos rfl, Nat.mul_zero, Nat.zero_add] at h
                  exact hunit (.code ha hb hc hd) rfl h
                · exact hunit (.escape hletter) rfl h
                · cases h
                  cases ht
          · cases h
            cases ht
          · exact hunit (.plain hquote hbackslash (Nat.le_of_not_lt hcontrol)) rfl h

/-- A token stands in front, behind white space, and the rest is scanned into the other tokens. -/
def Starts (t : Token) (ts : List Token) (cs : List Char) : Prop :=
  ∃ before lexeme after, cs = before ++ lexeme ++ after ∧ Blank before ∧ t.Rendered lexeme ∧
    scan .between after = ts

theorem Starts.blank {c : Char} (hc : isBlank c) (h : Starts t ts cs) : Starts t ts (c :: cs) := by
  obtain ⟨before, lexeme, after, rfl, hbefore, hlexeme, hafter⟩ := h
  exact ⟨c :: before, lexeme, after, rfl, List.forall_mem_cons.mpr ⟨hc, hbefore⟩, hlexeme, hafter⟩

theorem Rendered.starts {lexeme after : List Char} (h : t.Rendered lexeme)
    (hcs : cs = lexeme ++ after) (hafter : scan .between after = ts) : Starts t ts cs :=
  ⟨[], lexeme, after, hcs, nofun, h, hafter⟩

theorem starts_of_numeral {c : Char} {s : NumeralState} (hc : NumeralState.first? c = some s)
    (ht : t.Whole) (h : scan (.numeral [c] s) cs = t :: ts) : Starts t ts (c :: cs) := by
  obtain ⟨more, after, rfl, hmore, rfl, hafter⟩ := exists_of_scan_numeral ht h
  have hnumeral : isNumeral (c :: more) = Bool.true := by
    rw [isNumeral, hc]
    exact hmore
  exact Rendered.starts (.number hnumeral) rfl hafter

theorem starts_of_scan (ht : t.Whole) (h : scan .between cs = t :: ts) : Starts t ts cs := by
  induction cs with
  | nil => cases h
  | cons c cs ih =>
      rw [scan, start.eq_def] at h
      split at h
      · exact (ih h).blank (.inl rfl)
      · exact (ih h).blank (.inr (.inl rfl))
      · exact (ih h).blank (.inr (.inr (.inl rfl)))
      · exact (ih h).blank (.inr (.inr (.inr rfl)))
      · cases h
        exact Rendered.openBrace.starts rfl rfl
      · cases h
        exact Rendered.closeBrace.starts rfl rfl
      · cases h
        exact Rendered.openBracket.starts rfl rfl
      · cases h
        exact Rendered.closeBracket.starts rfl rfl
      · cases h
        exact Rendered.comma.starts rfl rfl
      · cases h
        exact Rendered.colon.starts rfl rfl
      · obtain ⟨rfl, after, rfl, hafter⟩ := exists_of_scan_word ht h (List.cons_ne_nil _ _)
        exact Rendered.null.starts rfl hafter
      · obtain ⟨rfl, after, rfl, hafter⟩ := exists_of_scan_word ht h (List.cons_ne_nil _ _)
        exact Rendered.true.starts rfl hafter
      · obtain ⟨rfl, after, rfl, hafter⟩ := exists_of_scan_word ht h (List.cons_ne_nil _ _)
        exact Rendered.false.starts rfl hafter
      · obtain ⟨us, css, after, rfl, hus, rfl, hafter⟩ := exists_of_scan_text ht h
        exact Rendered.starts (.text (.quoted hus)) (by simp) hafter
      · exact starts_of_numeral rfl ht h
      · exact starts_of_numeral rfl ht h
      · split_ifs at h with hdigit
        · exact starts_of_numeral (by simp_all [NumeralState.first?]) ht h
        · cases h
          exact ht.elim

/-- Nothing but white space is scanned into no tokens. -/
theorem blank_of_scan {mode : Mode} (h : scan mode cs = []) : mode = .between ∧ Blank cs := by
  induction cs generalizing mode with
  | nil =>
      cases mode with
      | between => exact ⟨rfl, nofun⟩
      | numeral seen s =>
          rw [scan] at h
          split at h <;> cases h
      | word _ _ | text _ | escape _ | code _ _ _ => cases h
  | cons c cs ih =>
      cases mode with
      | between =>
          rw [scan, start.eq_def] at h
          have hblank : isBlank c → scan .between cs = [] →
              Mode.between = .between ∧ Blank (c :: cs) := fun hc h =>
            ⟨rfl, List.forall_mem_cons.mpr ⟨hc, (ih h).2⟩⟩
          split at h
          · exact hblank (.inl rfl) h
          · exact hblank (.inr (.inl rfl)) h
          · exact hblank (.inr (.inr (.inl rfl))) h
          · exact hblank (.inr (.inr (.inr rfl))) h
          -- Any other character is a token or begins one.
          iterate 6 · cases h
          iterate 6 · cases (ih h).1
          · split_ifs at h
            cases (ih h).1
      | word due token =>
          obtain _ | ⟨d, _ | ⟨e, due⟩⟩ := due
          · rw [scan] at h
            cases h
          · rw [scan] at h
            split at h <;> cases h
          · simp only [scan] at h
            split at h
            · cases (ih h).1
            · cases h
      | text units =>
          rw [scan] at h
          split_ifs at h
          · cases (ih h).1
          · cases (ih h).1
      | escape units =>
          rw [scan] at h
          split_ifs at h
          · cases (ih h).1
          · cases (ih h).1
      | code units count value =>
          rw [scan] at h
          split at h
          · split_ifs at h
            · cases (ih h).1
            · cases (ih h).1
          · cases h
      | numeral seen s =>
          rw [scan] at h
          split at h
          · cases (ih h).1
          · cases h
          · cases h

end Token

/-! ### Trees -/

theorem skip_item_iff {v : Value} {is : Items} :
    (Json.item v is).skip = .ok () ↔ v.skip = .ok () ∧ is.skip = .ok () :=
  check_bind_eq_ok_iff

theorem skip_member_iff {key : Spelling} {v : Value} {ms : Members} :
    (Json.member key v ms).skip = .ok () ↔
      key.skip = .ok () ∧ v.skip = .ok () ∧ ms.skip = .ok () :=
  check_bind_eq_ok_iff.trans (and_congr_right fun _ => check_bind_eq_ok_iff)

/-- All tokens that are taken for a part that can be stepped over are tokens of that part. The first
item and the first member have no comma in front of them. -/
structure Spent (fuel : Nat) : Prop where
  value : ∀ {ts rest v}, takeValue fuel ts = (v, rest) → v.skip = .ok () → ts = v.tokens ++ rest
  items : ∀ {ts rest is}, takeItems fuel ts = (is, rest) → is.skip = .ok () →
    .comma :: ts = is.tokens ++ rest
  members : ∀ {ts rest ms}, takeMembers fuel ts = (ms, rest) → ms.skip = .ok () →
    .comma :: ts = ms.tokens ++ rest

namespace Spent

variable {fuel : Nat} {ts rest : List Token}

theorem open_bracket {is : Items} (h : .comma :: ts = is.tokens ++ rest) :
    .openBracket :: ts = (Json.list is).tokens ++ rest := by
  cases is with
  | item v is => exact congrArg (Token.openBracket :: ·) (List.cons.inj h).2
  | endList ending => cases h

theorem open_brace {ms : Members} (h : .comma :: ts = ms.tokens ++ rest) :
    .openBrace :: ts = (Json.object ms).tokens ++ rest := by
  cases ms with
  | member key v ms => exact congrArg (Token.openBrace :: ·) (List.cons.inj h).2
  | endObject ending => cases h
  | unnamed => cases h

theorem value_succ (h : Spent fuel) {v : Value} (hv : takeValue (fuel + 1) ts = (v, rest))
    (hskip : v.skip = .ok ()) : ts = v.tokens ++ rest := by
  rw [takeValue.eq_def] at hv
  split at hv
  · next hfuel =>
      cases hfuel
      split at hv
      · cases hv
        rfl
      · cases hv
        rfl
      · cases hv
        rfl
      · cases hv
        rfl
      · split at hv
        · cases hv
          cases hskip
        · cases hv
          rfl
        · cases hv
          exact open_bracket (h.items rfl hskip)
      · split at hv
        · cases hv
          cases hskip
        · cases hv
          rfl
        · cases hv
          exact open_brace (h.members rfl hskip)
      · cases hv
        cases hskip
      · cases hv
        cases hskip
  · cases hv
    cases hskip

theorem items_succ (h : Spent fuel) {is : Items} (hi : takeItems (fuel + 1) ts = (is, rest))
    (hskip : is.skip = .ok ()) : .comma :: ts = is.tokens ++ rest := by
  cases hv : takeValue fuel ts with
  | mk v us =>
      simp only [takeItems, hv] at hi
      split at hi
      · cases hi
        cases (skip_item_iff.mp hskip).2
      · cases hi
        cases (skip_item_iff.mp hskip).2
      · cases hi
        obtain ⟨hv', hrest⟩ := skip_item_iff.mp hskip
        rw [h.value hv hv', tokens, h.items rfl hrest]
        simp
      · cases hi
        obtain ⟨hv', -⟩ := skip_item_iff.mp hskip
        rw [h.value hv hv']
        simp [tokens]
      · cases hi
        cases (skip_item_iff.mp hskip).2
      · cases hi
        cases (skip_item_iff.mp hskip).2

theorem members_succ (h : Spent fuel) {ms : Members} (hm : takeMembers (fuel + 1) ts = (ms, rest))
    (hskip : ms.skip = .ok ()) : .comma :: ts = ms.tokens ++ rest := by
  rw [takeMembers.eq_def] at hm
  split at hm
  · next key us hfuel =>
      cases hfuel
      cases hv : takeValue fuel us with
      | mk v more =>
          simp only [hv] at hm
          split at hm
          · cases hm
            cases (skip_member_iff.mp hskip).2.2
          · cases hm
            cases (skip_member_iff.mp hskip).2.2
          · cases hm
            obtain ⟨-, hv', hrest⟩ := skip_member_iff.mp hskip
            rw [h.value hv hv', tokens, h.members rfl hrest]
            simp
          · cases hm
            obtain ⟨-, hv', -⟩ := skip_member_iff.mp hskip
            rw [h.value hv hv']
            simp [tokens]
          · cases hm
            cases (skip_member_iff.mp hskip).2.2
          · cases hm
            cases (skip_member_iff.mp hskip).2.2
  · cases hm
    cases (skip_member_iff.mp hskip).2.2
  · cases hm
    cases (skip_member_iff.mp hskip).2.2
  · cases hm
    cases hskip
  · cases hm
    cases hskip

end Spent

theorem spent (fuel : Nat) : Spent fuel := by
  induction fuel with
  | zero =>
      constructor
      all_goals
        rintro ts v rest h hskip
        cases h
        cases hskip
  | succ fuel ih => exact ⟨ih.value_succ, ih.items_succ, ih.members_succ⟩

/-! ### Derivations -/

theorem Spelling.ending_of_skip {s : Spelling} (h : s.skip = .ok ()) : s.ending = .quote := by
  unfold skip at h
  cases hending : s.ending <;> rw [hending] at h <;> first | rfl | cases h

theorem Rendered.blanks {part : Part} {v : Json part} {before cs : List Char}
    (hbefore : Blank before) (h : Rendered v cs) : Rendered v (before ++ cs) := by
  induction before with
  | nil => exact h
  | cons c before ih =>
      obtain ⟨hc, hbefore⟩ := List.forall_mem_cons.mp hbefore
      exact .blank hc (ih hbefore)

/-- The tokens of a part are scanned only where the part stands in the text. -/
def Stands {part : Part} (v : Json part) : Prop :=
  ∀ cs ts, Token.scan .between cs = v.tokens ++ ts →
    ∃ us after, cs = us ++ after ∧ Rendered v us ∧ Token.scan .between after = ts

namespace Stands

open Token (scan)

variable {v : Value} {is : Items} {ms : Members} {cs : List Char} {ts : List Token}

/-- A value that is a single lexeme. -/
theorem of_lexeme {part : Part} {w : Json part} {t : Token} (htokens : w.tokens = [t])
    (ht : t.Whole) (h : ∀ {us}, t.Rendered us → Json.Rendered w us) : w.Stands := by
  intro cs ts hscan
  rw [htokens] at hscan
  obtain ⟨before, lexeme, after, rfl, hbefore, hlexeme, hafter⟩ := Token.starts_of_scan ht hscan
  exact ⟨before ++ lexeme, after, rfl, (h hlexeme).blanks hbefore, hafter⟩

/-- What goes on after a mark of punctuation, and what stands behind the mark. -/
theorem after_mark {part : Part} {w : Json part} {t : Token} {c : Char} {more : List Token}
    (htokens : w.tokens = t :: more) (ht : t.Whole) (hc : ∀ {us}, t.Rendered us → us = [c])
    (h : ∀ {cs ts}, scan .between cs = more ++ ts → ∃ us after, cs = us ++ after ∧
      Json.Rendered w (c :: us) ∧ scan .between after = ts) : w.Stands := by
  intro cs ts hscan
  rw [htokens, List.cons_append] at hscan
  obtain ⟨before, _, _, rfl, hbefore, hmark, hmore⟩ := Token.starts_of_scan ht hscan
  obtain rfl := hc hmark
  obtain ⟨us, after, rfl, hus, hafter⟩ := h hmore
  exact ⟨before ++ c :: us, after, by simp, hus.blanks hbefore, hafter⟩

/-- An item with what follows it, wherever the comma in front of it stands. -/
theorem exists_item (hv : v.Stands) (his : is.Stands)
    (h : scan .between cs = v.tokens ++ is.tokens ++ ts) :
    ∃ us after, cs = us ++ after ∧ Json.Rendered (.item v is) (',' :: us) ∧
      scan .between after = ts := by
  rw [List.append_assoc] at h
  obtain ⟨us, _, rfl, hus, h⟩ := hv _ _ h
  obtain ⟨us', after, rfl, hus', hafter⟩ := his _ _ h
  exact ⟨us ++ us', after, (List.append_assoc ..).symm, .item hus hus', hafter⟩

theorem exists_member {key : Spelling} (hkey : key.skip = .ok ()) (hv : v.Stands) (hms : ms.Stands)
    (h : scan .between cs = .text key :: .colon :: (v.tokens ++ ms.tokens) ++ ts) :
    ∃ us after, cs = us ++ after ∧ Json.Rendered (.member key v ms) (',' :: us) ∧
      scan .between after = ts := by
  rw [List.cons_append, List.cons_append, List.append_assoc] at h
  obtain ⟨before, ks, _, rfl, hbefore, hks, h⟩ :=
    Token.starts_of_scan (t := .text key) (Spelling.ending_of_skip hkey) h
  obtain ⟨behind, _, _, rfl, hbehind, hcolon, h⟩ := Token.starts_of_scan (t := .colon) trivial h
  obtain ⟨us, _, rfl, hus, h⟩ := hv _ _ h
  obtain ⟨us', after, rfl, hus', hafter⟩ := hms _ _ h
  cases hks with
  | text hks =>
  cases hcolon
  exact ⟨before ++ ks ++ behind ++ ':' :: (us ++ us'), after, by simp,
    .member hbefore hks hbehind hus hus', hafter⟩

theorem list (hv : v.Stands) (his : is.Stands) : (Json.list (.item v is)).Stands :=
  after_mark rfl trivial (fun h => by cases h; rfl) fun h => by
    obtain ⟨us, after, rfl, hus, hafter⟩ := exists_item hv his h
    exact ⟨us, after, rfl, .list hus, hafter⟩

theorem item (hv : v.Stands) (his : is.Stands) : (Json.item v is).Stands :=
  after_mark rfl trivial (fun h => by cases h; rfl) (exists_item hv his)

theorem object {key : Spelling} (hkey : key.skip = .ok ()) (hv : v.Stands) (hms : ms.Stands) :
    (Json.object (.member key v ms)).Stands :=
  after_mark rfl trivial (fun h => by cases h; rfl) fun h => by
    obtain ⟨us, after, rfl, hus, hafter⟩ := exists_member hkey hv hms h
    exact ⟨us, after, rfl, .object hus, hafter⟩

theorem member {key : Spelling} (hkey : key.skip = .ok ()) (hv : v.Stands) (hms : ms.Stands) :
    (Json.member key v ms).Stands :=
  after_mark rfl trivial (fun h => by cases h; rfl) (exists_member hkey hv hms)

theorem endList : (Json.endList .closed).Stands :=
  .of_lexeme rfl trivial fun h => by cases h; exact .endList

theorem endObject : (Json.endObject .closed).Stands :=
  .of_lexeme rfl trivial fun h => by cases h; exact .endObject

theorem emptyList : (Json.list (.endList .closed)).Stands :=
  after_mark rfl trivial (fun h => by cases h; rfl) fun h => by
    obtain ⟨us, after, rfl, hus, hafter⟩ := endList _ _ h
    exact ⟨us, after, rfl, .emptyList hus, hafter⟩

theorem emptyObject : (Json.object (.endObject .closed)).Stands :=
  after_mark rfl trivial (fun h => by cases h; rfl) fun h => by
    obtain ⟨us, after, rfl, hus, hafter⟩ := endObject _ _ h
    exact ⟨us, after, rfl, .emptyObject hus, hafter⟩

end Stands

theorem stands : {part : Part} → (v : Json part) → v.skip = .ok () → v.Stands
  | _, .null, _ => .of_lexeme rfl trivial fun h => by cases h; exact .null
  | _, .boolean b, _ => .of_lexeme rfl trivial fun h => by
      cases h
      · exact .true
      · exact .false
  | _, .number numeral, _ => .of_lexeme rfl trivial fun h => by
      cases h with
      | number h => exact .number h
  | _, .text s, hskip => .of_lexeme rfl (Spelling.ending_of_skip hskip) fun h => by
      cases h with
      | text h => exact .text h
  | _, .list (.endList .closed), _ => .emptyList
  | _, .object (.endObject .closed), _ => .emptyObject
  | _, .list (.item v is), hskip => by
      obtain ⟨hv, his⟩ := skip_item_iff.mp hskip
      exact .list (stands v hv) (stands is his)
  | _, .object (.member key v ms), hskip => by
      obtain ⟨hkey, hv, hms⟩ := skip_member_iff.mp hskip
      exact .object hkey (stands v hv) (stands ms hms)
  | _, .endList .closed, _ => .endList
  | _, .endObject .closed, _ => .endObject
  | _, .item v is, hskip => by
      obtain ⟨hv, his⟩ := skip_item_iff.mp hskip
      exact .item (stands v hv) (stands is his)
  | _, .member key v ms, hskip => by
      obtain ⟨hkey, hv, hms⟩ := skip_member_iff.mp hskip
      exact .member hkey (stands v hv) (stands ms hms)

/-- A text whose tree can be stepped over, with nothing behind it, is a document that holds the
tree. -/
theorem document_of_ofText {text : String} {v : Value} (h : ofText text = (v, Bool.false))
    (hskip : v.skip = .ok ()) : Document v text := by
  cases htake : takeValue (2 * (Token.ofDocument text).length + 2) (Token.ofDocument text) with
  | mk w rest =>
      simp only [ofText, htake, Prod.mk.injEq, Bool.not_eq_false', List.isEmpty_iff] at h
      obtain ⟨rfl, rfl⟩ := h
      have htokens := (spent _).value htake hskip
      obtain ⟨cs, ds, hcs, hrendered, hds⟩ := stands w hskip text.toList [] htokens
      exact ⟨cs, ds, hrendered, (Token.blank_of_scan hds).2, hcs⟩

end MediaPipeline.Json
