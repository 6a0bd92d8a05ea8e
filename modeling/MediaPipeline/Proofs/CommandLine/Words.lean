/-!
The words of a command line. A line is split at its spaces; double quotes group what stands between
them and are removed, and a line whose last quotation is not closed has no words.

A segment of a line is described by the words it spells. Segments meet at a space, so that what a
whole line spells follows from what its segments add.
-/

namespace MediaPipeline.CommandLine

/-- How far a line has been read. -/
structure Splitter where
  done : List String
  /-- The word being read; there is none between two words. -/
  word : Option (List Char)
  /-- Whether a quotation is open. -/
  quoted : Bool

namespace Splitter

/-- Before the first word. -/
def start : Splitter := ⟨[], none, false⟩

/-- The words read so far, the last of which may still go on. -/
def words (s : Splitter) : List String :=
  s.done ++ (s.word.map String.ofList).toList

def step (s : Splitter) (c : Char) : Splitter :=
  if c = '"' then { s with word := some (s.word.getD []), quoted := !s.quoted }
  else if c = ' ' ∧ s.quoted = false then ⟨s.words, none, false⟩
  else { s with word := some (s.word.getD [] ++ [c]) }

def scan (s : Splitter) (cs : List Char) : Splitter :=
  cs.foldl step s

end Splitter

/-- The words of a line. -/
def splitWords (line : String) : Option (List String) :=
  let s := Splitter.start.scan line.toList
  if s.quoted then none else some s.words

/-- A text that is one word as it stands. -/
def IsWord (s : String) : Prop :=
  s ≠ "" ∧ ∀ c ∈ s.toList, c ≠ ' ' ∧ c ≠ '"'

/-- A text that is one word between double quotes. -/
def Quotable (s : String) : Prop :=
  '"' ∉ s.toList

/-! ### One character at a time -/

namespace Splitter

@[simp] theorem scan_nil (s : Splitter) : s.scan [] = s := rfl

@[simp] theorem scan_cons (s : Splitter) (c : Char) (cs : List Char) :
    s.scan (c :: cs) = (s.step c).scan cs := rfl

theorem scan_append (s : Splitter) (cs ds : List Char) :
    s.scan (cs ++ ds) = (s.scan cs).scan ds := by
  simp [scan, List.foldl_append]

theorem step_quote (s : Splitter) :
    s.step '"' = { s with word := some (s.word.getD []), quoted := !s.quoted } := by
  simp [step]

theorem step_space {s : Splitter} (hs : s.quoted = false) :
    s.step ' ' = ⟨s.words, none, false⟩ := by
  simp [step, hs]

/-- Anything but a quote goes on with the word, a space only where a quotation is open. -/
theorem step_other {s : Splitter} {c : Char} (hquote : c ≠ '"')
    (hspace : c = ' ' → s.quoted = true) :
    s.step c = { s with word := some (s.word.getD [] ++ [c]) } := by
  have hne : ¬(c = ' ' ∧ s.quoted = false) := by
    rintro ⟨hc, hq⟩
    simp [hspace hc] at hq
  simp [step, hquote, hne]

/-- What has no quotes and no spaces outside of a quotation goes on with the word. -/
theorem scan_word (done : List String) (w : List Char) (quoted : Bool) (cs : List Char)
    (hquote : '"' ∉ cs) (hspace : ' ' ∈ cs → quoted = true) :
    scan ⟨done, some w, quoted⟩ cs = ⟨done, some (w ++ cs), quoted⟩ := by
  induction cs generalizing w with
  | nil => simp
  | cons c cs ih =>
      simp only [List.mem_cons, not_or] at hquote
      have hstep := step_other (s := ⟨done, some w, quoted⟩) (Ne.symm hquote.1)
        (fun hc => hspace (by simp [hc]))
      rw [scan_cons, hstep]
      simpa using ih (w ++ [c]) hquote.2 (fun h => hspace (by simp [h]))

end Splitter

/-! ### Segments -/

/-- A text reads as words wherever it follows a space. -/
def Spells (text : String) (words : List String) : Prop :=
  ∀ done, (Splitter.scan ⟨done, none, false⟩ text.toList).quoted = false ∧
    (Splitter.scan ⟨done, none, false⟩ text.toList).words = done ++ words

theorem splitWords_of_spells {text : String} {words : List String} (h : Spells text words) :
    splitWords text = some words := by
  obtain ⟨hquoted, hwords⟩ := h []
  simp only [splitWords, Splitter.start]
  simp [hquoted, hwords]

theorem spells_empty : Spells "" [] := by
  intro done
  simp [Splitter.words]

theorem spells_word {w : String} (hw : IsWord w) : Spells w [w] := by
  intro done
  obtain ⟨hne, hall⟩ := hw
  cases hcs : w.toList with
  | nil => exact absurd (String.toList_eq_nil_iff.mp hcs) hne
  | cons c cs =>
      rw [hcs] at hall
      have hc := hall c (by simp)
      have hstep := Splitter.step_other (s := ⟨done, none, false⟩) hc.2 (fun h => absurd h hc.1)
      have hscan := Splitter.scan_word done [c] false cs (fun h => (hall _ (by simp [h])).2 rfl)
        (fun h => absurd rfl (hall _ (by simp [h])).1)
      rw [Splitter.scan_cons, hstep]
      simp only [Option.getD_none, List.nil_append]
      rw [hscan]
      simp [Splitter.words, ← hcs]

theorem spells_quoted {w : String} (hw : Quotable w) : Spells ("\"" ++ w ++ "\"") [w] := by
  intro done
  have hscan := Splitter.scan_word done [] true w.toList hw (fun _ => rfl)
  have htext : ("\"" ++ w ++ "\"").toList = '"' :: (w.toList ++ ['"']) := by simp
  rw [htext, Splitter.scan_cons, Splitter.step_quote, Splitter.scan_append]
  simp only [Option.getD_none, Bool.not_false]
  rw [hscan, Splitter.scan_cons, Splitter.step_quote]
  simp [Splitter.words]

theorem Spells.space {t u : String} {ws vs : List String} (ht : Spells t ws) (hu : Spells u vs) :
    Spells (t ++ " " ++ u) (ws ++ vs) := by
  intro done
  obtain ⟨hquoted, hwords⟩ := ht done
  have htext : (t ++ " " ++ u).toList = t.toList ++ ' ' :: u.toList := by simp
  rw [htext, Splitter.scan_append, Splitter.scan_cons, Splitter.step_space hquoted, hwords]
  simpa using hu (done ++ ws)

/-- A segment adds words behind any text: it is empty or sets itself off by a space. -/
def Adds (segment : String) (words : List String) : Prop :=
  ∀ (t : String) (ws : List String), Spells t ws → Spells (t ++ segment) (ws ++ words)

theorem Spells.adds {text : String} {words : List String} (h : Spells text words) :
    Adds (" " ++ text) words := by
  intro t ws ht
  rw [← String.append_assoc]
  exact ht.space h

theorem Adds.append {s u : String} {ws vs : List String} (hs : Adds s ws) (hu : Adds u vs) :
    Adds (s ++ u) (ws ++ vs) := by
  intro t us ht
  rw [← String.append_assoc, ← List.append_assoc]
  exact hu _ _ (hs _ _ ht)

theorem Adds.join {α : Type} {segment : α → String} {words : α → List String} {xs : List α}
    (hx : ∀ x ∈ xs, Adds (segment x) (words x)) :
    Adds (String.join (xs.map segment)) (xs.flatMap words) := by
  induction xs with
  | nil =>
      intro t ws ht
      simpa using ht
  | cons x xs ih =>
      have hrest := ih (fun y hy => hx y (by simp [hy]))
      simpa using (hx x (by simp)).append hrest

end MediaPipeline.CommandLine
