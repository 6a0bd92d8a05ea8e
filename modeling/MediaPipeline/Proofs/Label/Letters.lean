import MediaPipeline.Label.Generator
import MediaPipeline.Proofs.Pipeline.Labels
import MediaPipeline.Proofs.Random.Sampling

/-!
What generated labels look like. The indices drawn for a label are different positions of the
alphabet, and so the label is made of different letters, whatever words they are drawn with. Such a
label is never mistaken for the reference to a stream of an input, nor broken by the marks of a
command.
-/

namespace MediaPipeline

namespace Label

/-- As many different letters as a generated label has. -/
structure Lettered (label : Label) : Prop where
  length : label.text.toList.length = generatedLength
  nodup : label.text.toList.Nodup
  isAlpha : ∀ c ∈ label.text.toList, c.isAlpha = true

/-! ### Drawing a label -/

theorem alphabet_nodup : alphabet.Nodup := by
  decide +kernel

theorem isAlpha_of_mem_alphabet : ∀ c ∈ alphabet, c.isAlpha = true :=
  List.all_eq_true.mp (by decide +kernel)

section

variable {σ : Type} (draw : σ → UInt32 × σ) (s : σ)

theorem draw_text :
    (Label.draw draw s).1.text.toList =
      (Random.sample draw alphabet.length generatedLength s).1.map letter :=
  String.toList_ofList

/-- The indices of a label are different positions of the alphabet, and its letters stand there. -/
theorem exists_positions :
    ∃ positions : List (Fin alphabet.length),
      (Random.sample draw alphabet.length generatedLength s).1 = positions.map Fin.val ∧
      positions.length = generatedLength ∧ positions.Nodup ∧
      (Label.draw draw s).1.text.toList = positions.map alphabet.get := by
  obtain ⟨hdistinct, hlength⟩ := Random.distinct_sample draw
    (show generatedLength ≤ alphabet.length by decide) (by decide) s
  rw [draw_text]
  generalize (Random.sample draw alphabet.length generatedLength s).1 = indices at *
  let positions : List (Fin alphabet.length) :=
    indices.attach.map fun i => ⟨i.1, hdistinct.lt i.1 i.2⟩
  have hindices : indices = positions.map Fin.val := by
    simp [positions]
  refine ⟨positions, hindices, ?_, ?_, ?_⟩
  · simpa [positions] using hlength
  · exact List.Nodup.of_map Fin.val (hindices ▸ hdistinct.nodup)
  · rw [hindices, List.map_map]
    refine List.map_congr_left fun i _ => ?_
    simp [letter]

theorem lettered_draw : (Label.draw draw s).1.Lettered := by
  obtain ⟨positions, -, hlength, hnodup, htext⟩ := exists_positions draw s
  constructor
  · rw [htext, List.length_map, hlength]
  · rw [htext]
    exact hnodup.map (List.nodup_iff_injective_get.mp alphabet_nodup)
  · rw [htext]
    intro c hc
    obtain ⟨i, -, rfl⟩ := List.mem_map.mp hc
    exact isAlpha_of_mem_alphabet _ (List.get_mem alphabet i)

end

/-! ### What the letters rule out -/

variable {label : Label}

theorem Lettered.not_mem (h : label.Lettered) {c : Char} (hc : c.isAlpha = false) :
    c ∉ label.text.toList := by
  intro hmem
  have halpha := h.isAlpha c hmem
  rw [hc] at halpha
  cases halpha

/-- The reference to a stream of an input has a colon. -/
theorem Lettered.ne_ofInput (h : label.Lettered) (index : Nat) (stream : StreamType) :
    label ≠ ofInput index stream := by
  rintro rfl
  have hcolon : ':' ∈ (ofInput index stream).text.toList := by
    simp [ofInput]
  exact h.not_mem (by decide) hcolon

end Label

/-! ### Generators -/

namespace LabelGenerator

theorem next_fst (g : LabelGenerator) :
    g.next.1 = (Label.draw Random.Keystream.next g.words).1 := by
  rw [next]

theorem lettered_next (g : LabelGenerator) : g.next.1.Lettered := by
  rw [next_fst]
  exact Label.lettered_draw Random.Keystream.next g.words

theorem lettered_take (g : LabelGenerator) (n : Nat) :
    ∀ label ∈ (g.take n).1, label.Lettered := by
  induction n generalizing g with
  | zero => nofun
  | succ n ih =>
      rw [take_succ]
      exact List.forall_mem_cons.mpr ⟨g.lettered_next, ih g.next.2⟩

end LabelGenerator

/-- Whatever words it is drawn with, a label is made of five different letters, found at positions of
the alphabet that are in range; so is every label of a seed. None of them has a mark of the command
language in it or is the reference to a stream of an input. -/
theorem generated_label_shape {σ : Type} (draw : σ → UInt32 × σ) (s : σ) (seed : UInt64) (n : Nat) :
    (∃ positions : List (Fin Label.alphabet.length),
      (Random.sample draw Label.alphabet.length Label.generatedLength s).1 =
        positions.map Fin.val ∧
      positions.length = Label.generatedLength ∧ positions.Nodup ∧
      (Label.draw draw s).1.text.toList = positions.map Label.alphabet.get) ∧
    ∀ label, label = (Label.draw draw s).1 ∨ label ∈ ((LabelGenerator.seeded seed).take n).1 →
      label.Lettered ∧ (∀ c ∈ ['[', ']', ';', ':', '"', ' '], c ∉ label.text.toList) ∧
      ∀ index stream, label ≠ Label.ofInput index stream := by
  refine ⟨Label.exists_positions draw s, fun label hlabel => ?_⟩
  have hlettered : label.Lettered := by
    rcases hlabel with rfl | hlabel
    · exact Label.lettered_draw draw s
    · exact LabelGenerator.lettered_take _ n label hlabel
  have hspecial : ['[', ']', ';', ':', '"', ' '].all (fun c => !c.isAlpha) = true := by decide
  refine ⟨hlettered, fun c hc => hlettered.not_mem ?_, hlettered.ne_ofInput⟩
  simpa using List.all_eq_true.mp hspecial c hc

/-- The first label of seed 7. -/
theorem generated_label_shape_tbhpd :
    (⟨"tbhpd"⟩ : Label) ∈ ((LabelGenerator.seeded 7).take 1).1 ∧ (⟨"tbhpd"⟩ : Label).Lettered := by
  have hmem : (⟨"tbhpd"⟩ : Label) ∈ ((LabelGenerator.seeded 7).take 1).1 := by
    decide +kernel
  have hshape := (generated_label_shape Random.Keystream.next (.ofKey (.ofSeed 7)) 7 1).2
  exact ⟨hmem, (hshape _ (.inr hmem)).1⟩

end MediaPipeline
