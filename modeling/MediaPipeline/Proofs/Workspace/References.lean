import Mathlib.Data.List.Basic
import MediaPipeline.Proofs.Decimal.Counting
import MediaPipeline.Proofs.Workspace.WellFormed

/-!
References to the streams of inputs. The label of a stream is the number of its input, a colon and
the letter of the stream, and there is one way only to read it. Inputs are numbered in the order in
which they stand in a pipeline. So two links that lead to inputs have one label exactly if they lead
to the same stream of the same input, whether they name the stream or leave it at the video.
-/

namespace MediaPipeline

/-! ### Texts -/

namespace Label

/-- The text reads as the digits of a number, a colon and the letter of a stream. -/
def Refers (label : Label) (index : Nat) (stream : StreamType) : Prop :=
  ∃ digits, Decimal.Figures digits index ∧
    label.text.toList = digits ++ ':' :: stream.specifier.toList

variable {label : Label} {i j : Nat} {s t : StreamType}

theorem refers_ofInput (index : Nat) (stream : StreamType) :
    (ofInput index stream).Refers index stream := by
  refine ⟨Nat.toDigits 10 index, Decimal.figures_toDigits index, ?_⟩
  simp [ofInput]

theorem colon_not_mem_specifier (stream : StreamType) : ':' ∉ stream.specifier.toList := by
  cases stream <;> decide

theorem Refers.unique (hi : label.Refers i s) (hj : label.Refers j t) : i = j ∧ s = t := by
  obtain ⟨digits, ⟨-, hdigits, hi⟩, htext⟩ := hi
  obtain ⟨digits', ⟨-, -, hj⟩, htext'⟩ := hj
  -- The only colon of the text is the one between the number and the letter.
  have hcolon : ':' ∉ digits := fun hmem => absurd (hdigits ':' hmem) (by decide)
  obtain ⟨rfl, -, hletter⟩ := (List.append_cons_inj_of_notMem hcolon
    (colon_not_mem_specifier s)).mp (htext.symm.trans htext')
  exact ⟨hi.symm.trans hj, StreamType.specifier_injective (String.toList_injective hletter)⟩

theorem refers_ofInput_iff : (ofInput i s).Refers j t ↔ j = i ∧ t = s := by
  constructor
  · exact fun h => h.unique (refers_ofInput i s)
  · rintro ⟨rfl, rfl⟩
    exact refers_ofInput j t

theorem ofInput_inj : ofInput i s = ofInput j t ↔ i = j ∧ s = t := by
  rw [← refers_ofInput_iff]
  constructor
  · exact fun h => h ▸ refers_ofInput i s
  · intro h
    obtain ⟨rfl, rfl⟩ := refers_ofInput_iff.mp h
    rfl

end Label

/-! ### Numbers of inputs -/

namespace Pipeline

variable {p : Pipeline}

namespace WellFormed

variable {j k : Nat} {m n : InputNode}

/-- The number of an input is how many inputs stand before it. -/
theorem index_eq (h : p.WellFormed) (hk : p.nodes[k]? = some (.input n)) :
    n.index = ((p.nodes.take k).filterMap Node.input?).length := by
  have hnodes : p.nodes = p.nodes.take k ++ .input n :: p.nodes.drop (k + 1) := by
    obtain ⟨hlt, hget⟩ := List.getElem?_eq_some_iff.mp hk
    rw [← hget, List.getElem_cons_drop, List.take_append_drop]
  refine h.index _ n ?_
  nth_rewrite 1 [hnodes]
  rw [List.filterMap_append, List.getElem?_append_right (Nat.le_refl _), Nat.sub_self]
  rfl

/-- Inputs have their numbers in the order in which they stand. -/
theorem index_lt (h : p.WellFormed) (hj : p.nodes[j]? = some (.input m))
    (hk : p.nodes[k]? = some (.input n)) (hjk : j < k) : m.index < n.index := by
  have hsub : (p.nodes.take (j + 1)).Sublist (p.nodes.take k) := List.take_sublist_take_left hjk
  have hle := (hsub.filterMap Node.input?).length_le
  rw [List.take_add_one, hj, Option.toList_some, List.filterMap_append, List.length_append,
    ← h.index_eq hj, ← h.index_eq hk] at hle
  exact hle

theorem index_eq_iff (h : p.WellFormed) (hj : p.nodes[j]? = some (.input m))
    (hk : p.nodes[k]? = some (.input n)) : m.index = n.index ↔ j = k := by
  constructor
  · intro hindex
    obtain hlt | heq | hgt := Nat.lt_trichotomy j k
    · have hless := h.index_lt hj hk hlt
      omega
    · exact heq
    · have hless := h.index_lt hk hj hgt
      omega
  · rintro rfl
    cases hj.symm.trans hk
    rfl

end WellFormed

/-! ### Links to inputs -/

/-- The link leads to a stream of the input at position `k`: to the one that it names, and to the
video where it names none. -/
inductive Selects (p : Pipeline) : Link → Nat → StreamType → Prop
  | standard {h : Handle} {n : InputNode} : p.get? h = some (.input n) →
    Selects p (.node h) h.id .video
  | named {h : Handle} {n : InputNode} (stream : StreamType) : p.get? h = some (.input n) →
    Selects p (.stream h stream) h.id stream

theorem Selects.exists_resolve {link : Link} {k : Nat} {stream : StreamType}
    (h : p.Selects link k stream) :
    ∃ n, p.nodes[k]? = some (.input n) ∧ p.resolve link = .ok (.ofInput n.index stream) := by
  cases h with
  | standard hget | named _ hget =>
      obtain ⟨-, hid, -⟩ := get?_eq_some_iff.mp hget
      refine ⟨_, hid, ?_⟩
      simp only [resolve, hget]
      rfl

theorem WellFormed.resolve_eq_iff (hp : p.WellFormed) {link link' : Link} {j k : Nat}
    {s t : StreamType} (hj : p.Selects link j s) (hk : p.Selects link' k t) :
    p.resolve link = p.resolve link' ↔ j = k ∧ s = t := by
  obtain ⟨m, hm, hresolve⟩ := hj.exists_resolve
  obtain ⟨n, hn, hresolve'⟩ := hk.exists_resolve
  rw [hresolve, hresolve', Except.ok.injEq, Label.ofInput_inj, hp.index_eq_iff hm hn]

end Pipeline

/-- In every pipeline of a run, a link to an input resolves to a label that can be read in one way
only, as the number of inputs before that one and the stream that is meant; and two such links
resolve to one label exactly if they mean the same stream of the same input. -/
theorem input_references_unambiguous {as : List Action} {t : Nat} {p : Pipeline}
    (hp : (run as).pipelines[t]? = some p) :
    (∀ link k stream, p.Selects link k stream → ∃ n, p.nodes[k]? = some (.input n) ∧
      n.index = ((p.nodes.take k).filterMap Node.input?).length ∧
      p.resolve link = .ok (.ofInput n.index stream) ∧
      ∀ i s, (Label.ofInput n.index stream).Refers i s ↔ i = n.index ∧ s = stream) ∧
    ∀ link link' j k s s', p.Selects link j s → p.Selects link' k s' →
      (p.resolve link = p.resolve link' ↔ j = k ∧ s = s') := by
  have hwell := wellFormed_of_run hp
  refine ⟨fun link k stream h => ?_, fun _ _ _ _ _ _ hj hk => hwell.resolve_eq_iff hj hk⟩
  obtain ⟨n, hn, hresolve⟩ := h.exists_resolve
  exact ⟨n, hn, hwell.index_eq hn, hresolve, fun _ _ => Label.refers_ofInput_iff⟩

/-- More than ten inputs of one name, numbered anew after a reset, with an option between the last
two, and a copy in which the last was built. -/
def numberedRun : List Action :=
  [.create (.seeded 0) {}, .build 0 (.input "a.mp4"), .reset 0] ++
    List.replicate 10 (.build 0 (.input "a.mp4")) ++
    [.build 0 (.option { tag := "-t", value := "10" }), .copy 0, .build 1 (.input "a.mp4")]

theorem input_references_unambiguous_numberedRun :
    ∃ p, (run numberedRun).pipelines[1]? = some p ∧
      p.Selects (.node ⟨1, 1, .input⟩) 1 .video ∧ p.Selects (.node ⟨1, 11, .input⟩) 11 .video ∧
      p.Selects (.stream ⟨1, 11, .input⟩ .video) 11 .video ∧
      p.resolve (.node ⟨1, 11, .input⟩) = .ok ⟨"10:v"⟩ ∧
      (∀ i s, (⟨"10:v"⟩ : Label).Refers i s ↔ i = 10 ∧ s = .video) ∧
      p.resolve (.node ⟨1, 11, .input⟩) = p.resolve (.stream ⟨1, 11, .input⟩ .video) ∧
      p.resolve (.node ⟨1, 11, .input⟩) ≠ p.resolve (.node ⟨1, 1, .input⟩) := by
  have hp : (run numberedRun).pipelines[1]? = some _ := rfl
  obtain ⟨hreads, hsame⟩ := input_references_unambiguous hp
  refine ⟨_, hp, .standard rfl, .standard rfl, .named .video rfl, rfl, ?_, ?_, ?_⟩
  · obtain ⟨n, hn, -, -, hrefers⟩ := hreads (.node ⟨1, 11, .input⟩) 11 .video (.standard rfl)
    cases hn
    exact hrefers
  · exact (hsame _ _ _ _ _ _ (.standard rfl) (.named .video rfl)).mpr ⟨rfl, rfl⟩
  · intro heq
    obtain ⟨hposition, -⟩ := (hsame _ _ _ _ _ _ (.standard rfl) (.standard rfl)).mp heq
    exact absurd hposition (by decide)

end MediaPipeline
