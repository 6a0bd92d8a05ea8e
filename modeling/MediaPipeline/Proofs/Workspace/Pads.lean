import MediaPipeline.Proofs.CommandLine.Parts
import MediaPipeline.Proofs.Workspace.Handles
import MediaPipeline.Proofs.Workspace.WellFormed

/-!
Pads are defined before they are used. A node is fed by labels that its call gave as text and by
labels of links through handles, and a handle leads to a node that the pipeline already had. So in
the command line of a pipeline built without label texts, each label in a statement or a mapping is
a sink of some statement or names a stream of the source whose `-i` stands at its number.
-/

namespace MediaPipeline

/-! ### The pads of a node -/

/-- The label is the text that stands for the video, the audio or the subtitles of input `index`. -/
def Label.IsStreamOf (l : Label) (index : Nat) : Prop :=
  l.text = toString index ++ ":v" ∨ l.text = toString index ++ ":a" ∨
    l.text = toString index ++ ":s"

theorem Label.isStreamOf_ofInput (index : Nat) (stream : StreamType) :
    (Label.ofInput index stream).IsStreamOf index := by
  have htext : (Label.ofInput index stream).text = toString index ++ (":" ++ stream.specifier) :=
    String.append_assoc
  cases stream with
  | video => exact .inl htext
  | audio => exact .inr (.inl htext)
  | subtitle => exact .inr (.inr htext)

namespace Node

/-- The labels that feed a node. Those of an option are kept and feed nothing. -/
def inputs : Node → List Label
  | filter n => n.inputs
  | global n => n.inputs
  | output n => n.inputs
  | input _ | option _ => []

/-- The node has a pad of this label that others can be fed by. -/
def Produces : Node → Label → Prop
  | input n, l => l.IsStreamOf n.index
  | filter n, l => l = n.output
  | global n, l => n.outputs.head? = some l
  | option _, _ | output _, _ => False

variable {n : Node} {l : Label}

theorem produces_of_defaultLabel (h : Pipeline.defaultLabel n = .ok l) : n.Produces l := by
  cases n with
  | input n =>
      cases h
      exact Label.isStreamOf_ofInput n.index .video
  | filter n =>
      cases h
      rfl
  | global n =>
      obtain ⟨inputs, outputs, args⟩ := n
      cases outputs <;> cases h
      rfl
  | option n | output n => cases h

theorem produces_of_streamLabel {stream : StreamType} (h : Pipeline.streamLabel stream n = .ok l) :
    n.Produces l := by
  cases n with
  | input n =>
      cases h
      exact Label.isStreamOf_ofInput n.index stream
  | filter n | global n | option n | output n => cases h

theorem clause?_inputs {k : Clause} (h : n.clause? = some k) : n.inputs = k.inputs := by
  cases n <;> cases h <;> rfl

end Node

namespace Pipeline

variable {p : Pipeline} {l : Label}

/-- What a link resolves to is its own text, or a pad of a node that is there. -/
theorem produces_of_resolve {link : Link} (h : p.resolve link = .ok l) :
    link = .label l ∨ ∃ (q : Nat) (m : Node), p.nodes[q]? = some m ∧ m.Produces l := by
  have hget : ∀ {r : Handle} {m : Node}, p.get? r = some m → m.Produces l →
      ∃ (q : Nat) (m : Node), p.nodes[q]? = some m ∧ m.Produces l := by
    intro r m hr hm
    obtain ⟨-, hid, -⟩ := get?_eq_some_iff.mp hr
    exact ⟨r.id, m, hid, hm⟩
  cases link with
  | label text =>
      cases h
      exact .inl rfl
  | node r =>
      simp only [resolve] at h
      cases hr : p.get? r with
      | none => simp [hr] at h
      | some m =>
          simp only [hr] at h
          exact .inr (hget hr (Node.produces_of_defaultLabel h))
  | stream r stream =>
      simp only [resolve] at h
      cases hr : p.get? r with
      | none => simp [hr] at h
      | some m =>
          simp only [hr] at h
          exact .inr (hget hr (Node.produces_of_streamLabel h))

theorem exists_link_of_mem {links : List Link} {labels : List Label}
    (h : p.resolveAll links = .ok labels) (hl : l ∈ labels) :
    ∃ link ∈ links, p.resolve link = .ok l := by
  have hall := mapM_eq_ok_iff.mp h
  obtain ⟨i, hi, rfl⟩ := List.mem_iff_getElem.mp hl
  have hlt : i < links.length := hall.length_eq ▸ hi
  exact ⟨links[i], List.getElem_mem hlt, List.forall₂_iff_get.mp hall |>.2 i hlt hi⟩

end Pipeline

theorem BuildCall.Stores.resolveAll_sources {call : BuildCall} {p : Pipeline} {n : Node}
    (h : call.Stores p n) : p.resolveAll call.sources = .ok n.inputs := by
  cases h with
  | input _ | option _ _ => rfl
  | filter _ _ _ hinputs | global _ hinputs | output _ _ hinputs => exact hinputs

/-! ### Definition before use -/

section

variable {as : List Action} {i : Issue as} {t : Nat} {p : Pipeline}

/-- A held node is where its call put it, behind the nodes that the call met. -/
theorem Issue.HeldBy.exists_stores (h : i.HeldBy t) (hp : (run as).pipelines[t]? = some p) :
    ∃ r, i.call.Stores r i.node ∧ i.position = r.nodes.length ∧
      r.nodes ++ [i.node] <+: p.nodes := by
  obtain ⟨since, hsince, hi⟩ := h
  obtain ⟨r, hr, -, -, hadd⟩ := Workspace.issues_iff.mp i.issues
  have hr' : (run i.moment).pipelines[i.number]? = some (i.call.perform r).2 := by
    rw [Issue.moment, run_concat, (Became.built i.call hr).getElem?_next]
  obtain ⟨q, hq, hg⟩ := hi.exists_grew hr'
  rw [← run_append, hsince, hp] at hq
  cases hq
  refine ⟨r, BuildCall.stores_of_added hadd, ?_, hadd.nodes ▸ hg.nodes⟩
  simp only [Issue.position, hr, Option.map_some, Option.getD_some]

theorem Issue.HeldBy.getElem? (h : i.HeldBy t) (hp : (run as).pipelines[t]? = some p) :
    p.nodes[i.position]? = some i.node := by
  obtain ⟨r, -, hposition, rest, hrest⟩ := h.exists_stores hp
  rw [← hrest, hposition, List.append_assoc, List.getElem?_append_right (Nat.le_refl _)]
  simp

/-- A label that feeds a node was given as text, or some node before it has a pad of that label. -/
theorem Issue.HeldBy.produced (h : i.HeldBy t) (hp : (run as).pipelines[t]? = some p) {l : Label}
    (hl : l ∈ i.node.inputs) :
    .label l ∈ i.call.sources ∨
      ∃ (q : Nat) (m : Node), q < i.position ∧ p.nodes[q]? = some m ∧ m.Produces l := by
  -- The link was resolved in the pipeline that the call met, whose nodes are the first of `p`.
  obtain ⟨r, hstores, hposition, rest, hrest⟩ := h.exists_stores hp
  obtain ⟨link, hlink, hresolve⟩ := Pipeline.exists_link_of_mem hstores.resolveAll_sources hl
  obtain rfl | ⟨q, m, hq, hm⟩ := Pipeline.produces_of_resolve hresolve
  · exact .inl hlink
  · obtain ⟨hlt, -⟩ := List.getElem?_eq_some_iff.mp hq
    refine .inr ⟨q, m, hposition ▸ hlt, ?_, hm⟩
    rw [← hrest, List.append_assoc, List.getElem?_append_left hlt, hq]

end

/-! ### Supply -/

/-- The label is a sink of a statement of the command, or names a stream of the source whose `-i`
stands at its number. -/
def GraphCommand.Supplies (c : GraphCommand) (l : Label) : Prop :=
  (∃ k ∈ c.statements, l ∈ k.outputs) ∨
    ∃ (i : Nat) (hi : i < c.sources.length), c.sources[i].index = i ∧ l.IsStreamOf i

theorem Pipeline.WellFormed.supplies {p : Pipeline} (h : p.WellFormed) {m : Node}
    (hm : m ∈ p.nodes) {l : Label} (hl : m.Produces l) :
    (GraphCommand.ofNodes p.nodes).Supplies l := by
  cases m with
  | input n =>
      have hmem : n ∈ p.nodes.filterMap Node.input? := List.mem_filterMap.mpr ⟨_, hm, rfl⟩
      obtain ⟨i, hi, rfl⟩ := List.mem_iff_getElem.mp hmem
      have hindex := h.index i _ (List.getElem?_eq_getElem hi)
      exact .inr ⟨i, hi, hindex, hindex ▸ hl⟩
  | filter n => exact .inl ⟨n.clause, mem_clauses hm rfl, List.mem_singleton.mpr hl⟩
  | global n => exact .inl ⟨n.clause, mem_clauses hm rfl, List.mem_of_mem_head? hl⟩
  | option n | output n => exact hl.elim

theorem supplies_of_run {as : List Action} {t : Nat} {p : Pipeline}
    (hp : (run as).pipelines[t]? = some p)
    (hno : ∀ i : Issue as, i.HeldBy t → ∀ l, .label l ∉ i.call.sources)
    {n : Node} (hn : n ∈ p.nodes) {l : Label} (hl : l ∈ n.inputs) :
    (GraphCommand.ofNodes p.nodes).Supplies l := by
  obtain ⟨k, hk⟩ := List.mem_iff_getElem?.mp hn
  obtain ⟨i, hi, -, rfl⟩ := exists_heldBy hp hk
  obtain htext | ⟨q, m, -, hq, hm⟩ := hi.produced hp hl
  · exact absurd htext (hno i hi l)
  · exact (wellFormed_of_run hp).supplies (List.mem_of_getElem? hq) hm

/-- Each node of a pipeline was stored by a call, and what feeds it was given to that call as text
or is a pad of a node before it. Where there is a filter, the nodes compile to the text of a command
with a filter graph; and where no call gave text, that command supplies each label that stands in
front of one of its statements or in one of its mappings. -/
theorem no_dangling_pad {as : List Action} {t : Nat} {p : Pipeline}
    (hp : (run as).pipelines[t]? = some p) :
    (∀ k n, p.nodes[k]? = some n → ∃ i : Issue as, i.HeldBy t ∧ i.position = k ∧ i.node = n) ∧
    (∀ i : Issue as, i.HeldBy t → p.nodes[i.position]? = some i.node ∧
      ∀ l ∈ i.node.inputs, .label l ∈ i.call.sources ∨
        ∃ (q : Nat) (m : Node), q < i.position ∧ p.nodes[q]? = some m ∧ m.Produces l) ∧
    (p.nodes.filterMap Node.filter? ≠ [] →
      let c := GraphCommand.ofNodes p.nodes
      (∀ program, compile p.nodes program = c.text program) ∧
      ((∀ i : Issue as, i.HeldBy t → ∀ l, .label l ∉ i.call.sources) →
        (∀ k ∈ c.statements, ∀ l ∈ k.inputs, c.Supplies l) ∧
        ∀ m ∈ c.mappings, c.Supplies m.1)) := by
  refine ⟨fun k n hn => exists_heldBy hp hn,
    fun i hi => ⟨hi.getElem? hp, fun l hl => hi.produced hp hl⟩, fun hfilter =>
    ⟨GraphCommand.compile_eq_text hfilter, fun hno => ⟨fun k hk l hl => ?_, fun m hm => ?_⟩⟩⟩
  · obtain ⟨n, hn, hclause⟩ := exists_node_of_mem_clauses hk
    exact supplies_of_run hp hno hn (Node.clause?_inputs hclause ▸ hl)
  · obtain ⟨o, ho, hmo⟩ := List.mem_flatMap.mp hm
    obtain ⟨l, hl, rfl⟩ := List.mem_map.mp hmo
    have hmem : .output o ∈ p.nodes := by simpa using ho
    exact supplies_of_run hp hno hmem hl

/-- A copy of a pipeline that was emptied before, with an input between the filter and the overlay
that it feeds. -/
def overlaidRun : List Action :=
  [.create (.seeded 0) {}, .build 0 (.input "old.mp4"), .reset 0, .build 0 (.input "a.mp4"),
    .build 0 (.filter [.node ⟨1, 0, .input⟩]
      { name := "scale", params := [("w", "320")], output := some ⟨"small"⟩ }),
    .copy 0, .build 1 (.input "b.mp4"),
    .build 1 (.global [.stream ⟨1, 2, .input⟩ .video, .node ⟨1, 1, .filter⟩]
      { args := "overlay", outputs := [⟨"over"⟩] }),
    .build 1 (.output [.node ⟨1, 3, .global⟩, .stream ⟨1, 0, .input⟩ .audio] "out.mp4")]

theorem no_dangling_pad_overlaidRun :
    ∃ p, (run overlaidRun).pipelines[1]? = some p ∧
      p.command ⟨1, 4, .output⟩ = .ok ("ffmpeg -i a.mp4  -i b.mp4  -y -filter_complex \"" ++
        "[1:v][small] overlay [over];[0:v] scale=w=320 [small]\"" ++
        " -map \"[over]\" out.mp4  -map \"[0:a]\" out.mp4 ") ∧
      let c := GraphCommand.ofNodes p.nodes
      c.sources.map InputNode.name = ["a.mp4", "b.mp4"] ∧
      c.statements = [⟨[⟨"1:v"⟩, ⟨"small"⟩], "overlay", [⟨"over"⟩]⟩,
        ⟨[⟨"0:v"⟩], "scale=w=320", [⟨"small"⟩]⟩] ∧
      (∀ k ∈ c.statements, ∀ l ∈ k.inputs, c.Supplies l) ∧ ∀ m ∈ c.mappings, c.Supplies m.1 := by
  have hno : ∀ i : Issue overlaidRun, ∀ l, .label l ∉ i.call.sources := by
    intro i l
    have hmem : .build i.number i.call ∈ overlaidRun :=
      i.within.subset (List.mem_append_right _ (List.mem_singleton_self _))
    simp only [overlaidRun, List.mem_cons, reduceCtorEq, Action.build.injEq, List.not_mem_nil,
      false_or, or_false] at hmem
    rcases hmem with ⟨-, h⟩ | ⟨-, h⟩ | ⟨-, h⟩ | ⟨-, h⟩ | ⟨-, h⟩ | ⟨-, h⟩ <;> rw [h] <;>
      simp [BuildCall.sources, Pipeline.sources]
  have hp : (run overlaidRun).pipelines[1]? = some _ := rfl
  obtain ⟨-, -, hcommand⟩ := no_dangling_pad hp
  obtain ⟨htext, hsupplies⟩ := hcommand (by decide)
  exact ⟨_, hp, congrArg Except.ok ((htext "ffmpeg").trans (by decide +kernel)), rfl,
    by decide +kernel, hsupplies fun i _ => hno i⟩

end MediaPipeline
