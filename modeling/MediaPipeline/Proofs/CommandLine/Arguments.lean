import MediaPipeline.Proofs.CommandLine.Clauses
import MediaPipeline.Proofs.CommandLine.Words

/-!
The argument vector of a command line. Names, tags and values are single words by assumption; what
stands between quotes may hold spaces. The line then splits into the program, two words for each
input, two for each option, the whole filter graph as one word, and three words for each mapping;
without a filter, into the program, the inputs and the destinations.
-/

namespace MediaPipeline

open CommandLine

def InputNode.words (n : InputNode) : List String :=
  ["-i", n.name]

def OptionNode.words (n : OptionNode) : List String :=
  [n.tag, n.value]

def OutputNode.words (n : OutputNode) : List String :=
  n.inputs.flatMap fun label => ["-map", label.bracketed, n.name]

/-- The arguments a node list stands for, with the program in front. -/
def commandWords (nodes : List Node) (program : String) : List String :=
  if nodes.filterMap Node.filter? = [] then
    program :: "-y" :: (nodes.filterMap Node.input?).flatMap InputNode.words ++
      (nodes.filterMap Node.output?).map OutputNode.name
  else
    program :: (nodes.filterMap Node.input?).flatMap InputNode.words ++
      (nodes.filterMap Node.option?).flatMap OptionNode.words ++
      ["-y", "-filter_complex", graphText nodes] ++
      (nodes.filterMap Node.output?).flatMap OutputNode.words

/-- What stands bare in the command line is one word each; what stands between quotes has no
quotes. -/
def Node.Splittable : Node → Prop
  | .input n => IsWord n.name
  | .option n => IsWord n.tag ∧ IsWord n.value
  | .output n => IsWord n.name ∧ ∀ label ∈ n.inputs, Quotable label.text
  | n => ∀ t ∈ n.graphTexts, Quotable t

/-! ### Segments -/

theorem InputNode.adds_segment {n : InputNode} (h : IsWord n.name) :
    Adds n.segment n.words := by
  have hflag : IsWord "-i" := by simp [IsWord]
  have hspells := ((spells_word hflag).space (spells_word h)).space spells_empty
  have htext : n.segment = " " ++ ("-i" ++ " " ++ n.name ++ " " ++ "") := by
    simp [InputNode.segment, ← String.toList_inj]
  rw [htext]
  exact hspells.adds

theorem OptionNode.adds_segment {n : OptionNode} (htag : IsWord n.tag) (hvalue : IsWord n.value) :
    Adds n.segment n.words := by
  have hspells := (spells_word htag).space (spells_word hvalue)
  have htext : n.segment = " " ++ (n.tag ++ " " ++ n.value) := by
    simp [OptionNode.segment, String.append_assoc]
  rw [htext]
  exact hspells.adds

theorem OutputNode.adds_segment {n : OutputNode} (h : IsWord n.name) :
    Adds n.segment [n.name] := by
  have hspells := (spells_word h).space spells_empty
  have htext : n.segment = " " ++ (n.name ++ " " ++ "") := by
    simp [OutputNode.segment, String.append_assoc]
  rw [htext]
  exact hspells.adds

theorem OutputNode.adds_mapping {n : OutputNode} {label : Label} (hname : IsWord n.name)
    (hlabel : Quotable label.text) :
    Adds (n.mapping label) ["-map", label.bracketed, n.name] := by
  have hflag : IsWord "-map" := by simp [IsWord]
  have hquotable : Quotable label.bracketed := by
    simpa [Quotable, Label.bracketed] using hlabel
  have hspells := (spells_word hflag).space (spells_quoted hquotable)
  have htext : n.mapping label =
      " " ++ ("-map" ++ " " ++ ("\"" ++ label.bracketed ++ "\"")) ++ n.segment := by
    simp [OutputNode.mapping, ← String.toList_inj]
  rw [htext]
  exact hspells.adds.append (adds_segment hname)

theorem adds_graph {g : String} (hg : Quotable g) :
    Adds (" -y -filter_complex " ++ "\"" ++ g ++ "\"") ["-y", "-filter_complex", g] := by
  have hyes : IsWord "-y" := by simp [IsWord]
  have hflag : IsWord "-filter_complex" := by simp [IsWord]
  have hspells := ((spells_word hyes).space (spells_word hflag)).space (spells_quoted hg)
  have htext : " -y -filter_complex " ++ "\"" ++ g ++ "\"" =
      " " ++ ("-y" ++ " " ++ "-filter_complex" ++ " " ++ ("\"" ++ g ++ "\"")) := by
    simp [← String.toList_inj]
  rw [htext]
  exact hspells.adds

/-! ### Groups of segments -/

section

variable {nodes : List Node} (hnodes : ∀ n ∈ nodes, n.Splittable)
include hnodes

theorem adds_inputs :
    Adds (String.join ((nodes.filterMap Node.input?).map InputNode.segment))
      ((nodes.filterMap Node.input?).flatMap InputNode.words) := by
  apply Adds.join
  intro n hn
  exact InputNode.adds_segment (hnodes (.input n) (by simpa using hn))

theorem adds_options :
    Adds (String.join ((nodes.filterMap Node.option?).map OptionNode.segment))
      ((nodes.filterMap Node.option?).flatMap OptionNode.words) := by
  apply Adds.join
  intro n hn
  have h := hnodes (.option n) (by simpa using hn)
  exact OptionNode.adds_segment h.1 h.2

theorem adds_destinations :
    Adds (String.join ((nodes.filterMap Node.output?).map OutputNode.segment))
      ((nodes.filterMap Node.output?).map OutputNode.name) := by
  rw [List.map_eq_flatMap (f := OutputNode.name)]
  apply Adds.join
  intro n hn
  exact OutputNode.adds_segment (hnodes (.output n) (by simpa using hn)).1

theorem adds_mappings :
    Adds (String.join ((nodes.filterMap Node.output?).map OutputNode.mappings))
      ((nodes.filterMap Node.output?).flatMap OutputNode.words) := by
  apply Adds.join
  intro n hn
  have h := hnodes (.output n) (by simpa using hn)
  apply Adds.join
  intro label hlabel
  exact OutputNode.adds_mapping h.1 (h.2 label hlabel)

theorem graphTexts_quotable : ∀ n ∈ nodes, ∀ t ∈ n.graphTexts, Quotable t := by
  intro n hn
  have h := hnodes n hn
  cases n with
  | filter _ | global _ => exact h
  | input _ | option _ | output _ => simp [Node.graphTexts]

end

/-- A command line splits into exactly the arguments its node list stands for. -/
theorem splitWords_compile (nodes : List Node) (program : String) (hprogram : IsWord program)
    (hnodes : ∀ n ∈ nodes, n.Splittable) :
    splitWords (compile nodes program) = some (commandWords nodes program) := by
  apply splitWords_of_spells
  have hstart := spells_word hprogram
  by_cases hfilters : nodes.filterMap Node.filter? = []
  · have hyes : Spells "-y" ["-y"] := spells_word (by simp [IsWord])
    have hline := ((hyes.adds.append (adds_inputs hnodes)).append (adds_destinations hnodes))
      program [program] hstart
    have hflag : " -y" = " " ++ "-y" := rfl
    rw [compile_of_no_filter program hfilters, commandWords, if_pos hfilters, hflag]
    simpa [String.append_assoc] using hline
  · have hgraph := adds_graph (not_mem_graphText (by simp) (graphTexts_quotable hnodes))
    have hline := ((((adds_inputs hnodes).append (adds_options hnodes)).append hgraph).append
      (adds_mappings hnodes)) program [program] hstart
    rw [compile_of_filter program hfilters, commandWords, if_neg hfilters, graphPrelude]
    simpa [String.append_assoc] using hline

/-- An option, texts with spaces and semicolons, and one destination with two labels. -/
theorem splitWords_compile_titled :
    let nodes : List Node :=
      [.input ⟨"a.mp4", 0⟩, .option ⟨"-t", "10", []⟩,
        .filter ⟨[⟨"0:v"⟩], "drawtext", [("text", "a; b")], ⟨"t 1"⟩⟩,
        .output ⟨"out.mp4", [⟨"t 1"⟩, ⟨"0:a"⟩]⟩]
    IsWord "ffmpeg" ∧ (∀ n ∈ nodes, n.Splittable) ∧
      splitWords (compile nodes "ffmpeg") =
        some ["ffmpeg", "-i", "a.mp4", "-t", "10", "-y", "-filter_complex",
          "[0:v] drawtext=text=a; b [t 1]", "-map", "[t 1]", "out.mp4",
          "-map", "[0:a]", "out.mp4"] := by
  intro nodes
  have hprogram : IsWord "ffmpeg" := by simp [IsWord]
  have hnodes : ∀ n ∈ nodes, n.Splittable := by
    simp [nodes, Node.Splittable, Node.graphTexts, IsWord, Quotable]
  refine ⟨hprogram, hnodes, ?_⟩
  rw [splitWords_compile nodes "ffmpeg" hprogram hnodes]
  rfl

end MediaPipeline
