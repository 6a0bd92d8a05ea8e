import MediaPipeline.Proofs.CommandLine.Clauses

/-!
A command line with a filter graph, part by part: the sources that are read, the flags, the
statements of the graph and the labels that go to destinations. The parts are spelled here with
their own characters and not by the functions that compile, so that what holds of them holds of what
stands in the text.
-/

namespace MediaPipeline

/-- What a command line with a filter graph says, in the order in which it says it. -/
structure GraphCommand where
  sources : List InputNode
  flags : List (String × String)
  statements : List Clause
  /-- Labels, each with the destination that it goes to. -/
  mappings : List (Label × String)

namespace GraphCommand

def ofNodes (nodes : List Node) : GraphCommand where
  sources := nodes.filterMap Node.input?
  flags := (nodes.filterMap Node.option?).map fun n => (n.tag, n.value)
  statements := clauses nodes
  mappings := (nodes.filterMap Node.output?).flatMap fun n => n.inputs.map fun l => (l, n.name)

def pads (ls : List Label) : String :=
  String.join (ls.map fun l => "[" ++ l.text ++ "]")

def text (c : GraphCommand) (program : String) : String :=
  program ++ String.join (c.sources.map fun n => " -i " ++ n.name ++ " ") ++
    String.join (c.flags.map fun f => " " ++ f.1 ++ " " ++ f.2) ++ " -y -filter_complex \"" ++
    String.intercalate ";" (c.statements.map fun k =>
      pads k.inputs ++ " " ++ k.body ++ " " ++ pads k.outputs) ++ "\"" ++
    String.join (c.mappings.map fun m => " -map \"[" ++ m.1.text ++ "]\" " ++ m.2 ++ " ")

theorem join_flatMap {α : Type} (f : α → List String) (xs : List α) :
    String.join (xs.flatMap f) = String.join (xs.map fun x => String.join (f x)) := by
  induction xs with
  | nil => rfl
  | cons x xs ih => rw [List.flatMap_cons, String.join_append, ih, List.map_cons, String.join_cons]

theorem mappings_eq (n : OutputNode) :
    n.mappings = String.join (n.inputs.map fun l =>
      " -map \"[" ++ l.text ++ "]\" " ++ n.name ++ " ") := by
  refine congrArg String.join (List.map_congr_left fun l _ => ?_)
  simp [OutputNode.mapping, OutputNode.segment, Label.bracketed, ← String.toList_inj]

/-- A node list with a filter compiles to its parts. -/
theorem compile_eq_text {nodes : List Node} (hfilter : nodes.filterMap Node.filter? ≠ [])
    (program : String) : compile nodes program = (ofNodes nodes).text program := by
  have hprelude : graphPrelude nodes program ++ "\"" =
      program ++ String.join ((nodes.filterMap Node.input?).map InputNode.segment) ++
        String.join ((nodes.filterMap Node.option?).map OptionNode.segment) ++
        " -y -filter_complex \"" := by
    simp [graphPrelude, ← String.toList_inj]
  have hmappings : String.join ((nodes.filterMap Node.output?).map OutputNode.mappings) =
      String.join ((ofNodes nodes).mappings.map fun m =>
        " -map \"[" ++ m.1.text ++ "]\" " ++ m.2 ++ " ") := by
    rw [ofNodes, List.map_flatMap, join_flatMap]
    refine congrArg String.join (List.map_congr_left fun n _ => ?_)
    rw [mappings_eq, List.map_map]
    rfl
  rw [compile_of_filter program hfilter, hprelude, hmappings, text, ofNodes, List.map_map]
  rfl

end GraphCommand

end MediaPipeline
