import MediaPipeline.Graph.Partition

/-!
The command line of a node sequence. Without a filter node it is a direct conversion,

    ffmpeg -y -i a.mp4  out.wav

otherwise the filter and global nodes become the statements of one quoted filter graph, and each
label of an output is selected by a mapping:

    ffmpeg -i a.mp4  -y -filter_complex "[0:v] scale=w=320:h=240 [v1]" -map "[v1]" out.mp4

Statements are separated by semicolons and the last is not terminated. The last filter node comes
after the global nodes.
-/

namespace MediaPipeline

/-! ### Statements of the filter graph -/

/-- Sources, body and sinks of a statement, with one space between them, and the semicolon that
ends it. -/
def statement (inputs : List Label) (body : String) (outputs : List Label) : String :=
  Label.bracketAll inputs ++ " " ++ body ++ " " ++ Label.bracketAll outputs ++ ";"

/-- A text without the semicolon that ends it, if one does. -/
def unterminated (text : String) : String :=
  if text.toList.getLast? = some ';' then String.ofList text.toList.dropLast else text

def parameterText (param : String × String) : String :=
  param.1 ++ "=" ++ param.2

def FilterNode.body (n : FilterNode) : String :=
  n.filter ++ "=" ++ String.intercalate ":" (n.params.map parameterText)

def FilterNode.statement (n : FilterNode) : String :=
  MediaPipeline.statement n.inputs n.body [n.output]

def GlobalNode.statement (n : GlobalNode) : String :=
  MediaPipeline.statement n.inputs n.args n.outputs

/-- The text of the filter graph, with `last` the last filter node: its statement comes after those
of the global nodes and is not terminated. -/
def Partition.filterGraph (p : Partition) (last : FilterNode) : String :=
  String.join (p.filters.dropLast.map FilterNode.statement) ++
    String.join (p.globals.map GlobalNode.statement) ++ unterminated last.statement

/-! ### Segments of the command line -/

def InputNode.segment (n : InputNode) : String :=
  " -i " ++ n.name ++ " "

def OptionNode.segment (n : OptionNode) : String :=
  " " ++ n.tag ++ " " ++ n.value

def OutputNode.segment (n : OutputNode) : String :=
  " " ++ n.name ++ " "

def OutputNode.mapping (n : OutputNode) (label : Label) : String :=
  " -map \"" ++ label.bracketed ++ "\"" ++ n.segment

/-- One mapping per label; labels that several outputs share are mapped for each. -/
def OutputNode.mappings (n : OutputNode) : String :=
  String.join (n.inputs.map n.mapping)

namespace Partition

/-- The command for a graph without filters: inputs straight to outputs. -/
def directCommand (p : Partition) (program : String) : String :=
  program ++ " -y" ++ String.join (p.inputs.map InputNode.segment) ++
    String.join (p.outputs.map OutputNode.segment)

def filterCommand (p : Partition) (program : String) (last : FilterNode) : String :=
  program ++ String.join (p.inputs.map InputNode.segment) ++
    String.join (p.options.map OptionNode.segment) ++ " -y -filter_complex \"" ++
    p.filterGraph last ++ "\"" ++ String.join (p.outputs.map OutputNode.mappings)

end Partition

/-- The command line that runs a node sequence with `program`. -/
def compile (nodes : List Node) (program : String) : String :=
  let p := Partition.ofNodes nodes
  match p.filters.getLast? with
  | none => p.directCommand program
  | some last => p.filterCommand program last

end MediaPipeline
