import MediaPipeline.Graph.Node
import MediaPipeline.Json.Tree

/-!
Node lists as documents, for a person or a tool to look at. A node is an object whose first member
names its kind; the others are its fields in order. Labels are texts, and a parameter is a list of
its key and its value.
-/

namespace MediaPipeline

def Label.toJson (l : Label) : Json.Value :=
  .ofString l.text

def Label.listToJson (labels : List Label) : Json.Value :=
  .ofList (labels.map Label.toJson)

def parameterToJson (param : String × String) : Json.Value :=
  .ofList [.ofString param.1, .ofString param.2]

def InputNode.members (n : InputNode) : List (String × Json.Value) :=
  [("name", .ofString n.name), ("index", .ofNat n.index)]

def FilterNode.members (n : FilterNode) : List (String × Json.Value) :=
  [("inputs", Label.listToJson n.inputs), ("filter", .ofString n.filter),
    ("params", .ofList (n.params.map parameterToJson)), ("output", n.output.toJson)]

def GlobalNode.members (n : GlobalNode) : List (String × Json.Value) :=
  [("inputs", Label.listToJson n.inputs), ("outputs", Label.listToJson n.outputs),
    ("args", .ofString n.args)]

def OptionNode.members (n : OptionNode) : List (String × Json.Value) :=
  [("tag", .ofString n.tag), ("name", .ofString n.value),
    ("outputs", Label.listToJson n.outputs)]

def OutputNode.members (n : OutputNode) : List (String × Json.Value) :=
  [("name", .ofString n.name), ("inputs", Label.listToJson n.inputs)]

def Node.members : Node → List (String × Json.Value)
  | input n => n.members
  | filter n => n.members
  | global n => n.members
  | option n => n.members
  | output n => n.members

def Node.toJson (n : Node) : Json.Value :=
  .ofMembers (("type", .ofString n.kind.name) :: n.members)

def inspect (nodes : List Node) : String :=
  (Json.ofList (nodes.map Node.toJson)).toText

end MediaPipeline
