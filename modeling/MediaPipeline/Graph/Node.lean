import MediaPipeline.Label

/-!
The nodes of a pipeline description and the handles and links that refer to them. Nodes know each
other only through labels; handles belong to the pipeline that issued them.
-/

namespace MediaPipeline

inductive NodeKind where
  | input
  | filter
  | global
  | option
  | output
  deriving DecidableEq

namespace NodeKind

def name : NodeKind → String
  | input => "input"
  | filter => "filter"
  | global => "global"
  | option => "option"
  | output => "output"

def description (k : NodeKind) : String :=
  k.name ++ " node"

end NodeKind

/-- Reference to a node of one pipeline: the owner stamp of the pipeline when the node was built,
the node's position, and its kind. -/
structure Handle where
  owner : UInt64
  id : Nat
  kind : NodeKind
  deriving DecidableEq

/-- Anything a building call accepts as a source of data. -/
inductive Link where
  | label (label : Label)
  /-- The default pad of a node. -/
  | node (handle : Handle)
  | stream (input : Handle) (stream : StreamType)
  deriving DecidableEq

/-- The handle a link goes through, if it goes through one. -/
def Link.handle? : Link → Option Handle
  | label _ => none
  | node h => some h
  | stream h _ => some h

/-- External source, read by the program. -/
structure InputNode where
  name : String
  /-- Position among the inputs of the pipeline, from 0. -/
  index : Nat
  deriving DecidableEq

def InputNode.label (n : InputNode) (stream : StreamType) : Label :=
  .ofInput n.index stream

/-- One step of the filter graph with its parameters in order. -/
structure FilterNode where
  inputs : List Label
  filter : String
  params : List (String × String)
  output : Label
  deriving DecidableEq

/-- Statement of the filter graph in free form. -/
structure GlobalNode where
  inputs : List Label
  outputs : List Label
  args : String
  deriving DecidableEq

/-- Command-line flag outside of the filter graph; its labels are kept but never rendered. -/
structure OptionNode where
  tag : String
  value : String
  outputs : List Label
  deriving DecidableEq

/-- Destination file, with one mapping per label. -/
structure OutputNode where
  name : String
  inputs : List Label
  deriving DecidableEq

inductive Node where
  | input (node : InputNode)
  | filter (node : FilterNode)
  | global (node : GlobalNode)
  | option (node : OptionNode)
  | output (node : OutputNode)
  deriving DecidableEq

def Node.kind : Node → NodeKind
  | input _ => .input
  | filter _ => .filter
  | global _ => .global
  | option _ => .option
  | output _ => .output

/-! ### Nodes of one kind -/

namespace Node

def input? : Node → Option InputNode
  | input n => some n
  | _ => none

def filter? : Node → Option FilterNode
  | filter n => some n
  | _ => none

def global? : Node → Option GlobalNode
  | global n => some n
  | _ => none

def option? : Node → Option OptionNode
  | option n => some n
  | _ => none

def output? : Node → Option OutputNode
  | output n => some n
  | _ => none

@[simp] theorem input?_eq_some_iff {n : Node} {m : InputNode} :
    n.input? = some m ↔ n = .input m := by
  cases n <;> simp [input?]

@[simp] theorem filter?_eq_some_iff {n : Node} {m : FilterNode} :
    n.filter? = some m ↔ n = .filter m := by
  cases n <;> simp [filter?]

@[simp] theorem global?_eq_some_iff {n : Node} {m : GlobalNode} :
    n.global? = some m ↔ n = .global m := by
  cases n <;> simp [global?]

@[simp] theorem option?_eq_some_iff {n : Node} {m : OptionNode} :
    n.option? = some m ↔ n = .option m := by
  cases n <;> simp [option?]

@[simp] theorem output?_eq_some_iff {n : Node} {m : OutputNode} :
    n.output? = some m ↔ n = .output m := by
  cases n <;> simp [output?]

end Node

end MediaPipeline
