import MediaPipeline.Graph.Node

/-!
The nodes of a graph by kind, each group in creation order.
-/

namespace MediaPipeline

/-- Nodes of a graph grouped by kind. -/
structure Partition where
  inputs : List InputNode
  options : List OptionNode
  filters : List FilterNode
  globals : List GlobalNode
  outputs : List OutputNode
  deriving DecidableEq

namespace Partition

def empty : Partition :=
  ⟨[], [], [], [], []⟩

/-- Adds a node that comes before all others of its kind. -/
def cons (node : Node) (p : Partition) : Partition :=
  match node with
  | .input n => { p with inputs := n :: p.inputs }
  | .option n => { p with options := n :: p.options }
  | .filter n => { p with filters := n :: p.filters }
  | .global n => { p with globals := n :: p.globals }
  | .output n => { p with outputs := n :: p.outputs }

/-- Splits a node sequence by kind. -/
def ofNodes (nodes : List Node) : Partition :=
  nodes.foldr cons empty

/-- Number of nodes across all groups. -/
def length (p : Partition) : Nat :=
  p.inputs.length + p.options.length + p.filters.length + p.globals.length + p.outputs.length

def isEmpty (p : Partition) : Bool :=
  p.length == 0

theorem ofNodes_cons (node : Node) (nodes : List Node) :
    ofNodes (node :: nodes) = cons node (ofNodes nodes) := rfl

theorem ofNodes_eq (nodes : List Node) :
    ofNodes nodes =
      { inputs := nodes.filterMap Node.input?
        options := nodes.filterMap Node.option?
        filters := nodes.filterMap Node.filter?
        globals := nodes.filterMap Node.global?
        outputs := nodes.filterMap Node.output? } := by
  induction nodes with
  | nil => rfl
  | cons node nodes ih =>
      rw [ofNodes_cons, ih]
      cases node <;> rfl

@[simp] theorem length_cons (node : Node) (p : Partition) :
    (cons node p).length = p.length + 1 := by
  cases node <;> simp only [cons, length, List.length_cons] <;> omega

end Partition

end MediaPipeline
