import MediaPipeline.Graph.Node

/-!
What a caller asks for when it adds a node: the arguments of filter steps, of global statements and
of option flags, each built up call by call.
-/

namespace MediaPipeline

structure FilterSpec where
  name : String
  params : List (String × String) := []
  /-- Sources that stand in for the caller's when there are any. -/
  inputs : List Link := []
  output : Option Label := none

namespace FilterSpec

def param (s : FilterSpec) (key value : String) : FilterSpec :=
  { s with params := s.params ++ [(key, value)] }

/-- Sets the sources, forgetting earlier ones. -/
def withInputs (s : FilterSpec) (links : List Link) : FilterSpec :=
  { s with inputs := links }

/-- Names the output, forgetting an earlier name. -/
def withOutput (s : FilterSpec) (label : Label) : FilterSpec :=
  { s with output := some label }

end FilterSpec

structure GlobalSpec where
  args : String
  inputs : List Link := []
  outputs : List Label := []
  /-- Number of labels generated when no output is named. -/
  reserved : Nat := 1

namespace GlobalSpec

def reserve (s : GlobalSpec) (count : Nat) : GlobalSpec :=
  { s with reserved := max count 1 }

/-- Sets the sources, forgetting earlier ones. -/
def withInputs (s : GlobalSpec) (links : List Link) : GlobalSpec :=
  { s with inputs := links }

/-- Names further outputs after those already named. -/
def withOutputs (s : GlobalSpec) (labels : List Label) : GlobalSpec :=
  { s with outputs := s.outputs ++ labels }

end GlobalSpec

structure OptionSpec where
  tag : String
  value : String
  outputs : List Link := []

end MediaPipeline
