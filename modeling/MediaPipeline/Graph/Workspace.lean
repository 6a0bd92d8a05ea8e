import MediaPipeline.Graph.Pipeline

/-!
Several pipelines side by side. They share the supply of owner stamps and nothing else: every new
pipeline and every reset takes the next stamp, and a copy keeps the stamp of the pipeline it was
taken from, so that the handles made so far work in both.
-/

namespace MediaPipeline

/-- Pipelines by number, and the next owner stamp. -/
structure Workspace where
  nextOwner : UInt64
  pipelines : List Pipeline

namespace Workspace

def empty : Workspace :=
  ⟨0, []⟩

/-- Adds a pipeline without nodes; its number is the count of pipelines before. -/
def create (w : Workspace) (labels : LabelGenerator) (config : PipelineConfig) : Workspace :=
  ⟨w.nextOwner + 1, w.pipelines ++ [.create w.nextOwner labels config]⟩

def copy (w : Workspace) (number : Nat) : Workspace :=
  { w with pipelines := w.pipelines ++ w.pipelines[number]?.toList }

def reset (w : Workspace) (number : Nat) : Workspace :=
  ⟨w.nextOwner + 1, w.pipelines.modify number fun p => p.reset w.nextOwner⟩

/-- Makes a building call on a pipeline; there is no outcome where there is no pipeline. -/
def build (w : Workspace) (number : Nat) (call : Pipeline → Pipeline.Built) :
    Option (Except GraphError Handle) × Workspace :=
  match w.pipelines[number]? with
  | none => (none, w)
  | some p =>
    let (outcome, p) := call p
    (some outcome, { w with pipelines := w.pipelines.set number p })

end Workspace

end MediaPipeline
