import MediaPipeline.Failure
import MediaPipeline.Probe.Config
import MediaPipeline.Probe.Report
import MediaPipeline.Process.Output

/-!
Probing a file: the prober runs on it, and its report is read.
-/

namespace MediaPipeline

namespace ProbeConfig

def interpret (c : ProbeConfig) :
    Except IoFailure ProcessOutput → Except ProbeError MediaMetadata
  | .error failure => .error (.notStarted c.program failure)
  | .ok o =>
    if o.success then (MediaMetadata.ofReport o.stdoutText).mapError .unreadable
    else .error (.failed c.program o.stderrText)

/-- Probes the file at a path: `pathExists` looks for it, and `spawn` runs a program with its
arguments. -/
def run {m : Type → Type} [Monad m] (c : ProbeConfig) (pathExists : String → m Bool)
    (spawn : String → List String → m (Except IoFailure ProcessOutput)) (path : String) :
    m (Except ProbeError MediaMetadata) := do
  if ← pathExists path then
    c.interpret <$> spawn c.program (c.arguments path)
  else
    pure (.error (.fileNotFound path))

end ProbeConfig

end MediaPipeline
