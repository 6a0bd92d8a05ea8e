import MediaPipeline.Graph.Error
import MediaPipeline.Json.Reading

/-!
Failures of probing, and the one kind of failure that building, running and probing have in common.
-/

namespace MediaPipeline

/-- Why a media file could not be probed. -/
inductive ProbeError where
  | fileNotFound (path : String)
  /-- The prober could not be started. -/
  | notStarted (program : String) (failure : IoFailure)
  | failed (program : String) (stderr : String)
  | unreadable (error : Json.ReadError)

def ProbeError.message : ProbeError → String
  | fileNotFound path => "File not found: " ++ path
  | notStarted program failure =>
    "ffprobe execution failed: Failed to execute " ++ program ++ ": " ++ failure.message
  | failed program stderr => "ffprobe execution failed: " ++ program ++ " failed: " ++ stderr
  | unreadable error =>
    "Failed to parse ffprobe output: Failed to parse JSON: " ++ error.message

/-- A failure of any part of the library. -/
inductive ProcessingError where
  | invalidGraph (text : String)
  | fileNotFound (path : String)
  | program (text : String)
  | io (failure : IoFailure)
  deriving DecidableEq

def ProcessingError.message : ProcessingError → String
  | invalidGraph text => "Invalid graph: " ++ text
  | fileNotFound path => "File not found: " ++ path
  | program text => "FFmpeg error: " ++ text
  | io failure => "IO error: " ++ failure.message

def GraphError.processing : GraphError → ProcessingError
  | .io failure => .io failure
  | e@(.processFailure ..) => .program e.message
  | e => .invalidGraph e.message

def ProbeError.processing : ProbeError → ProcessingError
  | .fileNotFound path => .fileNotFound path
  | e => .program e.message

end MediaPipeline
