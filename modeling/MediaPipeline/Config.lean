/-!
How compiled pipelines are run: the program at the front of every command, and the shell the
command line is handed to.
-/

namespace MediaPipeline

/-- The program of a pipeline and the shell that runs its command line. -/
structure PipelineConfig where
  program : String := "ffmpeg"
  shell : String := "sh"
  deriving DecidableEq

namespace PipelineConfig

def programVariable : String := "FFCHAIN_FFMPEG"

def shellVariable : String := "FFCHAIN_SHELL"

/-- A setting, unless a variable has a value that is not empty. -/
def overridden (setting : String) (value : Option String) : String :=
  match value with
  | some v => if v.isEmpty then setting else v
  | none => setting

def ofEnvironment (lookup : String → Option String) : PipelineConfig where
  program := overridden "ffmpeg" (lookup programVariable)
  shell := overridden "sh" (lookup shellVariable)

end PipelineConfig

end MediaPipeline
