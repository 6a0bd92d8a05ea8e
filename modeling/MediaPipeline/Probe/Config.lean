import MediaPipeline.Json.Record

/-!
How media files are probed.
-/

namespace MediaPipeline

open Json (Reader ReadError Field Record)

structure ProbeConfig where
  program : String := "ffprobe"
  /-- Ask for the streams, not only for the container. -/
  includeStreams : Bool := true
  deriving DecidableEq

namespace ProbeConfig

def record : Record where
  name := "ProbeConfig"
  fields := [
    .standard "program" Reader.text,
    .standard "include_streams" Reader.boolean]

def read : Reader ProbeConfig := fun v => do
  let values ← record.read v
  let standard : ProbeConfig := {}
  pure {
    program := ← values.standard "program" Reader.text standard.program
    includeStreams := ← values.standard "include_streams" Reader.boolean standard.includeStreams }

/-- A configuration from its text; fields that are left out keep their standard values. -/
def ofText (text : String) : Except ReadError ProbeConfig :=
  Json.readText read text

def arguments (c : ProbeConfig) (path : String) : List String :=
  ["-v", "quiet", "-print_format", "json", "-show_format"] ++
    (if c.includeStreams then ["-show_streams"] else []) ++ [path]

end ProbeConfig

end MediaPipeline
