import MediaPipeline.Decimal.Layout
import MediaPipeline.Graph.Spec

/-!
Ready-made filter steps. Each only fills in a specification.
-/

namespace MediaPipeline

inductive FadeDirection where
  | into
  | out
  deriving DecidableEq

def FadeDirection.name : FadeDirection → String
  | into => "in"
  | out => "out"

def seconds (x : Float) : String :=
  Decimal.text Decimal.plain x

namespace FilterSpec

/-- Resizes video; `-1` for a side keeps the aspect ratio. -/
def scale (width height : Int32) : FilterSpec :=
  { name := "scale", params := [("w", toString width), ("h", toString height)] }

def crop (width height x y : UInt32) : FilterSpec :=
  { name := "crop"
    params := [("w", toString width), ("h", toString height), ("x", toString x),
      ("y", toString y)] }

/-- Sets the timestamps of video frames. -/
def setpts (expression : String) : FilterSpec :=
  { name := "setpts", params := [("expr", expression)] }

def asetpts (expression : String) : FilterSpec :=
  { name := "asetpts", params := [("expr", expression)] }

def fade (direction : FadeDirection) (start frames : UInt32) : FilterSpec :=
  { name := "fade"
    params := [("t", direction.name), ("s", toString start), ("n", toString frames)] }

def afade (direction : FadeDirection) (start duration : Float) : FilterSpec :=
  { name := "afade"
    params := [("t", direction.name), ("st", seconds start), ("d", seconds duration)] }

/-- Keeps video between two times in seconds. -/
def trim (start stop : Float) : FilterSpec :=
  { name := "trim", params := [("start", seconds start), ("end", seconds stop)] }

/-- Keeps audio between two times in seconds. -/
def atrim (start stop : Float) : FilterSpec :=
  { name := "atrim", params := [("start", seconds start), ("end", seconds stop)] }

end FilterSpec

/-- Joins segments, each with the same numbers of video and audio streams. Sources come segment by
segment; one output is reserved for each video and audio stream. -/
def GlobalSpec.concat (segments video audio : Nat) : GlobalSpec :=
  let args := "concat=n=" ++ toString segments ++ ":v=" ++ toString video ++ ":a=" ++
    toString audio
  ({ args } : GlobalSpec).reserve (video + audio)

end MediaPipeline
