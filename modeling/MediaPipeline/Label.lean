import MediaPipeline.StreamType

/-!
Labels name the pads of a filter graph. A label is plain text compared by value: two nodes that
mention the same text refer to the same pad.
-/

namespace MediaPipeline

/-- Named connection point between nodes. -/
structure Label where
  text : String
  deriving DecidableEq

namespace Label

def ofInput (index : Nat) (stream : StreamType) : Label :=
  ⟨toString index ++ ":" ++ stream.specifier⟩

/-- The label as it stands inside a filter graph. -/
def bracketed (label : Label) : String :=
  "[" ++ label.text ++ "]"

def bracketAll (labels : List Label) : String :=
  String.join (labels.map bracketed)

end Label

end MediaPipeline
