/-!
The kinds of elementary stream a container carries, with the letter that selects one in a stream
specifier and the word media probers use for it.
-/

namespace MediaPipeline

/-- Kind of an elementary stream that can be selected from an input. -/
inductive StreamType where
  | video
  | audio
  | subtitle
  deriving DecidableEq

namespace StreamType

def specifier : StreamType → String
  | video => "v"
  | audio => "a"
  | subtitle => "s"

/-- The word a prober reports for the kind. -/
def name : StreamType → String
  | video => "video"
  | audio => "audio"
  | subtitle => "subtitle"

/-- Every kind, in the order error messages list them. -/
def all : List StreamType :=
  [video, audio, subtitle]

def ofName? (word : String) : Option StreamType :=
  all.find? fun t => t.name = word

@[simp] theorem ofName?_name (t : StreamType) : ofName? t.name = some t := by
  cases t <;> decide

theorem specifier_injective {s t : StreamType} (h : s.specifier = t.specifier) : s = t := by
  cases s <;> cases t <;> first | rfl | exact absurd h (by decide)

end StreamType

end MediaPipeline
