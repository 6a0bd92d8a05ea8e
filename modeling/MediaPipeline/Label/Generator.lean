import MediaPipeline.Label
import MediaPipeline.Random.ChaCha
import MediaPipeline.Random.Sample

/-!
Labels for pads the caller did not name: five different letters drawn from a keystream.
-/

namespace MediaPipeline

/-- The letters generated labels are drawn from. -/
def Label.alphabet : List Char :=
  "abcdefghijklmnopqrstuvwxyzABCDEFGHIJKLMNOPQRSTUVWXYZ".toList

def Label.generatedLength : Nat := 5

def Label.letter (i : Nat) : Char :=
  Label.alphabet.getD i 'a'

def Label.draw {σ : Type} (draw : σ → UInt32 × σ) (s : σ) : Label × σ :=
  let (indices, s) := Random.sample draw Label.alphabet.length Label.generatedLength s
  (⟨String.ofList (indices.map Label.letter)⟩, s)

structure LabelGenerator where
  words : Random.Keystream

namespace LabelGenerator

/-- A generator over the keystream of a key; a key of fresh random words gives labels no one can
predict. -/
def ofKey (key : Random.Key) : LabelGenerator :=
  ⟨.ofKey key⟩

def seeded (seed : UInt64) : LabelGenerator :=
  ofKey (.ofSeed seed)

def next (g : LabelGenerator) : Label × LabelGenerator :=
  let (label, words) := Label.draw Random.Keystream.next g.words
  (label, ⟨words⟩)

/-- The next `n` labels in order, and the generator after them. -/
def take : Nat → LabelGenerator → List Label × LabelGenerator
  | 0, g => ([], g)
  | n + 1, g =>
    let (label, g) := g.next
    let (labels, g) := take n g
    (label :: labels, g)

end LabelGenerator

end MediaPipeline
