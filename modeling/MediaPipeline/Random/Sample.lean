/-!
Sampling without replacement from a source of random words. Nothing is assumed of the words: each
choice is below its bound whatever they are.
-/

namespace MediaPipeline.Random

variable {σ : Type} (draw : σ → UInt32 × σ)

def wordCount : Nat := UInt32.size

/-- A choice below `n`: a word scaled down, with a second word drawn only where the part that is
cut off could still carry. -/
def below (n : Nat) (s : σ) : Nat × σ :=
  let (w, s) := draw s
  let scaled := w.toNat * n
  let high := scaled / wordCount
  let low := scaled % wordCount
  if low > wordCount - n then
    let (w, s) := draw s
    if low + w.toNat * n / wordCount ≥ wordCount then (high + 1, s) else (high, s)
  else
    (high, s)

/-- Adds choice `t` of round `j`; had `t` been chosen before, that place now holds `j`. -/
def place (chosen : List Nat) (t j : Nat) : List Nat :=
  chosen.map (fun x => if x = t then j else x) ++ [t]

/-- Adds one choice for each of `count` rounds, the first below `j + 1`. -/
def choose : Nat → Nat → List Nat → σ → List Nat × σ
  | 0, _, chosen, s => (chosen, s)
  | count + 1, j, chosen, s =>
    let (t, s) := below draw (j + 1) s
    choose count (j + 1) (place chosen t j) s

def sample (length amount : Nat) (s : σ) : List Nat × σ :=
  choose draw amount (length - amount) [] s

end MediaPipeline.Random
