/-!
Numbers drawn from sums: each sum adds the third one and the thirty-first one before it, and of each
its upper bits are drawn.
-/

namespace MediaPipeline.Drawing

/-- The next sum, in front of the thirty others that are still needed. -/
def next (sums : List Nat) : List Nat :=
  ((sums[2]?.getD 0 + sums[30]?.getD 0) % 4294967296) :: sums.take 30

/-- The number that the last sum gives, below `2 ^ 31`. -/
def drawn (sums : List Nat) : Nat :=
  sums.headD 0 / 2

def terms : Nat → Nat → List Nat
  | 0, _ => []
  | count + 1, n => n :: terms count (16807 * n % 2147483647)

def advance : Nat → List Nat → List Nat
  | 0, sums => sums
  | count + 1, sums => advance count (next sums)

def start (seed : Nat) : List Nat :=
  let terms := terms 31 (if seed = 0 then 1 else seed)
  /- The first three sums are the first three terms again. -/
  advance 310 ((terms ++ terms.take 3).reverse.take 31)

end MediaPipeline.Drawing
