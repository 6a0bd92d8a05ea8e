/-!
The fewest decimal digits that identify a binary floating-point number. A finite value is taken
apart into `m * 2^q`; a decimal identifies it when it lies among the reals that round to it. For
each count of digits the two neighbours of the value on that decimal grid are tried, and the first
grid with a hit gives the digits. All comparisons are exact.
-/

namespace MediaPipeline.Decimal

/-- A finite non-negative value `m * 2^q`. -/
structure Binary where
  m : Nat
  q : Int
  /-- The gap to the value below is half the gap to the value above. -/
  narrowBelow : Bool

/-- The magnitude of a finite value from its bits; the sign is dropped. -/
def Binary.ofBits (bits : UInt64) : Binary :=
  let exponent := ((bits >>> 52) &&& 0x7FF).toNat
  let fraction := (bits &&& 0xFFFFFFFFFFFFF).toNat
  if exponent = 0 then
    ⟨fraction, -1074, false⟩
  else
    ⟨0x10000000000000 + fraction, (exponent : Int) - 1075, fraction == 0 && decide (1 < exponent)⟩

/-- The decimal `digits * 10^exponent`. -/
structure Scaled where
  digits : Nat
  exponent : Int
  deriving DecidableEq

inductive Tie where
  | toEven
  | up
  deriving DecidableEq

/-- Compares `a * 10^i` with `b * 2^j`. -/
def compareScaled (a : Nat) (i : Int) (b : Nat) (j : Int) : Ordering :=
  compare (a * Nat.pow 10 i.toNat * Nat.pow 2 (-j).toNat)
    (b * Nat.pow 2 j.toNat * Nat.pow 10 (-i).toNat)

namespace Binary

/-- Whether a decimal lies among the reals that round to the value. The ends of that interval
belong to it exactly when `m` is even. -/
def identifiedBy (x : Binary) (d : Scaled) : Bool :=
  let low := if x.narrowBelow then 4 * x.m - 1 else 4 * x.m - 2
  let high := 4 * x.m + 2
  let closed := x.m % 2 == 0
  let fromLow := compareScaled d.digits d.exponent low (x.q - 2)
  let fromHigh := compareScaled d.digits d.exponent high (x.q - 2)
  (fromLow == .gt || (closed && fromLow == .eq)) && (fromHigh == .lt || (closed && fromHigh == .eq))

/-- The least `k` with the value below `10^k`, for a value that is not zero. The binary logarithm
gives it or the number below it. -/
def scale (x : Binary) : Int :=
  let estimate := ((Nat.log2 x.m : Int) + x.q) * 30103 / 100000
  if compareScaled 1 estimate x.m x.q == .gt then estimate
  else if compareScaled 1 (estimate + 1) x.m x.q == .gt then estimate + 1
  else estimate + 2

/-- The integer part of the value divided by `10^k`. -/
def floorAt (x : Binary) (k : Int) : Nat :=
  (x.m * Nat.pow 2 x.q.toNat * Nat.pow 10 (-k).toNat) /
    (Nat.pow 2 (-x.q).toNat * Nat.pow 10 k.toNat)

def closer (x : Binary) (tie : Tie) (d : Nat) (k : Int) : Nat :=
  match compareScaled (2 * d + 1) k (2 * x.m) x.q with
  | .gt => d
  | .lt => d + 1
  | .eq => match tie with
    | .toEven => if d % 2 = 0 then d else d + 1
    | .up => d + 1

def onGrid? (x : Binary) (tie : Tie) (k : Int) : Option Scaled :=
  let d := x.floorAt k
  match x.identifiedBy ⟨d, k⟩, x.identifiedBy ⟨d + 1, k⟩ with
  | true, true => some ⟨x.closer tie d k, k⟩
  | true, false => some ⟨d, k⟩
  | false, true => some ⟨d + 1, k⟩
  | false, false => none

def exact (x : Binary) : Scaled :=
  ⟨x.m * Nat.pow 2 x.q.toNat * Nat.pow 5 (-x.q).toNat, -((-x.q).toNat : Int)⟩

end Binary

/-- Moves trailing zeros of the digits into the exponent, at most `fuel` of them. -/
def Scaled.stripZeros : Nat → Scaled → Scaled
  | 0, d => d
  | fuel + 1, d =>
    if d.digits ≠ 0 ∧ d.digits % 10 = 0 then stripZeros fuel ⟨d.digits / 10, d.exponent + 1⟩ else d

/-- The shortest decimal that identifies the value; seventeen digits are always enough. -/
def Binary.shortest (x : Binary) (tie : Tie) : Scaled :=
  if x.m = 0 then ⟨0, 0⟩
  else
    let k := x.scale
    let found := (List.range 17).findSome? fun n => x.onGrid? tie (k - (n + 1 : Nat))
    let d := found.getD x.exact
    d.stripZeros (Nat.log2 d.digits + 1)

end MediaPipeline.Decimal
