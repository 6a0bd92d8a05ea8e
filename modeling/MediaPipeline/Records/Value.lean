import MediaPipeline.Records.Script
import MediaPipeline.Shell.Format

/-!
Values of variables and fields: numbers and texts, each of which can stand for the other. A text that
was read rather than written in the script counts as a number where it looks like one.
-/

namespace MediaPipeline.Records

open Shell (Magnitude Precision Directive)

inductive Value where
  /-- Nothing has been put here: zero, and the empty text. -/
  | unset
  | number (x : Float)
  | text (t : Octets)
  | given (t : Octets)
  deriving Inhabited

/-! ### Numbers -/

namespace Number

def taken (x : Float) : Shell.Real :=
  if x.isNaN then ⟨true, .notANumber⟩
  else
    let negative := x.toBits >>> 63 == 1
    if x.isInf then ⟨negative, .infinite⟩
    else
      let b := Decimal.Binary.ofBits x.toBits
      ⟨negative, .finite b.m b.q⟩

def ofReal (r : Shell.Real) : Float :=
  let x : Float := match r.magnitude with
    | .finite m q => Float.scaleB (Float.ofNat m) q
    | .infinite => 1 / 0
    | .notANumber => 0 / 0
  if r.negative then -x else x

def ofText (t : Octets) : Float :=
  if t.length < 16 && !t.isEmpty && t.all Char.isDigit then Float.ofNat (natural t)
  else match Shell.Real.take? .double t with
    | some (r, _, _) => ofReal r
    | none => 0

/-- Whether a text looks like a number from its first character that is no blank to its last. -/
def isLike (t : Octets) : Bool :=
  let isBlank (c : Char) : Bool := c == ' ' || (9 ≤ c.toNat && c.toNat ≤ 13)
  let t := t.dropWhile isBlank
  let t := (t.reverse.dropWhile isBlank).reverse
  match t.head?, t.getLast? with
  | some c, some d =>
    (c.isDigit || "+-.".toList.contains c) && (d.isDigit || d == '.') &&
      (match Shell.Real.take? .double t with
        | some (_, rest, outOfRange) => rest.isEmpty && !outOfRange
        | none => false)
  | _, _ => false

def whole (x : Float) : Float :=
  if x < 0 then x.ceil else x.floor

def signedBound : Float :=
  9223372036854775808

def unsignedBound : Float :=
  18446744073709551616

def integer? (x : Float) : Option Int :=
  if x.isNaN || x < -signedBound || unsignedBound < x || x.floor != x then none
  else match (taken x).magnitude with
    | .finite m q =>
      let n : Nat := if q < 0 then m / Nat.pow 2 (-q).toNat else m * Nat.pow 2 q.toNat
      let n := min n (UInt64.size - 1)
      some (if x < 0 then -(n : Int) else n)
    | _ => none

/-- The integer nearest to a number on the side of zero, held between the least and the greatest that
there are. -/
def toInt (x : Float) : Int :=
  if x.isNaN then Int64.minValue.toInt
  else if unsignedBound ≤ x then UInt64.size - 1
  else if x < -signedBound then -Int64.maxValue.toInt
  else (integer? (whole x)).getD 0

/-- The integer that a number is, if it fits into half a word. -/
def short? (x : Float) : Option Int :=
  (integer? x).filter fun n => n.natAbs ≤ 2147483647

def toText (format : Float → Octets) (x : Float) : Octets :=
  match short? x with
  | some n => Octets.ofInt n
  | none => format x

/-- What is left of one number when another is taken away from it as often as it goes. -/
def remainder (x y : Float) : Float :=
  match (taken x).magnitude, (taken y).magnitude with
  | .finite _ _, .infinite => x
  | .finite m p, .finite n q =>
    if n = 0 then 0 / 0
    else
      let low := min p q
      let rest := (m * Nat.pow 2 (p - low).toNat) % (n * Nat.pow 2 (q - low).toNat)
      ofReal ⟨(taken x).negative, .finite rest low⟩
  | _, _ => 0 / 0

end Number

/-! ### Values -/

namespace Value

def zero : Value :=
  number 0

def ofNat (n : Nat) : Value :=
  number (Float.ofNat n)

def ofBool (b : Bool) : Value :=
  number (if b then 1 else 0)

def toNumber : Value → Float
  | unset => 0
  | number x => x
  | text t | given t => Number.ofText t

def toText (format : Float → Octets) : Value → Octets
  | unset => []
  | number x => Number.toText format x
  | text t | given t => t

def isNumeric : Value → Bool
  | unset | number _ => true
  | text _ => false
  | given t => Number.isLike t

/-- Whether a value counts as true: a number that is not zero, or a text that is not empty. -/
def isTrue : Value → Bool
  | unset => false
  | number x => x != 0
  | text t => !t.isEmpty
  | given t => if Number.isLike t then Number.ofText t != 0 else !t.isEmpty

end Value

def isBefore : Octets → Octets → Bool
  | _, [] => false
  | [], _ :: _ => true
  | a :: as, b :: bs => a < b || (a == b && isBefore as bs)

/-- Whether two values stand in a relation: as numbers if both count as such, and as texts
otherwise. -/
def Relation.holds (format : Float → Octets) (r : Relation) (a b : Value) : Bool :=
  if a.isNumeric && b.isNumeric then
    let (x, y) := (a.toNumber, b.toNumber)
    match r with
    | .lt => x < y
    | .le => x ≤ y
    | .eq => x == y
    | .ne => x != y
    | .gt => y < x
    | .ge => y ≤ x
  else
    let (s, t) := (a.toText format, b.toText format)
    match r with
    | .lt => isBefore s t
    | .le => !isBefore t s
    | .eq => s == t
    | .ne => s != t
    | .gt => isBefore t s
    | .ge => !isBefore s t

def Operation.apply (op : Operation) (x y : Float) : Float :=
  match op with
  | .add => x + y
  | .sub => x - y
  | .mul => x * y
  | .div => x / y
  | .rem => Number.remainder x y
  | .pow => Float.pow x y

end MediaPipeline.Records
