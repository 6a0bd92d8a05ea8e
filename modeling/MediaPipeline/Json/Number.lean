import MediaPipeline.Decimal.Layout
import MediaPipeline.Decimal.Reading
import MediaPipeline.Json.Fault

/-!
Numbers inside a document. A numeral without fraction and exponent is an integer as long as it fits
64 bits; every other one is floating point, read as a 64-bit significand that is scaled once by a
power of ten.
-/

namespace MediaPipeline.Json

inductive Number where
  | unsigned (n : UInt64)
  /-- An integer below zero, down to `-2^63`, by its magnitude. -/
  | negative (n : UInt64)
  | float (x : Float)

structure Numeral where
  negative : Bool
  whole : List Char
  fraction : Option (List Char)
  exponent : Option (Bool × List Char)

/-- Takes a numeral apart; the text has been recognised as one. -/
def Numeral.ofText (text : List Char) : Numeral :=
  let (negative, rest) := Decimal.splitSign text
  let whole := rest.takeWhile Decimal.isDigit
  let rest := rest.dropWhile Decimal.isDigit
  let (fraction, rest) := match rest with
    | '.' :: rest => (some (rest.takeWhile Decimal.isDigit), rest.dropWhile Decimal.isDigit)
    | _ => (none, rest)
  let exponent := match rest with
    | [] => none
    | _ :: rest => some (Decimal.splitSign rest)
  ⟨negative, whole, fraction, exponent⟩

def maxSignificand : Nat := UInt64.size - 1

/-- Appends digits to a significand up to the first that does not fit; gives the significand and
the digits that are left. -/
def absorb (significand : Nat) : List Char → Nat × List Char
  | [] => (significand, [])
  | c :: rest =>
    let next := 10 * significand + (Decimal.digit? c).getD 0
    if next ≤ maxSignificand then absorb next rest else (significand, c :: rest)

def powerOfTen (n : Nat) : Float :=
  Float.ofScientific 1 false n

/-- The greatest power of ten that is finite. -/
def maxPower : Nat := 308

/-- Divides by powers of ten. No significand survives three divisions by the greatest. -/
def scaleDown : Nat → Float → Nat → Float
  | 0, _, _ => 0
  | steps + 1, x, n =>
    if n ≤ maxPower then x / powerOfTen n
    else scaleDown steps (x / powerOfTen maxPower) (n - maxPower)

def scaled (significand : Nat) (exponent : Int) : Except Fault Float :=
  let x := (UInt64.ofNat significand).toFloat
  if significand = 0 then .ok 0
  else if exponent < 0 then .ok (scaleDown 4 x exponent.natAbs)
  else if exponent > maxPower then .error .numberOutOfRange
  else
    let y := x * powerOfTen exponent.natAbs
    if y.isInf then .error .numberOutOfRange else .ok y

/-- The greatest exponent that is added up; a larger one goes to zero or out of range at once. -/
def maxExponent : Nat := 0x7FFFFFFF

def Numeral.magnitude (n : Numeral) : Except Fault Float :=
  let (significand, dropped) := absorb 0 n.whole
  let fraction := n.fraction.getD []
  let (significand, ignored) := absorb significand fraction
  let exponent : Int := dropped.length - (fraction.length - ignored.length : Nat)
  match n.exponent with
  | none => scaled significand exponent
  | some (down, digits) =>
    let size := Decimal.value digits
    if size > maxExponent then
      if significand ≠ 0 ∧ !down then .error .numberOutOfRange else .ok 0
    else scaled significand (if down then exponent - size else exponent + size)

def Numeral.number (n : Numeral) : Except Fault Number :=
  let (significand, dropped) := absorb 0 n.whole
  if n.fraction.isNone && n.exponent.isNone && dropped.isEmpty then
    let word := UInt64.ofNat significand
    if !n.negative then .ok (.unsigned word)
    else if 0 < significand ∧ significand ≤ 0x8000000000000000 then .ok (.negative word)
    else .ok (.float (-word.toFloat))
  else
    (fun x => .float (if n.negative then -x else x)) <$> n.magnitude

def Number.ofText (text : List Char) : Except Fault Number :=
  (Numeral.ofText text).number

def Number.toFloat : Number → Float
  | unsigned n => n.toFloat
  | negative n => -n.toFloat
  | float x => x

end MediaPipeline.Json
