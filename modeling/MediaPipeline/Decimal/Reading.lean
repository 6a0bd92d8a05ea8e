/-!
Numbers from text. Unsigned integers have an optional plus sign and digits alone; floating-point
numbers have a sign, digits with at most one point, and an exponent, or are one of the words for
infinity and for what is not a number. Nothing else may stand before, between or after.
-/

namespace MediaPipeline.Decimal

def digit? (c : Char) : Option Nat :=
  if '0' ≤ c ∧ c ≤ '9' then some (c.toNat - '0'.toNat) else none

def isDigit (c : Char) : Bool :=
  (digit? c).isSome

/-- The number a list of digits stands for, after one that has been read already. -/
def accumulate (start : Nat) (digits : List Char) : Nat :=
  digits.foldl (fun n c => 10 * n + (digit? c).getD 0) start

def value (digits : List Char) : Nat :=
  accumulate 0 digits

/-- The unsigned integer below `bound` that a text denotes. -/
def unsigned? (bound : Nat) (text : List Char) : Option Nat :=
  let digits := match text with
    | '+' :: rest => rest
    | _ => text
  if digits ≠ [] ∧ digits.all isDigit ∧ value digits < bound then some (value digits) else none

def splitSign : List Char → Bool × List Char
  | '+' :: rest => (false, rest)
  | '-' :: rest => (true, rest)
  | text => (false, text)

/-- The floating-point number closest to `digits * 10^exponent`. -/
def nearest (digits : Nat) (exponent : Int) : Float :=
  .ofModel (.ofScientific digits exponent)

/-- The exponent part of a number: nothing, or a mark, a sign and at least one digit. -/
def exponent? : List Char → Option Int
  | [] => some 0
  | mark :: rest =>
    let (negative, digits) := splitSign rest
    if (mark = 'e' ∨ mark = 'E') ∧ digits ≠ [] ∧ digits.all isDigit then
      some (if negative then -(value digits : Int) else value digits)
    else
      none

/-- The part of a number after its sign, where it is not a word. -/
def magnitude? (text : List Char) : Option Float :=
  let whole := text.takeWhile isDigit
  let rest := text.dropWhile isDigit
  let (fraction, rest) := match rest with
    | '.' :: rest => (rest.takeWhile isDigit, rest.dropWhile isDigit)
    | _ => ([], rest)
  if whole = [] ∧ fraction = [] then none
  else (exponent? rest).map fun e =>
    nearest (accumulate (value whole) fraction) (e - fraction.length)

def lowerAscii (c : Char) : Char :=
  if 'A' ≤ c ∧ c ≤ 'Z' then Char.ofNat (c.toNat + 32) else c

/-- The floating-point number a text denotes; overflow gives an infinity and underflow zero. -/
def float? (text : List Char) : Option Float :=
  let (negative, rest) := splitSign text
  let word := String.ofList (rest.map lowerAscii)
  let magnitude :=
    if word = "inf" ∨ word = "infinity" then some (1 / 0)
    else if word = "nan" then some (0 / 0)
    else magnitude? rest
  magnitude.map fun x => if negative then -x else x

end MediaPipeline.Decimal
