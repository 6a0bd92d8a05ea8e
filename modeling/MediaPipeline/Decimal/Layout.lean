import MediaPipeline.Decimal.Shortest

/-!
How a floating-point number is written: its shortest digits, set out by a layout. A layout
says which numbers are written positionally, whether whole numbers keep a point, how ties between
equally short decimals go, and what stands for values that are not numbers.
-/

namespace MediaPipeline.Decimal

structure Layout where
  /-- Positional when the point stands after more than this many places to the left of the first
  digit (negative: zeros after the point) and at most `positionalTo` places to the right. -/
  positional : Option (Int × Int)
  wholePoint : Bool
  tie : Tie

/-- The text for a person or a command line: always positional, and whole numbers bare. -/
def plain : Layout :=
  ⟨none, false, .up⟩

/-- The text for a document that is read back as floating point: positional from `1e-5` up to and
excluding `1e16`, and never without a point or an exponent. -/
def document : Layout :=
  ⟨some (-4, 16), true, .toEven⟩

/-- Digits with the point after the first `point` of them; zeros fill what is missing. -/
def positionalText (l : Layout) (digits : List Char) (point : Int) : List Char :=
  if point ≤ 0 then
    '0' :: '.' :: (List.replicate (-point).toNat '0' ++ digits)
  else if point.toNat < digits.length then
    digits.take point.toNat ++ '.' :: digits.drop point.toNat
  else
    digits ++ List.replicate (point.toNat - digits.length) '0' ++
      (if l.wholePoint then ['.', '0'] else [])

def scientificText (digits : List Char) (point : Int) : List Char :=
  let exponent := point - 1
  let mantissa := match digits with
    | first :: rest@(_ :: _) => first :: '.' :: rest
    | _ => digits
  mantissa ++ 'e' :: (if exponent < 0 then '-' else '+') :: (toString exponent.natAbs).toList

def Scaled.text (l : Layout) (d : Scaled) : List Char :=
  let digits := (toString d.digits).toList
  let point := d.exponent + digits.length
  if d.digits = 0 then positionalText l ['0'] 1
  else match l.positional with
    | none => positionalText l digits point
    | some (low, high) =>
      if low ≤ point ∧ point ≤ high then positionalText l digits point
      else scientificText digits point

def text (l : Layout) (x : Float) : String :=
  if x.isNaN then "NaN"
  else
    let negative := x.toBits >>> 63 == 1
    let magnitude :=
      if x.isInf then ['i', 'n', 'f'] else ((Binary.ofBits x.toBits).shortest l.tie).text l
    String.ofList (if negative then '-' :: magnitude else magnitude)

end MediaPipeline.Decimal
