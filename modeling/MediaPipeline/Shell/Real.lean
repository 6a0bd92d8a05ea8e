import MediaPipeline.Decimal.Shortest
import MediaPipeline.Text.Octets

/-!
Numbers with fractions as formats read and write them: kept in a binary precision, and written with
a number of places, with an exponent, or in base sixteen.
-/

namespace MediaPipeline.Shell

inductive Magnitude where
  | finite (m : Nat) (q : Int)
  | infinite
  | notANumber

structure Real where
  negative : Bool
  magnitude : Magnitude

/-- A binary precision: the number of digits, the least exponent of the last of them, and the
exponent at which no number is left. -/
structure Precision where
  digits : Nat
  least : Int
  top : Nat

namespace Precision

def double : Precision :=
  ⟨53, -1074, 1024⟩

def long : Precision :=
  ⟨64, -16445, 16384⟩

def quotient (n d : Nat) : Nat :=
  let q := n / d
  let twice := 2 * (n % d)
  if twice < d then q else if d < twice then q + 1 else q + q % 2

/-- The number closest to a fraction, and whether it is too large or too small to be kept. -/
def round (p : Precision) (n d : Nat) : Magnitude × Bool :=
  if n = 0 then (.finite 0 0, false)
  else
    let estimate : Int := (Nat.log2 n : Int) - (Nat.log2 d : Int) - (p.digits : Int)
    let at_ (q : Int) : Nat := quotient (n * Nat.pow 2 (-q).toNat) (d * Nat.pow 2 q.toNat)
    let fits (q : Int) : Bool := at_ q < Nat.pow 2 p.digits
    let q := if fits estimate then estimate else estimate + 1
    let q := if fits q then q else q + 1
    let q := max q p.least
    let m := at_ q
    if m = 0 then (.finite 0 0, true)
    else if (Nat.log2 m : Int) + q ≥ p.top then (.infinite, true)
    else (.finite m q, false)

end Precision

namespace Real

def digitOf (base : Nat) (c : Char) : Option Nat :=
  let v :=
    if c.isDigit then c.toNat - 48
    else if 'a' ≤ c ∧ c ≤ 'f' then c.toNat - 87
    else if 'A' ≤ c ∧ c ≤ 'F' then c.toNat - 55
    else base
  if v < base then some v else none

/-- Digits with a point among them: the number without the point, how many digits are behind it,
and what follows. -/
def takeDigits (base : Nat) (text : Octets) : Option (Nat × Nat × Octets) :=
  let isDigit (c : Char) : Bool := (digitOf base c).isSome
  let whole := text.takeWhile isDigit
  let rest := text.drop whole.length
  let (fraction, rest) := match rest with
    | '.' :: behind =>
      let fraction := behind.takeWhile isDigit
      if whole.isEmpty && fraction.isEmpty then ([], rest)
      else (fraction, behind.drop fraction.length)
    | _ => ([], rest)
  if whole.isEmpty && fraction.isEmpty then none
  else some ((whole ++ fraction).foldl (fun n c => base * n + (digitOf base c).getD 0) 0,
    fraction.length, rest)

def takeExponent (mark : Char) (text : Octets) : Int × Octets :=
  match text with
  | c :: rest =>
    if c.toLower != mark then (0, text)
    else
      let (negative, digits) := match rest with
        | '-' :: ds => (true, ds)
        | '+' :: ds => (false, ds)
        | ds => (false, ds)
      let run := digits.takeWhile Char.isDigit
      if run.isEmpty then (0, text)
      else
        let n : Nat := run.foldl (fun n c => 10 * n + (c.toNat - 48)) 0
        (if negative then -(n : Int) else n, digits.drop run.length)
  | [] => (0, [])

def startsWith (word : String) (text : Octets) : Bool :=
  (text.take word.length).map Char.toLower == word.toList

/-- The number at the front of a text behind white space, what follows, and whether it is out of
range. -/
def take? (p : Precision) (text : Octets) : Option (Real × Octets × Bool) :=
  let body := text.dropWhile fun c => c == ' ' || (9 ≤ c.toNat && c.toNat ≤ 13)
  let (negative, body) := match body with
    | '-' :: rest => (true, rest)
    | '+' :: rest => (false, rest)
    | rest => (false, rest)
  let make (m : Magnitude) (rest : Octets) (outOfRange : Bool) : Option (Real × Octets × Bool) :=
    some (⟨negative, m⟩, rest, outOfRange)
  let decimal : Option (Real × Octets × Bool) :=
    (takeDigits 10 body).bind fun (n, places, rest) =>
      let (e, rest) := takeExponent 'e' rest
      let size : Int := (Nat.log2 n : Int) * 30103 / 100000
      let e := e - (places : Int)
      if n = 0 then make (.finite 0 0) rest false
      else if size + e > 6000 then make .infinite rest true
      else if size + e < -6000 then make (.finite 0 0) rest true
      else
        let (m, outOfRange) := p.round (n * Nat.pow 10 e.toNat) (Nat.pow 10 (-e).toNat)
        make m rest outOfRange
  let hexadecimal : Option (Real × Octets × Bool) :=
    if !startsWith "0x" body then none
    else (takeDigits 16 (body.drop 2)).bind fun (n, places, rest) =>
      let (e, rest) := takeExponent 'p' rest
      let e := e - 4 * (places : Int)
      if n = 0 then make (.finite 0 0) rest false
      else if e > 40000 then make .infinite rest true
      else if e < -40000 then make (.finite 0 0) rest true
      else
        let (m, outOfRange) := p.round (n * Nat.pow 2 e.toNat) (Nat.pow 2 (-e).toNat)
        make m rest outOfRange
  if startsWith "infinity" body then make .infinite (body.drop 8) false
  else if startsWith "inf" body then make .infinite (body.drop 3) false
  else if startsWith "nan" body then make .notANumber (body.drop 3) false
  else hexadecimal.or decimal

/-! ### Writing -/

/-- The digits of a natural number, at least as many as asked for. -/
def paddedDigits (base width n : Nat) : Octets :=
  let digits := Nat.toDigits base n
  List.replicate (width - digits.length) '0' ++ digits

def pointed (places : Nat) (keepPoint : Bool) (digits : Octets) : Octets :=
  let whole := digits.take (digits.length - places)
  let fraction := digits.drop (digits.length - places)
  whole ++ if places = 0 && !keepPoint then [] else '.' :: fraction

/-- The closest multiple of `10^k`, divided by it; a tie goes to the even one. -/
def multiple (m : Nat) (q k : Int) : Nat :=
  let x : Decimal.Binary := ⟨m, q, false⟩
  x.closer .toEven (x.floorAt k) k

def fixed (places : Nat) (keepPoint : Bool) (m : Nat) (q : Int) : Octets :=
  pointed places keepPoint (paddedDigits 10 (places + 1) (multiple m q (-places)))

def scientificDigits (places m : Nat) (q : Int) : Octets × Int :=
  if m = 0 then (List.replicate (places + 1) '0', 0)
  else
    let scale := Decimal.Binary.scale ⟨m, q, false⟩
    let n := multiple m q (scale - 1 - places)
    if n < Nat.pow 10 (places + 1) then (paddedDigits 10 (places + 1) n, scale - 1)
    else (paddedDigits 10 (places + 1) (n / 10), scale)

def exponentText (e : Int) : Octets :=
  'e' :: (if e < 0 then '-' else '+') :: paddedDigits 10 2 e.natAbs

def scientific (places : Nat) (keepPoint : Bool) (m : Nat) (q : Int) : Octets :=
  let (digits, e) := scientificDigits places m q
  pointed places keepPoint digits ++ exponentText e

def stripZeros (text : Octets) : Octets :=
  if !text.contains '.' then text
  else
    let kept := (text.reverse.dropWhile (· == '0')).reverse
    if kept.getLast? = some '.' then kept.dropLast else kept

def general (digits : Nat) (keepZeros : Bool) (m : Nat) (q : Int) : Octets :=
  let digits := max digits 1
  let (ds, e) := scientificDigits (digits - 1) m q
  let strip (text : Octets) : Octets := if keepZeros then text else stripZeros text
  if e < -4 ∨ digits ≤ e then strip (pointed (digits - 1) keepZeros ds) ++ exponentText e
  else strip (fixed (digits - 1 - e).toNat keepZeros m q)

/-- In base sixteen. The first digit takes one bit in double precision and four in long. -/
def hexadecimal (p : Precision) (places : Option Nat) (keepPoint : Bool) (m : Nat) (q : Int) :
    Octets :=
  let firstBits := if p.digits = 53 then 1 else 4
  let all := (p.digits - firstBits) / 4
  let shift := if m = 0 then 0 else p.digits - 1 - Nat.log2 m
  let full := m * Nat.pow 2 shift
  let e : Int := if m = 0 then 0 else q - shift + 4 * all
  let kept := min all (places.getD all)
  let rounded := Precision.quotient full (Nat.pow 16 (all - kept))
  let digits := paddedDigits 16 (kept + 1) rounded
  let wide := digits.length > kept + 1
  let digits := if wide then digits.take (kept + 1) else digits
  let e := if wide then e + 4 else e
  let text := pointed kept keepPoint digits
  let text := match places with
    | none => stripZeros text
    | some n => text ++ List.replicate (n - kept) '0'
  '0' :: 'x' :: text ++ 'p' :: (if e < 0 then '-' else '+') :: Nat.toDigits 10 e.natAbs

end Real

end MediaPipeline.Shell
