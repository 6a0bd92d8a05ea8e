import MediaPipeline.Records.Value

/-!
Texts made from a format and the values that fill it in.
-/

namespace MediaPipeline.Records

open Shell (Directive)

inductive FormatFault where
  | tooFewValues
  | badDirective (number : Nat)

def FormatFault.message (command : String) (format : Octets) (f : FormatFault) : Octets :=
  let call := command.toList ++ "(\"".toList ++ format ++ "\")".toList
  match f with
  | tooFewValues => "not enough arguments passed to ".toList ++ call
  | badDirective n => "improper conversion(number ".toList ++ Octets.ofNat n ++ ") in ".toList ++ call

namespace Format

/-- A directive that is being read, with the values that are left. -/
structure Piece where
  rest : Octets
  values : List Value

/-- A width or a precision: digits, or a star that a value stands for. -/
def count (p : Piece) : Except FormatFault (Option Int × Piece) :=
  match p.rest with
  | '*' :: rest =>
    match p.values with
    | [] => .error .tooFewValues
    | v :: values => .ok (some (Number.toInt v.toNumber), ⟨rest, values⟩)
  | text =>
    let digits := text.takeWhile Char.isDigit
    let n : Option Int := if digits.isEmpty then none else some (natural digits : Nat)
    .ok (n, ⟨text.drop digits.length, p.values⟩)

def filled (d : Directive) (format : Float → Octets) (v : Value) : Option Octets :=
  let cut (t : Octets) : Octets := match d.precision with
    | some n => t.take n
    | none => t
  match d.conversion with
  | 'd' | 'i' => some (d.signed (Number.toInt v.toNumber))
  | 'u' | 'x' | 'X' | 'o' =>
    some (d.unsigned ((Number.toInt v.toNumber) % UInt64.size).toNat)
  | 'f' | 'F' | 'e' | 'E' | 'g' | 'G' => some (d.real .double (Number.taken v.toNumber))
  | 's' => some (d.pad (cut (v.toText format)))
  | 'c' =>
    some (d.pad (match v with
      | .number x => [Char.ofNat ((Number.toInt x) % 256).toNat]
      | v => [(v.toText format).head?.getD '\x00']))
  | _ => none

def directive (number : Nat) (format : Float → Octets) (p : Piece) :
    Except FormatFault (Octets × Piece) := do
  if p.values.isEmpty then throw .tooFewValues
  let flags := p.rest.takeWhile fun c => "-+ #0".toList.contains c
  let (width, p) ← count { p with rest := p.rest.drop flags.length }
  let (precision, p) ← match p.rest with
    | '.' :: rest => do
      let (n, p) ← count { p with rest }
      pure (some ((n.getD 0).toNat), p)
    | _ => pure (none, p)
  let rest := p.rest.dropWhile fun c => c == 'l' || c == 'h'
  let width := width.getD 0
  match rest, p.values with
  | c :: rest, v :: values =>
    let d : Directive := {
      left := flags.contains '-' || decide (width < 0), plus := flags.contains '+'
      space := flags.contains ' ', alternate := flags.contains '#'
      zeros := flags.contains '0' && c != 's' && c != 'c', width := width.natAbs, precision
      conversion := c }
    match filled d format v with
    | some text => pure (text, ⟨rest, values⟩)
    | none => throw (.badDirective number)
  | _, [] => throw .tooFewValues
  | [], _ => throw (.badDirective number)

def fill (format : Float → Octets) :
    Nat → Nat → Octets → Piece → Octets × Option FormatFault
  | 0, _, done, _ => (done, none)
  | fuel + 1, number, done, p =>
    let plain := p.rest.takeWhile (· != '%')
    match p.rest.drop plain.length with
    | [] => (done ++ plain, none)
    | '%' :: '%' :: rest => fill format fuel number (done ++ plain ++ ['%']) { p with rest }
    | _ :: rest =>
      match directive number format { p with rest } with
      | .error f => (done ++ plain, some f)
      | .ok (text, p) => fill format fuel (number + 1) (done ++ plain ++ text) p

end Format

/-- The text that values make of a format, up to what is wrong with it. Numbers among texts are
written by the other format. A format ends at a zero byte. -/
def formatted (number : Float → Octets) (format : Octets) (values : List Value) :
    Octets × Option FormatFault :=
  Format.fill number (format.length + 1) 1 [] ⟨format.takeWhile (· != '\x00'), values⟩

def formattedNumber (format : Octets) (x : Float) : Octets :=
  (formatted (fun _ => []) format [.number x]).1

end MediaPipeline.Records
