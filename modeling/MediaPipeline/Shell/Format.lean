import MediaPipeline.Calendar
import MediaPipeline.Shell.Arithmetic
import MediaPipeline.Shell.Quoting
import MediaPipeline.Shell.Real

/-!
Output text: escapes with a backslash, and formats with directives that arguments fill in. Shells of
both dialects and a program print in this way, each with words and escapes of its own.
-/

namespace MediaPipeline.Shell

inductive Printer where
  | shell (d : Dialect)
  | program
  deriving DecidableEq

/-! ### Escapes -/

/-- The number of a run of digits of up to `count` places, and what follows; none without digits. -/
def takeCode? (base count : Nat) (text : Octets) : Option (Nat × Octets) :=
  let run := (text.take count).takeWhile fun c => (digitBelow base c).isSome
  if run.isEmpty then none
  else some (run.foldl (fun n c => base * n + (digitBelow base c).getD 0) 0, text.drop run.length)

def escapedLetter? : Char → Option Char
  | 'a' => some '\x07'
  | 'b' => some '\x08'
  | 'e' => some '\x1b'
  | 'f' => some '\x0c'
  | 'n' => some '\n'
  | 'r' => some '\r'
  | 't' => some '\t'
  | 'v' => some '\x0b'
  | '\\' => some '\\'
  | _ => none

structure EscapeRules where
  /-- An octal number may have a zero in front of its three digits. -/
  zero : Bool
  needsZero : Bool := false
  codes : Bool
  quotes : Bool := false

/-- What the text behind a backslash stands for, and the rest. Other characters keep their
backslash. -/
def takeEscape (rules : EscapeRules) : Octets → Octets × Octets
  | [] => (['\\'], [])
  | c :: rest =>
    let kept : Octets × Octets := (['\\', c], rest)
    let byte (found : Option (Nat × Octets)) : Octets × Octets :=
      match found with
      | some (n, rest) => ([Char.ofNat (n % 256)], rest)
      | none => kept
    match escapedLetter? c with
    | some e => ([e], rest)
    | none =>
      if (digitBelow 8 c).isSome then
        if rules.zero && c == '0' then byte ((takeCode? 8 3 rest).or (some (0, rest)))
        else if rules.needsZero then kept
        else byte (takeCode? 8 3 (c :: rest))
      else if !rules.codes then kept
      else match c with
        | 'E' => (['\x1b'], rest)
        | 'x' => byte (takeCode? 16 2 rest)
        | 'u' | 'U' =>
          match takeCode? 16 (if c = 'u' then 4 else 8) rest with
          | some (n, rest) => (Octets.ofCode n, rest)
          | none => kept
        | '"' | '\'' | '?' => if rules.quotes then ([c], rest) else kept
        | _ => kept

def unescape (rules : EscapeRules) : Nat → Octets → Octets × Bool
  | 0, text => (text, false)
  | _, [] => ([], false)
  | _, '\\' :: 'c' :: _ => ([], true)
  | fuel + 1, '\\' :: rest =>
    let (chars, rest) := takeEscape rules rest
    let (more, stop) := unescape rules fuel rest
    (chars ++ more, stop)
  | fuel + 1, c :: rest =>
    let (more, stop) := unescape rules fuel rest
    (c :: more, stop)

/-- What is echoed: the arguments, with a line feed unless the options or an escape say otherwise.
In the standard dialect escapes are always replaced and `-n` is the only option. -/
def echoText (printer : Printer) (arguments : List Octets) : Octets :=
  let isOption (a : Octets) : Bool :=
    a.length > 1 && a.head? == some '-' && a.tail.all fun c => "neE".toList.contains c
  let options := match printer with
    | .shell .standard => if arguments.head? == some ['-', 'n'] then [['-', 'n']] else []
    | _ => arguments.takeWhile isOption
  let letters := options.flatMap List.tail
  let escapes := match printer with
    | .shell .standard => true
    | _ => (letters.reverse.find? fun c => c == 'e' || c == 'E') == some 'e'
  let rules : EscapeRules := match printer with
    | .shell .standard => { zero := true, codes := false }
    | .shell .extended => { zero := true, needsZero := true, codes := true }
    | .program => { zero := true, codes := true }
  let text := joinOctets [' '] (arguments.drop options.length)
  let (out, stop) := if escapes then unescape rules (text.length + 1) text else (text, false)
  if stop || letters.contains 'n' then out else out ++ ['\n']

/-! ### Directives -/

structure Directive where
  left : Bool
  plus : Bool
  space : Bool
  alternate : Bool
  zeros : Bool
  width : Nat
  precision : Option Nat
  conversion : Char

namespace Directive

def pad (d : Directive) (text : Octets) : Octets :=
  let fill := List.replicate (d.width - text.length) ' '
  if d.left then text ++ fill else fill ++ text

/-- Lays out a number from its sign and its digits. Zeros fill the width only from the right and,
for integers, only where no precision is given. -/
def number (d : Directive) (sign digits : Octets) (integer : Bool) : Octets :=
  if d.zeros && !d.left && !(integer && d.precision.isSome) then
    sign ++ List.replicate (d.width - sign.length - digits.length) '0' ++ digits
  else d.pad (sign ++ digits)

def sign (d : Directive) (negative : Bool) : Octets :=
  if negative then ['-'] else if d.plus then ['+'] else if d.space then [' '] else []

def digits (d : Directive) (base n : Nat) : Octets :=
  let digits := if n = 0 ∧ d.precision = some 0 then [] else Nat.toDigits base n
  List.replicate (d.precision.getD 1 - digits.length) '0' ++ digits

def signed (d : Directive) (n : Int) : Octets :=
  d.number (d.sign (decide (n < 0))) (d.digits 10 n.natAbs) true

def unsigned (d : Directive) (n : Nat) : Octets :=
  match d.conversion with
  | 'x' => d.number (if d.alternate && n != 0 then ['0', 'x'] else []) (d.digits 16 n) true
  | 'X' =>
    d.number (if d.alternate && n != 0 then ['0', 'X'] else [])
      ((d.digits 16 n).map Char.toUpper) true
  | 'o' =>
    let digits := d.digits 8 n
    d.number [] (if d.alternate && digits.head? != some '0' then '0' :: digits else digits) true
  | _ => d.number [] (d.digits 10 n) true

def real (d : Directive) (p : Precision) (x : Real) : Octets :=
  let raise (text : Octets) : Octets :=
    if d.conversion.isUpper then text.map Char.toUpper else text
  let sign := d.sign x.negative
  match x.magnitude with
  | .notANumber => { d with zeros := false }.number sign (raise "nan".toList) false
  | .infinite => { d with zeros := false }.number sign (raise "inf".toList) false
  | .finite m q =>
    let places := d.precision.getD 6
    match d.conversion.toLower with
    | 'f' => d.number sign (raise (Real.fixed places d.alternate m q)) false
    | 'e' => d.number sign (raise (Real.scientific places d.alternate m q)) false
    | 'g' => d.number sign (raise (Real.general places d.alternate m q)) false
    | _ =>
      let text := raise (Real.hexadecimal p d.precision d.alternate m q)
      d.number (sign ++ text.take 2) (text.drop 2) false

end Directive

/-! ### Formats -/

structure Filling where
  printer : Printer
  zone : Option Octets := none
  arguments : List Octets
  asked : Bool := false
  out : Array Char := #[]
  complaints : List Octets := []
  status : Nat := 0
  stopped : Bool := false

/-- Fills in a format; a fault of the format itself ends it, and what was written is kept. -/
abbrev Format := ExceptT Octets (StateM Filling)

namespace Format

def write (text : Octets) : Format Unit :=
  modify fun f => { f with out := f.out ++ text.toArray }

def argument : Format (Option Octets) :=
  modifyGet fun f => (f.arguments.head?, { f with arguments := f.arguments.tail, asked := true })

inductive NumberFault where
  | noNumber
  | rest
  | range

def complain (argument : Octets) (fault : NumberFault) : Format Unit := do
  let f ← get
  let range := "Numerical result out of range".toList
  let text := match f.printer, fault with
    | .shell .standard, .noNumber => argument ++ ": expected numeric value".toList
    | .shell .standard, .rest => argument ++ ": not completely converted".toList
    | .shell .standard, .range => argument ++ ": ".toList ++ range
    | .shell .extended, .range => "warning: ".toList ++ argument ++ ": ".toList ++ range
    | .shell .extended, _ =>
      let kind := match argument with
        | '0' :: 'x' :: _ | '0' :: 'X' :: _ => "hex "
        | '0' :: c :: _ => if c.isDigit then "octal " else ""
        | _ => ""
      argument ++ (": invalid " ++ kind ++ "number").toList
    | .program, .noNumber => Quoting.plain argument ++ ": expected a numeric value".toList
    | .program, .rest => Quoting.plain argument ++ ": value not completely converted".toList
    | .program, .range => Quoting.plain argument ++ ": ".toList ++ range
  let warning := match f.printer, fault with
    | .shell .extended, .range => true
    | _, _ => false
  set { f with complaints := f.complaints ++ [text], status := if warning then f.status else 1 }

/-- The number of the character in front of a text, or of its first byte in the standard dialect. -/
def letterCode (text : Octets) : Format Nat := do
  pure (if (← get).printer == .shell .standard then (text.head?.map Char.toNat).getD 0
    else text.firstCode)

/-- The number that an argument denotes, between two bounds; a quote in front makes it the number
of a character. -/
def integer (low high : Int) : Format Int := do
  match ← argument with
  | none => pure 0
  | some ('"' :: rest) | some ('\'' :: rest) => return (← letterCode rest)
  | some [] => do
    if (← get).printer == .program then complain [] .noNumber
    pure 0
  | some text =>
    match takeInteger text with
    | none => do
      complain text .noNumber
      pure 0
    | some (n, rest) =>
      if n < low ∨ high < n then complain text .range
      else if !rest.isEmpty then complain text .rest
      pure (max low (min high n))

def precision : Format Precision := do
  pure (if (← get).printer == .shell .standard then .double else .long)

def real : Format Real := do
  let zero : Real := ⟨false, .finite 0 0⟩
  let p ← precision
  match ← argument with
  | none => pure zero
  | some ('"' :: rest) | some ('\'' :: rest) =>
    return ⟨false, .finite (← letterCode rest) 0⟩
  | some [] => do
    if (← get).printer == .program then complain [] .noNumber
    pure zero
  | some text =>
    match Real.take? p text with
    | some (x, rest, outOfRange) => do
      if !rest.isEmpty then complain text .rest
      else if outOfRange then complain text .range
      pure x
    | none => do
      complain text .noNumber
      pure zero

/-- A natural number of a directive, written out or taken from an argument. -/
def count (text : Octets) : Format (Int × Octets) := do
  match text with
  | '*' :: rest => return (← integer Int32.minValue.toInt Int32.maxValue.toInt, rest)
  | _ =>
    let digits := text.takeWhile Char.isDigit
    let n : Nat := digits.foldl (fun n c => 10 * n + (c.toNat - 48)) 0
    return ((n : Int), text.drop digits.length)

def invalid {α : Type} (c : Char) (raw : Octets) : Format α := do
  let f ← get
  modify fun f => { f with status := if f.printer == .shell .standard then 2 else 1 }
  throw (match f.printer with
    | .shell .standard => raw ++ ": invalid directive".toList
    | .shell .extended => '\x60' :: c :: "': invalid format character".toList
    | .program => raw ++ ": invalid conversion specification".toList)

def missing {α : Type} (raw : Octets) : Format α := do
  let f ← get
  modify fun f => { f with status := if f.printer == .shell .standard then 2 else 1 }
  throw (match f.printer with
    | .shell .standard => "missing format character".toList
    | .shell .extended => '\x60' :: raw ++ "': missing format character".toList
    | .program => raw ++ ": invalid conversion specification".toList)

def fill (d : Directive) (raw : Octets) : Format Unit := do
  let printer := (← get).printer
  let cut (text : Octets) : Octets := match d.precision with
    | some p => text.take p
    | none => text
  match d.conversion with
  | 'd' | 'i' => write (d.signed (← integer Int64.minValue.toInt Int64.maxValue.toInt))
  | 'u' | 'x' | 'X' | 'o' =>
    let n ← integer Int64.minValue.toInt (UInt64.size - 1)
    write (d.unsigned (n % UInt64.size).toNat)
  | 'f' | 'F' | 'e' | 'E' | 'g' | 'G' | 'a' | 'A' => write (d.real (← precision) (← real))
  | 's' => write (d.pad (cut ((← argument).getD [])))
  | 'c' => write (d.pad [((← argument).bind List.head?).getD '\x00'])
  | 'b' =>
    let text := (← argument).getD []
    let rules : EscapeRules := { zero := true, codes := printer != .shell .standard }
    let (out, stop) := unescape rules (text.length + 1) text
    write (d.pad (cut out))
    if stop then modify fun f => { f with stopped := true }
  | 'q' =>
    match printer with
    | .shell .standard => invalid 'q' raw
    | .shell .extended => write (d.pad (Quoting.backslashed ((← argument).getD [])))
    | .program => write (d.pad (Quoting.asNeeded ((← argument).getD [])))
  | c => invalid c raw

def takeMomentFormat : Nat → Octets → Octets × Octets
  | _, [] => ([], [])
  | depth, c :: rest =>
    if c == ')' && depth = 0 then ([], rest)
    else
      let (format, behind) :=
        takeMomentFormat (if c == '(' then depth + 1 else if c == ')' then depth - 1 else depth) rest
      (c :: format, behind)

def momentBound : Nat := 128

def moment (d : Directive) (format : Octets) : Format Unit := do
  let f ← get
  let seconds ← if f.arguments.isEmpty then pure (-1)
    else integer Int64.minValue.toInt Int64.maxValue.toInt
  modify fun f => { f with asked := true }
  let seconds := if seconds = -1 ∨ seconds = -2 then Moment.present else seconds
  let seconds := if seconds.natAbs > 67767976233532799 then 0 else seconds
  let text := (Moment.onClock f.zone seconds).format false
    (if format.isEmpty then "%X".toList else format)
  let text := if text.length < momentBound then text else []
  write (d.pad (match d.precision with
    | some p => text.take p
    | none => text))

/-- Reads a directive from behind its sign, writes it, and gives what follows. -/
def directive (text : Octets) : Format Octets := do
  let standard := (← get).printer == .shell .standard
  let flags := text.takeWhile fun c => (if standard then "#-+ 0" else "#-+ 0'").toList.contains c
  let (width, rest) ← count (text.drop flags.length)
  let (precision, rest) ← match rest with
    | '.' :: rest => do
      let (p, rest) ← count rest
      pure (if p < 0 then none else some p.toNat, rest)
    | rest => pure (none, rest)
  let rest := if standard then rest else rest.dropWhile fun c => "hlLjzt".toList.contains c
  let raw (rest : Octets) : Octets := '%' :: text.take (text.length - rest.length)
  let d (conversion : Char) : Directive := {
    left := flags.contains '-' || decide (width < 0), plus := flags.contains '+',
    space := flags.contains ' ', alternate := flags.contains '#',
    zeros := flags.contains '0', width := width.natAbs, precision, conversion }
  match rest with
  | [] => missing (raw [])
  | '(' :: rest =>
    if (← get).printer != .shell .extended then
      fill (d '(') (raw rest)
      pure rest
    else
      let (format, behind) := takeMomentFormat 0 rest
      match behind with
      | 'T' :: behind => do
        moment (d 'T') format
        pure behind
      | _ => do
        let shown := behind.head?.getD ' '
        modify fun f => { f with complaints := f.complaints ++
          ["warning: \x60".toList ++ shown :: "': invalid time format specification".toList] }
        write ['%']
        pure text
  | c :: rest => do
    fill (d c) (raw rest)
    pure rest

def pass : Nat → Octets → Format Unit
  | 0, _ => pure ()
  | _, [] => pure ()
  | fuel + 1, '%' :: '%' :: rest => do
    write ['%']
    pass fuel rest
  | fuel + 1, '%' :: rest => do
    let rest ← directive rest
    if !(← get).stopped then pass fuel rest
  | fuel + 1, '\\' :: rest => do
    let printer := (← get).printer
    match printer, rest with
    | .program, 'c' :: _ => modify fun f => { f with stopped := true }
    | .program, 'x' :: rest => do
      match takeCode? 16 2 rest with
      | some (n, rest) => do
        write [Char.ofNat n]
        pass fuel rest
      | none => do
        modify fun f => { f with status := 1 }
        throw "missing hexadecimal number in escape".toList
    | _, _ => do
      let codes := printer != .shell .standard
      let (chars, rest) := takeEscape { zero := false, codes, quotes := codes } rest
      write chars
      pass fuel rest
  | fuel + 1, c :: rest => do
    write [c]
    pass fuel rest

/-- Goes through the format until no argument is left, but once at least. -/
def passes (format : Octets) : Nat → Format Unit
  | 0 => pure ()
  | fuel + 1 => do
    pass (format.length + 1) format
    let f ← get
    if !f.arguments.isEmpty && f.asked && !f.stopped then passes format fuel

end Format

structure Formatted where
  out : Octets
  complaints : List Octets
  status : Nat

def formatText (printer : Printer) (zone : Option Octets) (format : Octets)
    (arguments : List Octets) : Formatted :=
  let (result, f) := (Format.passes format (arguments.length + 1)).run { printer, zone, arguments }
  let last := match result, printer, f.arguments with
    | .error fault, _, _ => [fault]
    | .ok (), .program, extra :: _ =>
      if f.stopped then []
      else ["warning: ignoring excess arguments, starting with ".toList ++ Quoting.plain extra]
    | .ok (), _, _ => []
  ⟨f.out.toList, f.complaints ++ last, f.status⟩

end MediaPipeline.Shell
