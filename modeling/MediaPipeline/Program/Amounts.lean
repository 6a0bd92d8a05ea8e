import MediaPipeline.Program.Columns
import MediaPipeline.Program.Numbers

/-!
Numbers with letters for powers of a thousand or of 1024 behind them, as they are used for amounts. A
number is a fraction, so nothing is lost before it is rounded.
-/

namespace MediaPipeline.Program.Amounts

open Shell.Quoting (plain)
open ProgramOption (flag value)

structure Amount where
  num : Int
  den : Nat

inductive Scale where
  | none
  | thousands
  | binary
  /-- Powers of 1024 whose letters are followed by another one. -/
  | binaryMarked
  /-- That other letter tells which powers are meant. -/
  | either
  deriving DecidableEq

def Scale.base : Scale → Nat
  | .binary | .binaryMarked => 1024
  | _ => 1000

def letters : Octets := "KMGTPEZY".toList

inductive Rounding where
  | up
  | down
  | fromZero
  | towardsZero
  | nearest

def Rounding.whole (r : Rounding) (num : Int) (den : Nat) : Int :=
  let size := num.natAbs
  let signed (n : Nat) : Int := if num < 0 then -(n : Int) else n
  let floor := size / den
  let ceiling := (size + den - 1) / den
  match r with
  | .up => signed (if num < 0 then floor else ceiling)
  | .down => signed (if num < 0 then ceiling else floor)
  | .fromZero => signed ceiling
  | .towardsZero => signed floor
  | .nearest => signed ((2 * size + den) / (2 * den))

/-! ### Reading -/

inductive Fault where
  | invalid
  | tooLarge
  | forbiddenLetter
  | badLetter
  | missingMark

def Fault.message (text : Octets) : Fault → Octets
  | .invalid => "invalid number: ".toList ++ plain text
  | .tooLarge => "value too large to be converted: ".toList ++ plain text
  | .forbiddenLetter =>
    "rejecting suffix in input: ".toList ++ plain text ++ " (consider using --from)".toList
  | .badLetter => "invalid suffix in input: ".toList ++ plain text
  | .missingMark =>
    "missing 'i' suffix in input: ".toList ++ plain text ++ " (e.g Ki/Mi/Gi)".toList

/-- The number at the front of a text, how many places it has, and what follows. -/
def take (scale : Scale) (text : Octets) : Except Fault (Amount × Nat × Octets) :=
  let (negative, body) : Bool × Octets := match text with
    | '-' :: rest => (true, rest)
    | rest => (false, rest)
  let digits := body.takeWhile Char.isDigit
  let rest := body.drop digits.length
  let fraction := if rest.head? == some '.' then some (rest.tail.takeWhile Char.isDigit) else none
  let rest := match fraction with
    | some f => rest.drop (f.length + 1)
    | none => rest
  let places := (fraction.getD []).length
  if digits.isEmpty && fraction.isNone || fraction == some [] then .error .invalid
  else if 27 < (digits.dropWhile (· == '0')).length then .error .tooLarge
  else
    let n : Int := natural (digits ++ fraction.getD [])
    let a : Amount := ⟨if negative then -n else n, Nat.pow 10 places⟩
    let times (factor : Nat) : Amount := { a with num := a.num * factor }
    match rest.dropWhile fun c => c == ' ' || c == '\t' with
    | [] => if rest.isEmpty && scale != .binaryMarked then .ok (a, places, [])
      else if scale = .binaryMarked then .error .missingMark
      else .error .badLetter
    | c :: rest =>
      match letters.idxOf? c with
      | none => .error .badLetter
      | some power =>
        match scale, rest with
        | .none, _ => .error .forbiddenLetter
        | .binaryMarked, 'i' :: rest | .either, 'i' :: rest =>
          .ok (times (Nat.pow 1024 (power + 1)), 0, rest)
        | .binaryMarked, _ => .error .missingMark
        | scale, rest => .ok (times (Nat.pow scale.base (power + 1)), 0, rest)

/-! ### Writing -/

/-- How often a number can be divided before it is below a base. -/
def powerOf (base : Nat) (a : Amount) : Nat :=
  go 400 a.den 0
where
  go : Nat → Nat → Nat → Nat
  | 0, _, power => power
  | fuel + 1, den, power =>
    if a.num.natAbs < base * den then power else go fuel (den * base) (power + 1)

def decimal (negative : Bool) (places : Nat) (scaled : Nat) : Octets :=
  (if negative then ['-'] else []) ++
    Shell.Real.pointed places false (Shell.Real.paddedDigits 10 (places + 1) scaled)

def shown (scale : Scale) (r : Rounding) (asked : Option Nat) (places : Nat) (a : Amount) : Octets :=
  if scale = .none then
    let places := asked.getD places
    let n := r.whole (a.num * (Nat.pow 10 places : Nat)) a.den
    decimal (n < 0) places n.natAbs
  else
    let base := scale.base
    let power := powerOf base a
    let den := a.den * Nat.pow base power
    let adjust := match asked with
      | some p => min (power * 3) p
      | none => if a.num.natAbs < 10 * den then 1 else 0
    let n := r.whole (a.num * (Nat.pow 10 adjust : Nat)) den
    let num := n.natAbs
    let carries := base * Nat.pow 10 adjust ≤ num
    let power := if carries then power + 1 else power
    let den := Nat.pow 10 adjust * if carries then base else 1
    let small := num != 0 && num < 10 * den && 0 < power
    let places := asked.getD (if small then 1 else 0)
    let scaled := (2 * num * Nat.pow 10 places + den) / (2 * den)
    let letter : Octets := if power = 0 then [] else (letters[power - 1]?).toList
    decimal (n < 0) places scaled ++ letter ++
      if scale = .binaryMarked && 0 < power then ['i'] else []

/-! ### The program -/

structure Rules where
  source : Scale := .none
  target : Scale := .none
  rounding : Rounding := .fromZero
  fields : List Span := [⟨1, some 1⟩]
  /-- What stands between fields; blanks where there is nothing said. -/
  separator : Option Char := none
  sourceUnit : Nat := 1
  targetUnit : Nat := 1
  suffix : Octets := []
  /-- The least width, and whether texts stand at its left. -/
  width : Nat := 0
  left : Bool := false
  zeros : Bool := false
  places : Option Nat := none
  front : Octets := []
  behind : Octets := []
  onFault : String := "abort"
  header : Nat := 0
  stop : Char := '\n'

def Rules.field (r : Rules) (number : Nat) (text : Octets) : Except Octets Octets := do
  let trimmed := if !r.suffix.isEmpty && r.suffix.length < text.length && r.suffix.isSuffixOf text
    then text.take (text.length - r.suffix.length) else text
  let body := trimmed.dropWhile fun c => c == ' ' || c == '\t'
  let auto := r.width = 0 && r.separator.isNone
  let width := if auto then
      if body.length < trimmed.length || 1 < number then trimmed.length else 0
    else r.width
  let (a, places, rest) ← (take r.source body).mapError fun f => f.message body
  if !rest.isEmpty then
    throw ("invalid suffix in input ".toList ++ plain body ++ ": ".toList ++ plain rest)
  let a : Amount := ⟨a.num * r.sourceUnit, a.den * r.targetUnit⟩
  let places := r.places.getD places
  let size := powerOf 10 a
  let general : Octets :=
    let (m, _) := Shell.Precision.long.round a.num.natAbs a.den
    let d : Shell.Directive := {
      left := false, plus := false, space := false, alternate := false, zeros := false, width := 0,
      precision := none, conversion := 'g' }
    d.real .long ⟨decide (a.num < 0), m⟩
  if r.target = .none && 18 < size + places then
    throw (if places = 0
      then "value too large to be printed: '".toList ++ general ++
        "' (consider using --to)".toList
      else "value/precision too large to be printed: '".toList ++ general ++ '/' ::
        Octets.ofNat places ++ "' (consider using --to)".toList)
  else if 26 < size then
    throw ("value too large to be printed: '".toList ++ general ++
      "' (cannot handle values > 999Y)".toList)
  let digits := shown r.target r.rounding r.places places a ++ r.suffix
  let sign := digits.takeWhile (· == '-')
  let filled := if r.zeros && !r.left then
      sign ++ List.replicate (width - digits.length) '0' ++ digits.drop sign.length
    else if r.left then padRight width digits
    else padLeft width digits
  pure (r.front ++ filled ++ r.behind)

/-- The fields of a line; blanks in front of a field belong to it, but for one that ends the field
before it. -/
def Rules.split (r : Rules) (line : Octets) : List Octets :=
  match r.separator with
  | some c => line.splitOn c
  | none => blank line.length line
where
  blank : Nat → Octets → List Octets
  | 0, text => [text]
  | fuel + 1, text =>
    let isBlank (c : Char) : Bool := c == ' ' || c == '\t' || c == '\n'
    let spaces := text.takeWhile isBlank
    let word := (text.drop spaces.length).takeWhile fun c => !isBlank c
    match text.drop (spaces.length + word.length) with
    | [] => [spaces ++ word]
    | _ :: rest => (spaces ++ word) :: blank fuel rest

structure Progress where
  out : Octets := []
  err : Octets := []
  failed : Bool := false
  stopped : Bool := false

def Rules.line (r : Rules) (i : Invocation) (p : Progress) (text : Octets) : Progress :=
  if p.stopped then p
  else
    let fields := r.split text
    let mark := r.separator.getD ' '
    let p := fields.zipIdx.foldl (fun (p : Progress) (f, n) =>
      if p.stopped then p
      else
        let p := if n = 0 then p else { p with out := p.out ++ [mark] }
        if !r.fields.any fun s => s.contains (n + 1) then { p with out := p.out ++ f }
        else match r.field (n + 1) f with
          | .ok text => { p with out := p.out ++ text }
          | .error text =>
            match r.onFault with
            | "ignore" => { p with out := p.out ++ f }
            | "warn" => { p with out := p.out ++ f, err := p.err ++ i.complaint text }
            | "fail" =>
              { p with out := p.out ++ f, err := p.err ++ i.complaint text, failed := true }
            | _ => { p with err := p.err ++ i.complaint text, failed := true, stopped := true }) p
    if p.stopped then p else { p with out := p.out ++ [r.stop] }

inductive Refusal where
  | wrong (text : Octets)
  | misused (text : Octets)
  | told (text : Octets)

def unitOf (text : Octets) : Except Refusal Nat :=
  let bad : Except Refusal Nat := .error (.wrong ("invalid unit size: ".toList ++ plain text))
  let digits := text.takeWhile Char.isDigit
  let n := if digits.isEmpty then 1 else natural digits
  let size? : Option Nat := match text.drop digits.length with
    | [] => if digits.isEmpty then none else some n
    | [c] => (letters.idxOf? c).map fun p => n * Nat.pow 1000 (p + 1)
    | [c, 'i'] => (letters.idxOf? c).map fun p => n * Nat.pow 1024 (p + 1)
    | _ => none
  match size? with
  | some n => if n = 0 then bad else .ok n
  | none => bad

def Rules.formatted (r : Rules) (format : Octets) : Except Refusal Rules :=
  let wrong (front back : String) : Except Refusal Rules :=
    .error (.wrong (front.toList ++ plain format ++ back.toList))
  let rec front : Octets → Octets → Octets × Octets
    | acc, '%' :: '%' :: rest => front ('%' :: acc) rest
    | acc, '%' :: rest => (acc.reverse, '%' :: rest)
    | acc, c :: rest => front (c :: acc) rest
    | acc, [] => (acc.reverse, [])
  match front [] format with
  | (_, []) => wrong "format " " has no % directive"
  | (before, _ :: rest) =>
    let flags := rest.takeWhile fun c => " 0'".toList.contains c
    let rest := rest.drop flags.length
    let (left, rest) : Bool × Octets := match rest with
      | '-' :: rest => (true, rest)
      | rest => (false, rest)
    let width := rest.takeWhile Char.isDigit
    let rest := rest.drop width.length
    let (places, rest) : Option Nat × Octets := match rest with
      | '.' :: behind =>
        let digits := behind.takeWhile Char.isDigit
        (some (natural digits), behind.drop digits.length)
      | rest => (none, rest)
    match rest with
    | [] => wrong "format " " ends in %"
    | 'f' :: behind =>
      let more := (front [] behind).2
      if !more.isEmpty then wrong "format " " has too many % directives"
      else .ok { r with
        front := before, behind, places := places.or r.places
        width := if width.isEmpty then r.width else natural width
        left := left || r.left, zeros := flags.contains '0' }
    | _ => wrong "invalid format " ", directive must be %[0]['][-][N][.][N]f"

def Rules.add (r : Rules) (i : Invocation) (key : String) (text : Octets) : Except Refusal Rules := do
  let wrong (what : String) : Except Refusal Rules :=
    .error (.wrong (what.toList ++ plain text))
  let chosen {α : Type} (known : List (List String)) (values : List α) (fallback : α) :
      Except Refusal α :=
    match i.choose text key known with
    | .ok n => .ok ((values[n]?).getD fallback)
    | .error text => .error (.told text)
  match key with
  | "from" =>
    let scale ← chosen [["none"], ["auto"], ["si"], ["iec"], ["iec-i"]]
      [.none, .either, .thousands, .binary, .binaryMarked] Scale.none
    pure { r with source := scale }
  | "to" =>
    let scale ← chosen [["none"], ["si"], ["iec"], ["iec-i"]]
      [.none, .thousands, .binary, .binaryMarked] Scale.none
    pure { r with target := scale }
  | "round" =>
    let rounding ← chosen [["up"], ["down"], ["from-zero"], ["towards-zero"], ["nearest"]]
      [.up, .down, .fromZero, .towardsZero, .nearest] Rounding.fromZero
    pure { r with rounding }
  | "invalid" =>
    let onFault ← chosen [["abort"], ["fail"], ["warn"], ["ignore"]]
      ["abort", "fail", "warn", "ignore"] "abort"
    pure { r with onFault }
  | "from-unit" => pure { r with sourceUnit := ← unitOf text }
  | "to-unit" => pure { r with targetUnit := ← unitOf text }
  | "suffix" => pure { r with suffix := text }
  | "padding" =>
    let (left, digits) : Bool × Octets := match text with
      | '-' :: rest => (true, rest)
      | rest => (false, rest)
    if digits.isEmpty || !digits.all Char.isDigit || natural digits = 0 then
      wrong "invalid padding value "
    else pure { r with width := natural digits, left }
  | "field" =>
    match if text == ['-'] then .ok [⟨1, none⟩] else spans .fields {} text with
    | .ok fields => pure { r with fields }
    | .error text => throw (.misused text)
  | "d" =>
    match text with
    | [] => pure { r with separator := some '\x00' }
    | [c] => pure { r with separator := some c }
    | _ => throw (.wrong "the delimiter must be a single character".toList)
  | "header" =>
    if text.isEmpty then pure { r with header := 1 }
    else if !text.all Char.isDigit || natural text = 0 then wrong "invalid header value "
    else pure { r with header := natural text }
  | "format" => r.formatted text
  | "z" => pure { r with stop := '\x00' }
  | _ => pure r

def numfmt (i : Invocation) : Outcome :=
  let known := [value 'd' "delimiter", flag 'z' "zero-terminated"] ++
    ProgramOption.names .none ["debug", "grouping"] ++ ProgramOption.names .joined ["header"] ++
    ProgramOption.names .needed ["field", "format", "from", "from-unit", "invalid", "padding", "round",
      "suffix", "to", "to-unit"]
  i.withOptions known 1 fun a =>
    let (formats, others) := a.options.partition fun o => o.1 == "format"
    match (others ++ formats).foldlM (fun r (key, text) => r.add i key text) ({} : Rules) with
    | .error (.wrong text) => i.fail 1 text
    | .error (.misused text) => i.misuse 1 text
    | .error (.told text) => { err := text, status := 1 }
    | .ok r =>
      if a.has "format" && a.has "grouping" then
        i.fail 1 "--grouping cannot be combined with --format".toList
      else if a.has "grouping" && r.target != .none then
        i.fail 1 "grouping cannot be combined with --to".toList
      else
        let ending (p : Progress) : Outcome :=
          { out := p.out, err := p.err, status := if p.failed then 2 else 0 }
        if !a.operands.isEmpty then ending (a.operands.foldl (fun p w => r.line i p w) {})
        else match i.input with
          | .error f => i.fail 1 ("error reading input: ".toList ++ f.toList)
          | .ok text =>
            let lines := records r.stop text
            let kept := lines.take r.header
            let p := (lines.drop r.header).foldl (fun p l => r.line i p l)
              { out := kept.flatMap fun l => l ++ [r.stop] }
            let lacksEnd := !text.isEmpty && text.getLast? != some r.stop && !p.stopped
            { ending { p with out := if lacksEnd then p.out.dropLast else p.out } with
                consumed := some text.length }

end MediaPipeline.Program.Amounts
