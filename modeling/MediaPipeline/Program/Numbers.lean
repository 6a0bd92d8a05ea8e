import MediaPipeline.Program.Lines
import MediaPipeline.Shell.Format
import MediaPipeline.Shell.Regex

/-!
Programs for numbers: progressions, the value of an expression, and prime factors.
-/

namespace MediaPipeline.Program

open Shell (Quoting.plain)

/-! ### Progressions -/

/-- A decimal number: its value times a power of ten, the number of its places, and the width of its
text. -/
structure DecimalText where
  scaled : Int
  places : Nat
  width : Nat

def DecimalText.at_ (d : DecimalText) (places : Nat) : Int :=
  d.scaled * (Nat.pow 10 (places - d.places) : Nat)

def DecimalText.ofText? (text : Octets) : Option DecimalText :=
  let text := text.dropWhile fun c => isSpaceOctet c || c == '+'
  let (negative, body) := match text with
    | '-' :: rest => (true, rest)
    | rest => (false, rest)
  let signed (n : Nat) : Int := if negative then -(n : Int) else n
  if Shell.Real.startsWith "0x" body then
    match Shell.Real.takeDigits 16 (body.drop 2) with
    | some (n, 0, []) => some ⟨signed n, 0, text.length⟩
    | _ => none
  else
    match Shell.Real.takeDigits 10 body with
    | none => none
    | some (n, places, rest) =>
      let (e, rest) := Shell.Real.takeExponent 'e' rest
      if !rest.isEmpty then none
      else
        let width := if body.head? == some '.' then text.length + 1 else text.length
        let left := (places : Int) - e
        if 0 ≤ left then some ⟨signed n, left.toNat, width⟩
        else some ⟨signed (n * Nat.pow 10 (-left).toNat), 0, width⟩

def DecimalText.real (scaled : Int) (places : Nat) : Shell.Real :=
  let (m, _) := Shell.Precision.long.round scaled.natAbs (Nat.pow 10 places)
  ⟨decide (scaled < 0), m⟩

/-- A decimal with a number of places, filled up with zeros. -/
def fixedText (places width : Nat) (scaled : Int) : Octets :=
  let digits := Shell.Real.pointed places false
    (Shell.Real.paddedDigits 10 (places + 1) scaled.natAbs)
  let sign := if scaled < 0 then ['-'] else []
  sign ++ List.replicate (width - sign.length - digits.length) '0' ++ digits

/-- A format with one directive for a number, apart into what stands around it; or what is wrong
with it. -/
def numberFormat (format : Octets) : Except Octets (Octets × Shell.Directive × Octets) :=
  let rec plainPart : Octets → Octets → Octets × Octets
    | acc, '%' :: '%' :: rest => plainPart ('%' :: acc) rest
    | acc, '%' :: rest => (acc.reverse, '%' :: rest)
    | acc, c :: rest => plainPart (c :: acc) rest
    | acc, [] => (acc.reverse, [])
  let refuse (text : String) : Except Octets (Octets × Shell.Directive × Octets) :=
    .error ("format ".toList ++ Quoting.plain format ++ text.toList)
  let (front, rest) := plainPart [] format
  match rest with
  | [] => refuse " has no % directive"
  | _ :: rest =>
    let flags := rest.takeWhile fun c => "-+#0 '".toList.contains c
    let rest := rest.drop flags.length
    let width := rest.takeWhile Char.isDigit
    let rest := rest.drop width.length
    let (precision, rest) := match rest with
      | '.' :: behind =>
        let digits := behind.takeWhile Char.isDigit
        (some (natural digits), behind.drop digits.length)
      | rest => (none, rest)
    let rest := if rest.head? == some 'L' then rest.tail else rest
    match rest with
    | [] => refuse " ends in %"
    | c :: rest =>
      if !"efgaEFGA".toList.contains c then refuse (" has unknown %" ++ String.ofList [c] ++ " directive")
      else
        let (behind, more) := plainPart [] rest
        if !more.isEmpty then refuse " has too many % directives"
        else .ok (front, {
          left := flags.contains '-', plus := flags.contains '+', space := flags.contains ' ',
          alternate := flags.contains '#', zeros := flags.contains '0', width := natural width,
          precision, conversion := c }, behind)

/-- Options in front of numbers, which may be negative. -/
def seqArguments (args : List Octets) : List Octets :=
  match args with
  | [] => []
  | arg :: rest =>
    let negative := match arg with
      | '-' :: c :: _ => c.isDigit || c == '.'
      | _ => false
    if negative then ['-', '-'] :: args
    else if arg == ['-', '-'] || arg.head? != some '-' then args
    else if arg == ['-', 's'] || arg == ['-', 'f'] then
      match rest with
      | value :: rest => arg :: value :: seqArguments rest
      | [] => args
    else arg :: seqArguments rest

/-- How many numbers of an endless progression are written. -/
def endlessCount : Nat := 1000000

def seq (i : Invocation) : Outcome :=
  let known := [ProgramOption.value 'f' "format", ProgramOption.value 's' "separator",
    ProgramOption.flag 'w' "equal-width"]
  match Arguments.ofList known true (seqArguments i.arguments) with
  | .error text => i.misuse 1 text
  | .ok a =>
    let endless := ["inf", "infinity", "+inf"].contains (String.ofList (a.operands.getLast?.getD []))
    let bad := a.operands.find? fun o =>
      (DecimalText.ofText? o).isNone && !(endless && some o == a.operands.getLast?)
    let one : DecimalText := ⟨1, 0, 1⟩
    match bad, a.operands with
    | _, [] => i.missingOperand 1
    | _, _ :: _ :: _ :: extra :: _ => i.extraOperand 1 extra
    | some o, _ =>
      let kind := if Shell.Real.startsWith "nan" o then "invalid 'not-a-number' argument: "
        else "invalid floating point argument: "
      i.misuse 1 (kind.toList ++ Quoting.plain o)
    | none, operands =>
      let numbers := operands.filterMap DecimalText.ofText?
      let (first, step, last) := match numbers, endless with
        | [first, step, last], _ => (first, step, last)
        | [first, step], true => (first, step, one)
        | [first, last], false => (first, one, last)
        | [first], true => (first, one, one)
        | [last], false => (one, one, last)
        | _, _ => (one, one, one)
      if step.scaled = 0 then
        i.misuse 1 ("invalid Zero increment value: ".toList ++ Quoting.plain (operands[1]?.getD []))
      else
        let places := max first.places step.places
        let fine := max places last.places
        let start := first.at_ fine
        let step := step.at_ fine
        /- Where no more than a part is asked for, not many more numbers are made. -/
        let most := if i.reach < Invocation.farReach then i.reach / 2 + 1 else endlessCount
        let count : Nat := if endless then most
          else
            let all := (Int.fdiv (last.at_ fine - start) step + 1).toNat
            if i.reach < Invocation.farReach then min all most else all
        let firstWidth := first.width + (places - first.places) +
          (if first.places = 0 && places != 0 then 1 else 0)
        let lastWidth := (last.width + places - last.places) +
          (if last.places = 0 && places != 0 then 1 else 0) -
          (if last.places != 0 && places = 0 then 1 else 0)
        let width := if a.has "w" then max firstWidth lastWidth else 0
        let values : List Int := (List.range count).map fun (n : Nat) => start + n * step
        let write (render : Int → Octets) : Outcome :=
          let separator := (a.value? "s").getD ['\n']
          { out := if count = 0 then [] else joinOctets separator (values.map render) ++ ['\n'] }
        match a.value? "f" with
        | none =>
          write fun v => fixedText places width (v / (Nat.pow 10 (fine - places) : Nat))
        | some format =>
          match numberFormat format with
          | .error text => i.fail 1 text
          | .ok (front, d, behind) =>
            write fun v => front ++ d.real .long (DecimalText.real v fine) ++ behind

/-! ### Expressions -/

def wholeNumber? (text : Octets) : Option Int :=
  match text with
  | '-' :: digits =>
    if digits.isEmpty || !digits.all Char.isDigit then none else some (-(natural digits : Int))
  | digits => if digits.isEmpty || !digits.all Char.isDigit then none else some (natural digits)

def isNothing (text : Octets) : Bool :=
  text.isEmpty || wholeNumber? text == some 0

/-- An expression that is being read: the words that are left, and the last one used. -/
structure ExprSource where
  rest : List Octets
  last : Octets := []

abbrev ExprReader := StateT ExprSource (Except Octets)

namespace ExprReader

def fail {α : Type} (text : Octets) : ExprReader α :=
  throw text

def shown (w : List Char) : Octets :=
  Quoting.plain (Octets.ofCharacters w)

def peek : ExprReader (Option Octets) :=
  return (← get).rest.head?

def next : ExprReader Octets := do
  let s ← get
  match s.rest with
  | [] => fail ("syntax error: missing argument after ".toList ++ shown s.last)
  | w :: rest => do
    set { s with rest, last := w }
    pure w

def accept (words : List String) : ExprReader (Option String) := do
  match ← peek with
  | some w =>
    let text := String.ofList w
    if words.contains text then
      let _ ← next
      pure (some text)
    else pure none
  | none => pure none

def number (text : Octets) : ExprReader Int :=
  match wholeNumber? text with
  | some n => pure n
  | none => fail "non-integer argument".toList

/-- What a pattern fits at the start of a text: its first group, or the length. -/
def fitted (text pattern : Octets) : ExprReader Octets := do
  match Shell.Regex.ofText { extended := false, looseRanges := true } pattern with
  | .error .unmatchedBracket => fail "Invalid regular expression".toList
  | .error f => fail f.message.toList
  | .ok (r, groups) =>
    match r.matchAt? { text := text.toArray } 0 with
    | none => pure (if groups = 0 then ['0'] else [])
    | some p =>
      if groups = 0 then pure (Octets.ofNat p.position)
      else match p.groups.lookup 1 with
        | some (a, b) => pure ((text.take b).drop a)
        | none => pure []

def truth (b : Bool) : Octets :=
  if b then ['1'] else ['0']

def compared (op : String) (a b : Octets) : Octets :=
  let order : Ordering := match wholeNumber? a, wholeNumber? b with
    | some x, some y => compare x y
    | _, _ => compareOfLessAndEq a b
  truth (match op with
    | "<" => order == .lt
    | "<=" => order != .gt
    | "=" | "==" => order == .eq
    | "!=" => order != .eq
    | ">=" => order != .lt
    | _ => order == .gt)

mutual

/-- Reads a value with the operators of a level and stronger ones; the weakest level is zero.
`counts` says whether the value is used. -/
def level : Nat → Nat → Bool → ExprReader Octets
  | 0, _, _ => fail "syntax error".toList
  | fuel + 1, n, counts =>
    if n ≥ 6 then word fuel counts
    else do
      let first ← level fuel (n + 1) (counts)
      more fuel n counts first

def more : Nat → Nat → Bool → Octets → ExprReader Octets
  | 0, _, _, first => pure first
  | fuel + 1, n, counts, first => do
    let signs := match n with
      | 0 => ["|"]
      | 1 => ["&"]
      | 2 => ["<", "<=", "=", "==", "!=", ">=", ">"]
      | 3 => ["+", "-"]
      | 4 => ["*", "/", "%"]
      | _ => [":"]
    match ← accept signs with
    | none => pure first
    | some op => do
      let used := counts && !(op == "|" && !isNothing first) && !(op == "&" && isNothing first)
      let second ← level fuel (n + 1) used
      let arithmetic (f : Int → Int → ExprReader Int) : ExprReader Octets := do
        if !counts then return first
        return Octets.ofInt (← f (← number first) (← number second))
      let divided (f : Int → Int → Int) (x y : Int) : ExprReader Int :=
        if y = 0 then fail "division by zero".toList else pure (f x y)
      let value ← match op with
        | "|" => pure (if !isNothing first then first
            else if isNothing second then ['0'] else second)
        | "&" => pure (if isNothing first || isNothing second then ['0'] else first)
        | "+" => arithmetic fun x y => pure (x + y)
        | "-" => arithmetic fun x y => pure (x - y)
        | "*" => arithmetic fun x y => pure (x * y)
        | "/" => arithmetic (divided Int.tdiv)
        | "%" => arithmetic (divided Int.tmod)
        | ":" => if counts then fitted first second else pure first
        | op => pure (compared op first second)
      more fuel n counts value

def word : Nat → Bool → ExprReader Octets
  | 0, _ => fail "syntax error".toList
  | fuel + 1, counts => do
    match ← accept ["(", ")", "+", "length", "match", "index", "substr"] with
    | some "+" => next
    | some "length" => return Octets.ofNat (← word fuel counts).length
    | some "match" => do
      let text ← word fuel counts
      let pattern ← word fuel counts
      if counts then fitted text pattern else pure text
    | some "index" => do
      let text ← word fuel counts
      let members ← word fuel counts
      pure (match text.findIdx? members.contains with
        | some n => Octets.ofNat (n + 1)
        | none => ['0'])
    | some "substr" => do
      let text ← word fuel counts
      let start ← word fuel counts
      let length ← word fuel counts
      match wholeNumber? start, wholeNumber? length with
      | some s, some l =>
        pure (if s ≤ 0 ∨ l ≤ 0 then [] else (text.drop (s.toNat - 1)).take l.toNat)
      | _, _ => pure []
    | some "(" => do
      let value ← level fuel 0 counts
      let s ← get
      match s.rest with
      | [] => fail ("syntax error: expecting ')' after ".toList ++ shown s.last)
      | [')'] :: _ => do
        let _ ← next
        pure value
      | w :: _ => fail ("syntax error: expecting ')' instead of ".toList ++ shown w)
    | some _ => fail "syntax error: unexpected ')'".toList
    | none => next

end

end ExprReader

def expr (i : Invocation) : Outcome :=
  let words := match i.arguments with
    | ['-', '-'] :: rest => rest
    | words => words
  if words.isEmpty then i.missingOperand 2
  else
    let seen := words.map Octets.characters
    match (ExprReader.level (16 * words.length + 32) 0 true).run { rest := seen } with
    | .error text => i.fail 2 text
    | .ok (_, { rest := w :: _, .. }) =>
      i.fail 2 ("syntax error: unexpected argument ".toList ++ ExprReader.shown w)
    | .ok (value, _) =>
      { out := Octets.ofCharacters value ++ ['\n'], status := if isNothing value then 1 else 0 }

/-! ### Factors -/

def factorsFrom : Nat → Nat → Nat → List Nat
  | 0, _, n => [n]
  | fuel + 1, d, n =>
    if n < 2 then []
    else if n < d * d then [n]
    else if n % d = 0 then d :: factorsFrom fuel d (n / d)
    else factorsFrom fuel (d + 1) n

def factor (i : Invocation) : Outcome :=
  let fromInput := i.arguments.isEmpty
  let text := match i.input with
    | .ok t => t
    | .error _ => []
  let words := if fromInput then
      (text.splitBy fun a b => isSpaceOctet a == isSpaceOctet b).filter fun w => !w.any isSpaceOctet
    else i.arguments
  let o : Outcome := words.foldl (fun o w =>
    if !w.isEmpty && w.all Char.isDigit then
      let factors := factorsFrom 2000000 2 (natural w)
      { o with out := o.out ++ w ++ ':' :: (factors.flatMap fun f => ' ' :: Octets.ofNat f) ++ ['\n'] }
    else
      let fault := Quoting.plain w ++ " is not a valid positive integer".toList
      { o with err := o.err ++ i.complaint fault, status := 1 }) {}
  { o with consumed := if fromInput then i.wholeInput else none }

end MediaPipeline.Program
