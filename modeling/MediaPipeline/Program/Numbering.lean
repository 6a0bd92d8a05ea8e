import MediaPipeline.Program.Lines
import MediaPipeline.Shell.Regex

/-!
Numbering lines. A text may come in parts, each of them a header, a body and a footer, which lines of
their own tell from each other; for each it is said which of its lines get numbers.
-/

namespace MediaPipeline.Program.Numbering

open Shell (Regex)
open Shell.Quoting (plain)
open ProgramOption (flag value)

inductive Style where
  | all
  | filled
  | no
  | fitting (r : Regex)

def Style.ofText (text : Octets) : Except (Option Octets) Style :=
  match text with
  | ['a'] => .ok .all
  | ['t'] => .ok .filled
  | ['n'] => .ok .no
  | 'p' :: pattern =>
    match Regex.ofText { extended := false, looseRanges := true } pattern with
    | .ok (r, _) => .ok (.fitting r)
    | .error .unmatchedBracket => .error (some "Invalid regular expression".toList)
    | .error f => .error (some f.message.toList)
  | _ => .error none

inductive Part where
  | header
  | body
  | footer

structure Rules where
  header : Style := .no
  body : Style := .filled
  footer : Style := .no
  /-- A line of this once, twice or three times opens a footer, a body or a header. -/
  mark : Octets := ['\\', ':']
  start : Int := 1
  step : Int := 1
  /-- How many empty lines in a row count as one that gets a number. -/
  blanks : Nat := 1
  goesOn : Bool := false
  separator : Octets := ['\t']
  width : Nat := 6
  format : String := "rn"

def Rules.opened? (r : Rules) (line : Octets) : Option Part :=
  if line.length < 2 || r.mark.length < 2 then none
  else if line == r.mark ++ r.mark ++ r.mark then some .header
  else if line == r.mark ++ r.mark then some .body
  else if line == r.mark then some .footer
  else none

def Rules.style (r : Rules) : Part → Style
  | .header => r.header
  | .body => r.body
  | .footer => r.footer

def Rules.shown (r : Rules) (n : Int) : Octets :=
  let digits := Octets.ofInt n
  match r.format with
  | "ln" => padRight r.width digits
  | "rz" =>
    let sign := if n < 0 then ['-'] else []
    let bare := Octets.ofNat n.natAbs
    sign ++ List.replicate (r.width - digits.length) '0' ++ bare
  | _ => padLeft r.width digits

structure Progress where
  part : Part := .body
  number : Option Int
  /-- How many empty lines have come in a row without a number. -/
  blanks : Nat := 0
  lines : List Octets := []
  overflows : Bool := false

def Progress.count (r : Rules) (p : Progress) (line : Octets) : Progress :=
  match p.number with
  | none => { p with overflows := true }
  | some n =>
    let next := n + r.step
    { p with number := if -(Int.pow 2 63) ≤ next && next < Int.pow 2 63 then some next else none
             lines := (r.shown n ++ r.separator ++ line ++ ['\n']) :: p.lines }

def Progress.leave (r : Rules) (p : Progress) (line : Octets) : Progress :=
  let blank := List.replicate (r.width + r.separator.length) ' '
  { p with lines := (blank ++ line ++ ['\n']) :: p.lines }

def Progress.line (r : Rules) (p : Progress) (line : Octets) : Progress :=
  if p.overflows then p
  else match r.opened? line with
    | some part =>
      { p with part, lines := ['\n'] :: p.lines
               number := if r.goesOn then p.number else some r.start }
    | none =>
      match r.style p.part with
      | .all =>
        if r.blanks ≤ 1 then p.count r line
        else if !line.isEmpty || p.blanks + 1 = r.blanks then { p.count r line with blanks := 0 }
        else { p.leave r line with blanks := p.blanks + 1 }
      | .filled => if line.isEmpty then p.leave r line else p.count r line
      | .no => p.leave r line
      | .fitting e =>
        if (e.find? { text := line.toArray } 0).isSome then p.count r line else p.leave r line

/-! ### The program -/

def numberOf (what : String) (low : Int) (high : Int) (text : Octets) : Except Octets Int :=
  let (negative, digits) : Bool × Octets := match text with
    | '-' :: rest => (true, rest)
    | '+' :: rest => (false, rest)
    | rest => (false, rest)
  let n : Int := if negative then -(natural digits : Int) else natural digits
  let bad (more : String) : Except Octets Int :=
    .error (("invalid " ++ what ++ ": ").toList ++ plain text ++ more.toList)
  if digits.isEmpty || !digits.all Char.isDigit then bad ""
  else if n < -(Int.pow 2 63) || Int.pow 2 63 ≤ n then
    bad ": Value too large for defined data type"
  else if n < low || high < n then
    bad (if n.natAbs < Nat.pow 2 30 then ": Numerical result out of range"
      else ": Value too large for defined data type")
  else .ok n

/-- Why the program does not start: a complaint that ends it at once, or several with a hint behind
them. -/
structure Refusal where
  complaints : List Octets := []
  final : Option Octets := none

def rulesOf (options : List (String × Octets)) : Rules × Refusal :=
  options.foldl (fun ((r, f) : Rules × Refusal) (key, text) =>
    if f.final.isSome then (r, f)
    else
      let styled (part : String) (use : Style → Rules) : Rules × Refusal :=
        match Style.ofText text with
        | .ok s => (use s, f)
        | .error (some fault) => (r, { f with final := some fault })
        | .error none =>
          let complaint := ("invalid " ++ part ++ " numbering style: ").toList ++ plain text
          (r, { f with complaints := f.complaints ++ [complaint] })
      let counted (what : String) (low high : Int) (use : Int → Rules) : Rules × Refusal :=
        match numberOf what low high text with
        | .ok n => (use n, f)
        | .error fault => (r, { f with final := some fault })
      match key with
      | "h" => styled "header" fun s => { r with header := s }
      | "b" => styled "body" fun s => { r with body := s }
      | "f" => styled "footer" fun s => { r with footer := s }
      | "v" => counted "starting line number" (-(Int.pow 2 63)) (Int.pow 2 63 - 1) fun n =>
        { r with start := n }
      | "i" => counted "line number increment" (-(Int.pow 2 63)) (Int.pow 2 63 - 1) fun n =>
        { r with step := n }
      | "l" => counted "line number of blank lines" 1 (Int.pow 2 63 - 1) fun n =>
        { r with blanks := n.toNat }
      | "w" => counted "line number field width" 1 (Int.pow 2 31 - 1) fun n =>
        { r with width := n.toNat }
      | "p" => ({ r with goesOn := true }, f)
      | "s" => ({ r with separator := text }, f)
      | "d" =>
        let mark := if text.length = 1 then text ++ r.mark.drop 1 else text
        ({ r with mark }, f)
      | "n" =>
        if ["ln", "rn", "rz"].contains (String.ofList text) then
          ({ r with format := String.ofList text }, f)
        else
          let complaint := "invalid line numbering format: ".toList ++ plain text
          (r, { f with complaints := f.complaints ++ [complaint] })
      | _ => (r, f)) ({}, {})

def nl (i : Invocation) : Outcome :=
  let known := [value 'b' "body-numbering", value 'd' "section-delimiter",
    value 'f' "footer-numbering", value 'h' "header-numbering", value 'i' "line-increment",
    value 'l' "join-blank-lines", value 'n' "number-format", flag 'p' "no-renumber",
    value 's' "number-separator", value 'v' "starting-line-number", value 'w' "number-width"]
  i.withOptions known 1 fun a =>
    let (r, f) := rulesOf a.options
    let complaints := f.complaints.flatMap i.complaint
    match f.final, f.complaints with
    | some text, _ => { err := complaints ++ i.complaint text, status := 1 }
    | none, _ :: _ => { err := complaints ++ i.hint, status := 1 }
    | none, [] =>
      let o := i.overOperands a.operands (fun _ text =>
        if text.isEmpty || text.getLast? == some '\n' then text else text ++ ['\n'])
        Invocation.fileFault
      let bare := (linesOf o.out).map List.dropLast
      let p := bare.foldl (Progress.line r) { number := some r.start }
      let o := { o with out := p.lines.reverse.flatten }
      if p.overflows then
        { o with err := o.err ++ i.complaint "line number overflow".toList, status := 1 }
      else o

end MediaPipeline.Program.Numbering
