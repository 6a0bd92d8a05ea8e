import MediaPipeline.Program.Columns
import MediaPipeline.Program.Job
import MediaPipeline.Shell.Format
import MediaPipeline.Shell.Regex

/-!
Cutting a file at lines that are numbered or that fit a pattern. The sections between them become files
of their own, whose sizes are told.
-/

namespace MediaPipeline.Program.Sections

open Shell (Regex Directive)
open Shell.Quoting (plain always asNeeded)
open ProgramOption (flag value)

/-! ### Where sections end -/

inductive Edge where
  | line (number : Nat)
  /-- Some lines from one that fits. With `skipped` the section makes no file. -/
  | fitting (r : Regex) (offset : Int) (skipped : Bool)

/-- The end of a section, and how many more sections end likewise; none where all do. -/
structure Mark where
  word : Octets
  edge : Edge
  more : Option Nat := some 0

def signed? (text : Octets) : Option Int :=
  let (negative, digits) : Bool × Octets := match text with
    | '-' :: rest => (true, rest)
    | '+' :: rest => (false, rest)
    | rest => (false, rest)
  if digits.isEmpty || !digits.all Char.isDigit then none
  else some (if negative then -(natural digits : Int) else natural digits)

def Edge.ofText (last : Nat) (word : Octets) : Except Octets Edge :=
  match word with
  | c :: rest =>
    if c = '/' || c = '%' then
      let behind := rest.reverse.takeWhile (· != c) |>.reverse
      if behind.length = rest.length then
        .error (word ++ ": closing delimiter '".toList ++ [c] ++ "' missing".toList)
      else
        let pattern := rest.take (rest.length - behind.length - 1)
        match Regex.ofText { extended := false, looseRanges := true } pattern with
        | .error f =>
          let text := match f with
            | .unmatchedBracket => "Invalid regular expression"
            | f => f.message
          .error (plain word ++ ": invalid regular expression: ".toList ++ text.toList)
        | .ok (r, _) =>
          if behind.isEmpty then .ok (.fitting r 0 (c = '%'))
          else match signed? behind with
            | some offset => .ok (.fitting r offset (c = '%'))
            | none => .error (plain word ++ ": integer expected after delimiter".toList)
    else numbered word
  | [] => numbered word
where
  numbered (word : Octets) : Except Octets Edge :=
    if word.isEmpty || !word.all Char.isDigit then .error (plain word ++ ": invalid pattern".toList)
    else
      let n := natural word
      if n = 0 then .error (word ++ ": line number must be greater than zero".toList)
      else if n < last then
        .error ("line number ".toList ++ plain word ++
          " is smaller than preceding line number, ".toList ++ Octets.ofNat last)
      else .ok (.line n)

/-- How many more sections end likewise, by a word between braces. -/
def repetitions (word : Octets) : Except Octets (Option Nat) :=
  let inner := (word.drop 1).dropLast
  if word.getLast? != some '\x7d' then
    .error (plain word ++ ": '\x7d' is required in repeat count".toList)
  else if inner == ['*'] then .ok none
  else if inner.isEmpty || !inner.all Char.isDigit then
    .error (plain word.dropLast ++ "\x7d: integer required between '\x7b' and '\x7d'".toList)
  else .ok (some (natural inner))

/-- The ends that words stand for, and what is said of them though they are in order. -/
def marks : Nat → Nat → List Octets → Except Octets (List Mark × List Octets)
  | 0, _, _ | _, _, [] => .ok ([], [])
  | fuel + 1, last, word :: rest => do
    let edge ← Edge.ofText last word
    let (last, warning) : Nat × List Octets := match edge with
      | .line n => (n, if n = last then
          ["warning: line number ".toList ++ plain word ++
            " is the same as preceding line number".toList] else [])
      | _ => (last, [])
    let (more, rest) ← match rest with
      | ('\x7b' :: inner) :: rest => do
        let more ← repetitions ('\x7b' :: inner)
        pure (more, rest)
      | rest => pure (some 0, rest)
    let (others, warnings) ← marks fuel last rest
    pure (({ word, edge, more } : Mark) :: others, warning ++ warnings)

/-! ### Names -/

/-- How the files of the sections are named, and what is done with empty ones. -/
structure Rules where
  stem : Octets := "xx".toList
  digits : Nat := 2
  format : Option (Octets × Directive × Octets) := none
  keeps : Bool := false
  quiet : Bool := false
  elides : Bool := false
  suppresses : Bool := false

def Rules.name (r : Rules) (n : Nat) : Octets :=
  r.stem ++ match r.format with
    | none => Shell.Real.paddedDigits 10 r.digits n
    | some (front, d, behind) =>
      front ++ (if ['d', 'i'].contains d.conversion then d.signed n else d.unsigned n) ++ behind

def formatOf (text : Octets) : Except Octets (Octets × Directive × Octets) :=
  let rec front : Octets → Octets → Octets × Octets
    | acc, '%' :: '%' :: rest => front ('%' :: acc) rest
    | acc, '%' :: rest => (acc.reverse, '%' :: rest)
    | acc, c :: rest => front (c :: acc) rest
    | acc, [] => (acc.reverse, [])
  match front [] text with
  | (_, []) => .error "missing % conversion specification in suffix".toList
  | (before, _ :: rest) =>
    let flags := rest.takeWhile fun c => "-+ #0'".toList.contains c
    let rest := rest.drop flags.length
    let width := rest.takeWhile Char.isDigit
    let rest := rest.drop width.length
    let (precision, rest) : Option Nat × Octets := match rest with
      | '.' :: behind =>
        let digits := behind.takeWhile Char.isDigit
        (some (natural digits), behind.drop digits.length)
      | rest => (none, rest)
    match rest with
    | [] => .error "missing conversion specifier in suffix".toList
    | c :: rest =>
      if !"diuoxX".toList.contains c then
        .error ("invalid conversion specifier in suffix: ".toList ++ [c])
      else
        let (behind, more) := front [] rest
        if !more.isEmpty then .error "too many % conversion specifications in suffix".toList
        else .ok (before, {
          left := flags.contains '-', plus := flags.contains '+', space := flags.contains ' '
          alternate := flags.contains '#', zeros := flags.contains '0', width := natural width
          precision, conversion := c }, behind)

/-! ### Cutting -/

structure State where
  job : Job
  lines : List Octets
  first : Nat := 1
  current : Nat := 0
  count : Nat := 0
  part : Option (List Octets) := none

inductive Halt where
  | finished
  | failed

abbrev Cutting := ExceptT Halt (StateM State)

namespace Cutting

def begin : Cutting Unit :=
  modify fun s => { s with part := some [] }

def take : Cutting (Option Octets) := do
  let s ← get
  match s.lines with
  | [] => pure none
  | l :: rest =>
    set { s with lines := rest, first := s.first + 1, current := max s.current s.first }
    pure (some l)

def save (line : Octets) : Cutting Unit :=
  modify fun s => { s with part := s.part.map fun ls => line :: ls }

def close (i : Invocation) (r : Rules) : Cutting Unit := do
  let s ← get
  match s.part with
  | none => pure ()
  | some ls =>
    let content := ls.reverse.flatten
    let s := { s with part := none }
    if content.isEmpty && r.elides then set s
    else
      let path := r.name s.count
      match s.job.files.resolve path true with
      | .ok (place, there) =>
        if there matches some .directory then
          set { s with job := s.job.fail i (asNeeded path ++ ": Is a directory".toList) }
          throw .failed
        let files := s.job.files.write place content (freshMode i 0o666)
        let told := if r.quiet then [] else Octets.ofNat content.length ++ ['\n']
        set { s with count := s.count + 1, job := { s.job with files, out := s.job.out ++ told } }
      | .error f =>
        set { s with job := s.job.fail i (asNeeded path ++ ": ".toList ++ f.message.toList) }
        throw .failed

/-- Puts all lines that are left into the section that is open. -/
def saveRest : Cutting Unit :=
  modify fun s => { s with
    lines := [], first := s.first + s.lines.length
    part := s.part.map fun ls => s.lines.reverse ++ ls }

def fail {α : Type} (i : Invocation) (text : Octets) : Cutting α := do
  modify fun s => { s with job := s.job.fail i text }
  throw .failed

/-- What is said behind a complaint that comes up later. -/
def onRepetition (repetition : Nat) : Octets :=
  if repetition = 0 then [] else " on repetition ".toList ++ Octets.ofNat repetition

def toLine (i : Invocation) (r : Rules) (number repetition : Nat) : Cutting Unit := do
  let outOfRange : Cutting Unit := fail i (plain (Octets.ofNat number) ++
    ": line number out of range".toList ++ onRepetition repetition)
  begin
  if r.suppresses && (← get).lines.isEmpty then outOfRange
  for _ in List.range (number * (repetition + 1) - (← get).first) do
    match ← take with
    | some l => save l
    | none => outOfRange
  close i r
  if r.suppresses then
    let _ ← take
  else if (← get).lines.isEmpty then outOfRange

/-- Goes to the next line that fits. Lines on the way are put into the section, where none of them may
be taken back. -/
def seek (r : Regex) (saves skipped : Bool) : List Octets → Cutting Bool
  | [] => pure false
  | line :: rest => do
    modify fun s => { s with current := s.current + 1 }
    let bare := if line.getLast? == some '\n' then line.dropLast else line
    if (r.find? { text := bare.toArray } 0).isSome then pure true
    else
      if saves then
        for l in ← take do
          if !skipped then save l
      seek r saves skipped rest

def toFitting (i : Invocation) (rules : Rules) (m : Mark) (r : Regex) (offset : Int)
    (skipped : Bool) (repetition : Nat) : Cutting Unit := do
  if !skipped then begin
  let s ← get
  let found ← seek r (0 ≤ offset) skipped (s.lines.drop (s.current + 1 - s.first))
  if !found then
    if m.more.isSome then
      let text := plain m.word ++ ": match not found".toList ++ onRepetition repetition
      modify fun s => { s with job := s.job.fail i text }
    if !skipped then
      saveRest
      close i rules
    throw (if m.more.isSome then .failed else .finished)
  let stop : Int := (← get).current + offset
  let outOfRange : Cutting Unit := fail i (plain m.word ++ ": line number out of range".toList)
  if stop < (← get).first then outOfRange
  for _ in List.range (stop - (← get).first).toNat do
    match ← take with
    | some l => if !skipped then save l
    | none => outOfRange
  if !skipped then close i rules
  if 0 < offset then modify fun s => { s with current := stop.toNat }
  if rules.suppresses then
    let _ ← take

def all (i : Invocation) (r : Rules) (m : Mark) : Cutting Unit := do
  let most := (← get).lines.length + 2
  let count := match m.more with
    | some n => min (n + 1) most
    | none => most
  for repetition in List.range count do
    match m.edge with
    | .line n => toLine i r n repetition
    | .fitting e offset skipped => toFitting i r m e offset skipped repetition

def whole (i : Invocation) (r : Rules) (ms : List Mark) : Cutting Unit := do
  for m in ms do
    all i r m
  begin
  saveRest
  close i r

end Cutting

/-! ### The program -/

def rulesOf (a : Arguments) : Except Octets Rules := do
  let digits ← match a.value? "n" with
    | none => pure 2
    | some text =>
      if text.isEmpty || !text.all Char.isDigit then
        throw ("invalid number: ".toList ++ plain text)
      else pure (natural text)
  let format ← (a.value? "b").mapM formatOf
  pure {
    stem := (a.value? "f").getD "xx".toList, digits, format, keeps := a.has "k"
    quiet := a.has "s" || a.has "q", elides := a.has "z"
    suppresses := a.has "suppress-matched" }

def csplit (i : Invocation) : Outcome :=
  let known := [value 'b' "suffix-format", value 'f' "prefix", flag 'k' "keep-files",
    value 'n' "digits", flag 'q' "quiet", ⟨some 's', some "silent", .none⟩,
    flag 'z' "elide-empty-files"] ++ ProgramOption.names .none ["suppress-matched"]
  i.withOptions known 1 fun a =>
    match rulesOf a, a.operands with
    | .error text, _ => i.fail 1 text
    | .ok _, [] => i.missingOperand 1
    | .ok _, [file] => i.misuse 1 ("missing operand after ".toList ++ plain file)
    | .ok r, file :: words =>
      match i.content file with
      | .error f =>
        i.fail 1 (if f == "Is a directory" then "read error: ".toList ++ f.toList
          else "cannot open ".toList ++ always file ++ " for reading: ".toList ++ f.toList)
      | .ok text =>
        let consumed := if i.isInput file then some text.length else none
        match marks (words.length + 1) 0 words with
        | .error text => { i.fail 1 text with consumed }
        | .ok (ms, warnings) =>
          let start := (Job.start i)
          let job := { start with err := warnings.flatMap i.complaint }
          let (ending, s) := (Cutting.whole i r ms).run.run { job, lines := linesOf text }
          let s := if ending matches .error .failed then
            ((Cutting.close i r).run.run s).2 else s
          let failed := ending matches .error .failed
          let files := if failed && !r.keeps then
              (List.range s.count).foldl (fun (files : Files) n =>
                match files.resolve (r.name n) true with
                | .ok (place, some _) => files.remove place
                | _ => files) s.job.files
            else s.job.files
          { ({ s.job with files } : Job).finish with
              consumed, status := if failed then 1 else s.job.status }

end MediaPipeline.Program.Sections
