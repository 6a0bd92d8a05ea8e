import MediaPipeline.Program.EditScript
import MediaPipeline.Program.Tree

/-!
Editing a stream of lines by a script. Each line in turn is put into a space of its own, the script
changes that, and what is left of it is written.
-/

namespace MediaPipeline.Program.Edit

open Shell (Regex)
open ProgramOption (flag value)

/-! ### State -/

structure InputLine where
  text : List Char
  ended : Bool
  file : Octets
  opens : Bool

inductive Pending where
  | line (l : InputLine)
  | fault (text : Octets) (status : Nat)
  | stop (text : Octets) (status : Nat)

inductive Appendix where
  | text (t : Octets)
  | file (name : Octets)

inductive RangeState where
  | before
  | inside (last : Option Nat)
  | behind
  deriving Inhabited

structure Sink where
  text : Array Char := #[]
  openLine : Bool := false

def Sink.close (s : Sink) (ending : Char) : Sink :=
  ⟨if s.openLine then s.text.push ending else s.text, false⟩

/-- Writes a piece, which may lack the end of a line. -/
def Sink.put (s : Sink) (ending : Char) (text : Octets) (ended : Bool) : Sink :=
  let body := text.foldl Array.push (s.close ending).text
  ⟨if ended then body.push ending else body, !ended⟩

def Sink.copy (s : Sink) (ending : Char) (text : Octets) : Sink :=
  ⟨text.foldl Array.push (s.close ending).text, false⟩

def Sink.bytes (s : Sink) : Octets :=
  Octets.ofCharacters s.text.toList

structure State where
  pending : List Pending
  space : Octets := []
  ended : Bool := true
  hold : Octets := []
  /-- The line in the second space had an end of its own. -/
  holdEnded : Bool := true
  line : Nat := 0
  file : Octets := ['-']
  /-- The expression that was used last, with the number of its groups. -/
  last : Option (Regex × Nat) := none
  replaced : Bool := false
  appendix : List Appendix := []
  ranges : Array RangeState
  out : Sink := {}
  sinks : List (Octets × Sink) := []
  sources : List (Octets × List Octets) := []
  edited : List (Octets × Sink) := []
  err : Octets := []
  status : Nat := 0

structure Mode where
  quiet : Bool
  separate : Bool
  inPlace : Bool
  ending : Char
  width : Nat

inductive Leave where
  /-- The next line is read; the space is not written. -/
  | drop
  | again
  /-- The line that is still open gets its end. -/
  | quit (status : Nat)
  | leave (status : Nat)
  | fail (text : Octets)

abbrev Step := ExceptT Leave (StateM State)

/-! ### Output -/

def onOutput (mode : Mode) (change : Sink → Sink) : StateM State Unit :=
  modify fun s =>
    if !mode.inPlace then
      let out := s.out
      let s := { s with out := {} }
      { s with out := change out }
    else
      let sink := (s.edited.lookup s.file).getD {}
      { s with edited := (s.file, change sink) :: s.edited.filter (·.1 != s.file) }

/-- Writes to the output of the line that is being edited. -/
def put (mode : Mode) (text : Octets) (ended : Bool) : StateM State Unit :=
  onOutput mode fun sink => sink.put mode.ending text ended

def putText (mode : Mode) (text : Octets) : StateM State Unit :=
  if text.getLast? == some '\n' then put mode text.dropLast true
  else onOutput mode fun sink => sink.copy mode.ending text

/-- Writes to a file by its name. The output has a line of its own that may be open for what is written
to it by its name. -/
def putFile (mode : Mode) (name text : Octets) (ended : Bool) : StateM State Unit := do
  let aside (s : State) : Sink :=
    Sink.put { openLine := ((s.sinks.lookup name).getD {}).openLine } mode.ending text ended
  let noted (s : State) : List (Octets × Sink) :=
    (name, { openLine := !ended }) :: s.sinks.filter (·.1 != name)
  match String.ofList name with
  | "/dev/stdout" => modify fun s =>
      let piece := aside s
      let out := s.out
      let s := { s with out := {}, sinks := noted s }
      { s with out := { out with text := piece.text.foldl Array.push out.text } }
  | "/dev/stderr" => modify fun s =>
      { s with err := s.err ++ (aside s).bytes, sinks := noted s }
  | _ => modify fun s =>
      let sink := (s.sinks.lookup name).getD {}
      { s with sinks := (name, sink.put mode.ending text ended) :: s.sinks.filter (·.1 != name) }

def contentOf (i : Invocation) (s : State) (name : Octets) : Octets :=
  match s.sinks.lookup name with
  | some sink => sink.bytes
  | none =>
    if name == "/dev/stdin".toList then i.input.toOption.getD []
    else (i.content (if name == ['-'] then ['.', '/', '-'] else name)).toOption.getD []

def flush (i : Invocation) (mode : Mode) : StateM State Unit := do
  let s ← get
  set { s with appendix := [] }
  for a in s.appendix do
    match a with
    | .text t => onOutput mode fun sink => sink.copy mode.ending t
    | .file name => do
      let text := (contentOf i (← get) name).characters
      onOutput mode fun sink => sink.copy mode.ending text

def autoprint (mode : Mode) : StateM State Unit := do
  let s ← get
  if !mode.quiet then put mode s.space s.ended

/-! ### Input -/

/-- Steps over files that cannot be read. -/
def skipFaults : List Pending → List (Octets × Nat) × List Pending
  | .fault text status :: rest =>
    let (faults, rest) := skipFaults rest
    ((text, status) :: faults, rest)
  | rest => ([], rest)

/-- Whether no line comes any more. Complaints about files on the way are made. -/
def atEnd (mode : Mode) : StateM State Bool := do
  let s ← get
  match mode.separate, s.pending with
  | true, .line l :: _ => if l.opens then pure true else pure false
  | _, _ =>
    let (faults, rest) := skipFaults s.pending
    set { s with pending := rest, err := s.err ++ (faults.flatMap Prod.fst)
                 status := (faults.getLast?.map Prod.snd).getD s.status }
    pure !(rest.head? matches some (.line _))

def nextLine : StateM State (Option InputLine) := do
  let s ← get
  let (faults, rest) := skipFaults s.pending
  let s := { s with err := s.err ++ (faults.flatMap Prod.fst)
                    status := (faults.getLast?.map Prod.snd).getD s.status }
  match rest with
  | .line l :: rest => do
    set { s with pending := rest }
    pure (some l)
  | .stop text status :: _ => do
    set { s with pending := [], err := s.err ++ text, status }
    pure none
  | _ => do
    set { s with pending := [] }
    pure none

def enter (mode : Mode) (l : InputLine) : StateM State Unit :=
  modify fun s =>
    let s := if l.opens && mode.separate then
        { s with line := 0, ranges := s.ranges.map fun _ => .before } else s
    { s with line := s.line + 1, file := l.file, ended := l.ended }

/-! ### Addresses -/

def expressionOf (p : Pattern) : Step (Regex × Nat) := do
  match p.expression with
  | some r => do
    modify fun s => { s with last := some r }
    pure r
  | none => match (← get).last with
    | some r => pure r
    | none => throw (.fail "no previous regular expression".toList)

def matchingOf (p : Pattern) (text : Octets) : Regex.Matching :=
  { text := text.toArray, anyCase := p.anyCase, lines := p.lines }

def isAt (mode : Mode) (a : Address) : Step Bool := do
  let s ← get
  match a with
  | .line n => pure (s.line == n)
  | .step first step =>
    pure (if step = 0 then s.line == first else first ≤ s.line && (s.line - first) % step = 0)
  | .last => atEnd mode
  | .fits p => do
    let (r, _) ← expressionOf p
    pure (r.find? (matchingOf p s.space) 0).isSome
  | .plus _ | .multiple _ => pure false

def applies (mode : Mode) (index : Nat) (c : Command) : Step Bool := do
  let keep (r : RangeState) : Step Unit :=
    modify fun s => { s with ranges := s.ranges.setIfInBounds index r }
  match c.first, c.second with
  | none, _ => pure true
  | some a, none => isAt mode a
  | some a, some b => do
    let s ← get
    let range : RangeState := match (s.ranges[index]?).getD .before, a with
      | .before, .line 0 => .inside none
      | range, _ => range
    match range with
    | .inside stop => do
      let closes : Bool ← match stop, b with
        | some n, _ | none, .line n => pure (n ≤ s.line)
        | none, b => isAt mode b
      if closes then keep .behind else keep (.inside stop)
      match stop, b with
      | none, .line n => pure (s.line ≤ n)
      | _, _ => pure true
    | _ => do
      /- A line by its number begins the range if the range has not been closed, even from behind. -/
      let (starts, past) : Bool × Bool ← match a, range with
        | .line n, .before => pure (n ≤ s.line, n < s.line)
        | .line _, _ => pure (false, false)
        | a, _ => do
          let here ← isAt mode a
          pure (here, false)
      if !starts then pure false
      else do
        match b with
        | .line n =>
          if s.line < n then keep (.inside none) else keep .behind
          pure (s.line ≤ n || !past)
        | .plus n => do
          if n = 0 then keep .behind else keep (.inside (some (s.line + n)))
          pure true
        | .multiple n => do
          let stop := if n = 0 then s.line else (s.line / n + 1) * n
          if stop ≤ s.line then keep .behind else keep (.inside (some stop))
          pure true
        | .last => do
          if ← atEnd mode then keep .behind else keep (.inside none)
          pure true
        | _ => do
          keep (.inside none)
          pure true

/-- Whether the range of a command goes on behind the current line. -/
def rangeIsOpen (index : Nat) : Step Bool := do
  match (← get).ranges[index]? with
  | some (.inside _) => pure true
  | _ => pure false

/-! ### Replacing -/

structure Cased where
  text : Octets := []
  lasting : Option CaseMark := none
  once : Option CaseMark := none

def Cased.add (c : Cased) (t : Octets) : Cased :=
  let all (t : Octets) : Octets := match c.lasting with
    | some .upper => t.map Letter.upper
    | some .lower => t.map Letter.lower
    | _ => t
  match t with
  | [] => c
  | first :: rest =>
    let front := match c.once with
      | some .upperNext => [Letter.upper first]
      | some .lowerNext => [Letter.lower first]
      | _ => all [first]
    { c with text := c.text ++ front ++ all rest, once := none }

def Cased.marked (c : Cased) : CaseMark → Cased
  | .upperNext => { c with once := some .upperNext }
  | .lowerNext => { c with once := some .lowerNext }
  | .done => { c with lasting := none }
  | m => { c with lasting := some m }

def replacementText (text : Array Char) (start : Nat) (p : Regex.Place) (parts : List Part) :
    Octets :=
  (parts.foldl (fun (c : Cased) part =>
    match part with
    | .text t => c.add t
    | .mark m => c.marked m
    | .group 0 => c.add (text.extract start p.position).toList
    | .group n => match p.groups.lookup n with
      | some (a, b) => c.add (text.extract a b).toList
      | none => c) {}).text

def replaceFrom (r : Regex) (m : Regex.Matching) (rep : Replacement) :
    Nat → Nat → Option Nat → Nat → Octets → Bool → Octets × Bool
  | 0, start, _, _, acc, any => (acc ++ (m.text.extract start m.text.size).toList, any)
  | fuel + 1, start, before, count, acc, any =>
    let rest (start : Nat) : Octets := (m.text.extract start m.text.size).toList
    if m.text.size < start then (acc, any)
    else match r.find? m start with
      | none => (acc ++ rest start, any)
      | some (a, p) =>
        let acc := acc ++ (m.text.extract start a).toList
        let b := p.position
        let copied (acc : Octets) (any again : Bool) (count : Nat) : Octets × Bool :=
          if !again then (acc ++ rest b, any)
          else if a = b then
            replaceFrom r m rep fuel (b + 1) none count (acc ++ (m.text.extract b (b + 1)).toList) any
          else replaceFrom r m rep fuel b (some b) count acc any
        if a = b && before == some a then copied acc any true count
        else
          let count := count + 1
          if count < rep.count.getD 1 then
            copied (acc ++ (m.text.extract a b).toList) any true count
          else copied (acc ++ replacementText m.text a p rep.parts) true rep.every count

def shownLine (width : Nat) (ending : Char) (text : Octets) : Octets :=
  let cells := (Octets.ofCharacters text).map fun c =>
    if c == '\\' then ['\\', '\\']
    else if Shell.Quoting.isPrintable c then [c]
    else if c == '\n' then ['\\', 'n']
    else (Shell.Quoting.controlLetter? c).elim (Shell.Quoting.octal c) fun letter => ['\\', letter]
  let (out, _) := cells.foldl (fun (out, column) cell =>
    if 0 < width && width - 1 < column + cell.length then
      (out ++ ['\\', ending] ++ cell, cell.length)
    else (out ++ cell, column + cell.length)) (([], 0) : Octets × Nat)
  out ++ ['$']

/-! ### Running -/

/-- Puts the next line of the input into the space, behind what is there with `joined`. -/
def advance (i : Invocation) (mode : Mode) (joined : Bool) : Step Unit := do
  flush i mode
  match ← nextLine with
  | none => throw .drop
  | some l => do
    enter mode l
    modify fun s =>
      { s with space := if joined then s.space ++ mode.ending :: l.text else l.text }

/-- Runs one command; gives the command that follows, where that is not the next one. -/
def perform (i : Invocation) (mode : Mode) (script : Script) (index : Nat) (a : Action) :
    Step (Option Nat) := do
  let s ← get
  let update (f : State → State) : Step (Option Nat) := do
    modify f
    pure none
  let jump (name : Octets) : Option Nat :=
    if name.isEmpty then some script.commands.size
    else (script.commands.toList.zipIdx.reverse.find? fun p => match p.1.action with
      | .label n => n == name
      | _ => false).map Prod.snd
  let firstLine (text : Octets) : Octets := text.takeWhile (· != mode.ending)
  match a with
  | .block _ | .none | .label _ => pure none
  | .insert text => do
    putText mode text
    pure none
  | .append text => update fun s => { s with appendix := s.appendix ++ [.text text] }
  | .change text => do
    let goesOn ← rangeIsOpen index
    let negated := (script.commands[index]?).any fun c => c.negated
    if !goesOn || negated then putText mode text
    throw .drop
  | .jump .always name => pure (jump name)
  | .jump .replaced name => do
    if s.replaced then
      modify fun s => { s with replaced := false }
      pure (jump name)
    else pure none
  | .jump .notReplaced name => do
    if s.replaced then
      modify fun s => { s with replaced := false }
      pure none
    else pure (jump name)
  | .quit status => do
    autoprint mode
    flush i mode
    throw (.quit status)
  | .quitSilently status => throw (.leave status)
  | .list width => do
    put mode (shownLine (width.getD mode.width) mode.ending s.space) true
    pure none
  | .number => do
    put mode (Octets.ofNat s.line) true
    pure none
  | .fileName => do
    put mode s.file.characters true
    pure none
  | .delete => throw .drop
  | .deleteLine =>
    if s.space.contains mode.ending then do
      modify fun s => { s with space := (s.space.dropWhile (· != mode.ending)).tail }
      throw .again
    else throw .drop
  | .get => update fun s => { s with space := s.hold, ended := s.holdEnded }
  | .getMore => update fun s =>
      { s with space := s.space ++ mode.ending :: s.hold, ended := s.holdEnded }
  | .hold => update fun s => { s with hold := s.space, holdEnded := s.ended }
  | .holdMore => update fun s =>
      { s with hold := s.hold ++ mode.ending :: s.space, holdEnded := s.ended }
  | .exchange => update fun s =>
      { s with space := s.hold, ended := s.holdEnded, hold := s.space, holdEnded := s.ended }
  | .next => do
    if (← get).pending.isEmpty || (← atEnd { mode with separate := false }) then
      autoprint mode
      throw .drop
    autoprint mode
    advance i mode false
    pure none
  | .nextMore => do
    if (← get).pending.isEmpty || (← atEnd { mode with separate := false }) then
      autoprint mode
      throw .drop
    advance i mode true
    pure none
  | .print => do
    put mode s.space s.ended
    pure none
  | .printLine => do
    put mode (firstLine s.space) (s.ended || s.space.contains mode.ending)
    pure none
  | .empty => update fun s => { s with space := [] }
  | .readFile name => update fun s => { s with appendix := s.appendix ++ [.file name] }
  | .readLine name => do
    let lines := (s.sources.lookup name).getD (linesOf (contentOf i s name).characters)
    match lines with
    | [] => pure none
    | l :: rest => update fun s =>
        let l := if l.getLast? == some '\n' then l else l ++ ['\n']
        { s with appendix := s.appendix ++ [.text l]
                 sources := (name, rest) :: s.sources.filter (·.1 != name) }
  | .writeFile name => do
    putFile mode name s.space s.ended
    pure none
  | .writeLine name => do
    putFile mode name (firstLine s.space) (s.ended || s.space.contains mode.ending)
    pure none
  | .translate pairs => update fun s =>
      { s with space := s.space.map fun c => (pairs.lookup c).getD c }
  | .replace rep => do
    let (r, groups) ← expressionOf rep.pattern
    if groups < rep.highest then
      throw (.fail (("invalid reference \\" ++ toString rep.highest) ++ " on \x60s' command's RHS").toList)
    let m := matchingOf rep.pattern s.space
    let (text, any) := replaceFrom r m rep (s.space.length + 2) 0 none 0 [] false
    if any then
      modify fun s => { s with space := text, replaced := true }
      if rep.prints then put mode text s.ended
      match rep.target with
      | some name => putFile mode name text s.ended
      | none => pure ()
    pure none

def runFrom (i : Invocation) (mode : Mode) (script : Script) : Nat → Nat → Step Unit
  | 0, _ => throw (.fail "out of memory".toList)
  | fuel + 1, index => do
    match script.commands[index]? with
    | none => pure ()
    | some c => do
      let fits := (← applies mode index c) != c.negated
      let next ← if fits then perform i mode script index c.action
        else match c.action with
          | .block behind => pure (some behind)
          | _ => pure none
      runFrom i mode script fuel (next.getD (index + 1))

/-- How many commands may run for one line. -/
def stepBound : Nat := 1000000

def editLines (i : Invocation) (mode : Mode) (script : Script) : Nat → Bool → StateM State Unit
  | 0, _ => pure ()
  | fuel + 1, again => do
    let ready ← if again then pure true else do
      match ← nextLine with
      | none => pure false
      | some l => do
        enter mode l
        modify fun s => { s with space := l.text, replaced := false }
        pure true
    if !ready then pure ()
    else
      match ← (runFrom i mode script stepBound 0).run with
      | .ok () => do
        autoprint mode
        flush i mode
        editLines i mode script fuel false
      | .error .drop => do
        flush i mode
        editLines i mode script fuel false
      | .error .again => do
        flush i mode
        editLines i mode script fuel true
      | .error (.quit status) => do
        onOutput mode fun sink => sink.close mode.ending
        modify fun s => { s with status }
      | .error (.leave status) => modify fun s => { s with status }
      | .error (.fail text) => modify fun s =>
          { s with err := s.err ++ i.complaint ("-e expression #1, char 0: ".toList ++ text)
                   status := 1, pending := [] }

/-! ### The program -/

def pendingLines (ending : Char) (file text : Octets) : List Pending :=
  let pieces := text.characters.splitOn ending
  let ended := pieces.getLast? == some []
  let ls := if ended then pieces.dropLast else pieces
  let count := ls.length
  ls.zipIdx.map fun (t, n) =>
    let closes := n + 1 = count
    .line ⟨t, ended || !closes, file, n = 0⟩

def options : List ProgramOption := [
  flag 'n' "quiet", value 'e' "expression", value 'f' "file", flag 'E' "regexp-extended",
  ⟨some 'r', none, .none⟩, ⟨some 'i', some "in-place", .joined⟩, value 'l' "line-length",
  flag 's' "separate", flag 'u' "unbuffered", flag 'z' "null-data"] ++
  ProgramOption.names .none ["silent", "debug", "follow-symlinks", "posix", "sandbox", "version"]

def optionTexts (maker : Maker) : List (String × List String) := [
  ("  -n, --quiet, --silent", ["suppress automatic printing of pattern space"]),
  ("      --debug", ["annotate program execution"]),
  ("  -e script, --expression=script", ["add the script to the commands to be executed"]),
  ("  -f script-file, --file=script-file",
    ["add the contents of script-file to the commands to be executed"]),
  ("  --follow-symlinks", ["follow symlinks when processing in place"]),
  ("  -i[SUFFIX], --in-place[=SUFFIX]", ["edit files in place (makes backup if SUFFIX supplied)"]),
  ("  -l N, --line-length=N", ["specify the desired line-wrap length for the \x60l' command"]),
  ("  --posix", ["disable all " ++ maker.name ++ " extensions."]),
  ("  -E, -r, --regexp-extended",
    ["use extended regular expressions in the script", "(for portability use POSIX -E)."]),
  ("  -s, --separate",
    ["consider files as separate rather than as a single,", "continuous long stream."]),
  ("      --sandbox", ["operate in sandbox mode (disable e/r/w commands)."]),
  ("  -u, --unbuffered",
    ["load minimal amounts of data from the input files and flush", "the output buffers more often"]),
  ("  -z, --null-data", ["separate lines by NUL characters"])]

/-- What is said where the program was called in a wrong way. -/
def usage (i : Invocation) : Octets :=
  "Usage: ".toList ++ i.name ++
    " [OPTION]... \x7bscript-only-if-no-other-script\x7d [input-file]...\n\n".toList ++
  ((optionTexts i.files.maker).flatMap fun (front, lines) => (front ++ "\n").toList ++
    lines.flatMap fun l => ("                 " ++ l ++ "\n").toList) ++
  ("      --help     display this help and exit\n" ++
    "      --version  output version information and exit\n\n" ++
    "If no -e, --expression, -f, or --file option is given, then the first\n" ++
    "non-option argument is taken as the sed script to interpret.  All\n" ++
    "remaining arguments are names of input files; if no input files are\n" ++
    "specified, then the standard input is read.\n\n" ++
    i.files.maker.name ++ " sed home page: <" ++ i.files.maker.home ++ "software/sed/>.\n" ++
    "General help using " ++ i.files.maker.name ++ " software: <" ++ i.files.maker.home ++
    "gethelp/>.\n").toList

def targets (script : Script) : List Octets :=
  script.commands.toList.filterMap fun c => match c.action with
    | .writeFile name | .writeLine name => some name
    | .replace r => r.target
    | _ => none

def scriptParts (i : Invocation) :
    List (String × Octets) → Nat → Except Octets (List (Origin × Octets))
  | [], _ => .ok []
  | (key, text) :: rest, n =>
    if key == "e" then do return (.argument n, text) :: (← scriptParts i rest (n + 1))
    else if key == "f" then
      match i.content text with
      | .ok content => do
        let body := if content.getLast? == some '\n' then content.dropLast else content
        return (.file text, body) :: (← scriptParts i rest n)
      | .error e => .error ("couldn't open file ".toList ++ text ++ ": ".toList ++ e.toList)
    else scriptParts i rest n

def program (i : Invocation) : Outcome :=
  match Arguments.ofList options false i.arguments with
  | .error text => { err := i.complaint text ++ usage i, status := 1 }
  | .ok a =>
    if a.has "version" then { out := i.name ++ (" (" ++ i.files.maker.name ++ " sed) 4.9\n").toList }
    else
      let given := a.options.any fun o => o.1 == "e" || o.1 == "f"
      let (first, operands) := if given then (none, a.operands)
        else (a.operands.head?, a.operands.tail)
      if !given && first.isNone then { err := usage i, status := 1 }
      else
        let parts : Except Octets (List (Origin × Octets)) := match first with
          | some text => .ok [(.argument 1, text)]
          | none => scriptParts i a.options 1
        match parts with
        | .error text => i.fail 1 text
        | .ok parts =>
          let unwritable (name : Octets) : Option String :=
            match i.files.resolve name true with
            | .ok (_, some .directory) => some "Is a directory"
            | .ok _ => none
            | .error f => some f.message
          match Script.read (a.has "E" || a.has "r") unwritable parts with
          | .error (text, status) => i.fail status text
          | .ok script =>
            let mode : Mode := {
              quiet := a.has "n" || a.has "silent" || script.quiet
              separate := a.has "s" || a.has "i"
              inPlace := a.has "i"
              ending := if a.has "z" then '\x00' else '\n'
              width := ((a.value? "l").map natural).getD 70 }
            let files := if operands.isEmpty then [['-']] else operands
            let pending := files.flatMap fun f =>
              let shown := if f == ['-'] then ['-'] else f
              match i.content f with
              | .ok text => pendingLines mode.ending shown text
              | .error "Is a directory" =>
                if mode.inPlace then
                  [Pending.fault (i.complaint ("couldn't edit ".toList ++ f ++
                    ": not a regular file".toList)) 4]
                else [.stop (i.complaint ("read error on ".toList ++ f ++
                  ": Is a directory".toList)) 4]
              | .error e =>
                if f == ['-'] then [.stop (i.complaint ("read error on stdin: ".toList ++ e.toList)) 4]
                else [.fault (i.complaint ("can't read ".toList ++ f ++ ": ".toList ++ e.toList)) 2]
            let start : State := {
              pending, ranges := Array.replicate script.commands.size .before
              sinks := (targets script).filterMap fun t =>
                if t == "/dev/stdout".toList || t == "/dev/stderr".toList then none
                else some (t, {}) }
            let ((), s) := (editLines i mode script (2 * pending.length + 100000) false).run start
            let left : List Nat := s.pending.filterMap fun p => match p with
              | Pending.line l => if l.file == ['-'] then
                  some ((Octets.ofCharacters l.text).length + if l.ended then 1 else 0) else none
              | _ => none
            let consumed := if files.contains ['-'] then
                i.wholeInput.map fun n => n - left.foldl (· + ·) 0
              else none
            let job := s.sinks.foldl (fun (j : Job) ((name, sink) : Octets × Sink) =>
              match j.files.resolve name true with
              | .ok (_, some (.device _)) => j
              | .ok (place, _) =>
                { j with files := j.files.write place sink.bytes (freshMode i 0o666) }
              | .error f =>
                { (j.fail i ("couldn't open file ".toList ++ name ++ ": ".toList ++
                    f.message.toList)) with status := 4 })
              { files := i.files, out := s.out.bytes, err := s.err, status := s.status }
            let suffix := (a.value? "i").getD []
            let job := if !mode.inPlace then job else
              operands.foldl (fun (j : Job) f =>
                match j.files.resolve f true with
                | .ok (place, some (.document d)) =>
                  let files := if suffix.isEmpty then j.files else
                    match j.files.resolve (f ++ suffix) true with
                    | .ok (other, _) => j.files.write other d.content d.mode
                    | .error _ => j.files
                  let text := (s.edited.lookup f).map Sink.bytes
                  let rest := (s.pending.filterMap fun p => match p with
                    | Pending.line l => if l.file == f then
                        some (Octets.ofCharacters l.text ++ if l.ended then [mode.ending] else [])
                      else none
                    | _ => none).flatten
                  { j with files := files.write place (text.getD [] ++ rest) d.mode }
                | _ => j) job
            { job.finish with consumed, block := if a.has "u" then 1 else 4096 }

def programs : List (String × Program) := [("sed", program)]

end MediaPipeline.Program.Edit
