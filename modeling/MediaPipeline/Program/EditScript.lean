import MediaPipeline.Program.Lines
import MediaPipeline.Shell.Regex
import MediaPipeline.Shell.Quoting

/-!
Scripts that edit a stream of lines. A command has up to two addresses, a letter, and what the
letter asks for; braces make a block of commands, and labels are places to go on at.
-/

namespace MediaPipeline.Program.Edit

open Shell (Regex RegexRules)

/-! ### Commands -/

/-- A pattern, with the number of its groups; without an expression the last one that was used is
meant. -/
structure Pattern where
  expression : Option (Regex × Nat)
  anyCase : Bool := false
  lines : Bool := false

inductive Address where
  | line (n : Nat)
  /-- Every so many lines from a first one on. -/
  | step (first step : Nat)
  | last
  | fits (p : Pattern)
  /-- So many lines behind the first address. -/
  | plus (n : Nat)
  | multiple (n : Nat)

inductive CaseMark where
  | upper
  | lower
  | upperNext
  | lowerNext
  | done

inductive Part where
  | text (t : Octets)
  | group (n : Nat)
  | mark (m : CaseMark)

inductive JumpTest where
  | always
  | replaced
  | notReplaced

structure Replacement where
  pattern : Pattern
  parts : List Part
  highest : Nat := 0
  every : Bool := false
  count : Option Nat := none
  prints : Bool := false
  target : Option Octets := none

inductive Action where
  /-- Steps over a block, up to a command behind it. -/
  | block (behind : Nat)
  | none
  | insert (text : Octets)
  | append (text : Octets)
  | change (text : Octets)
  | jump (test : JumpTest) (label : Octets)
  | label (name : Octets)
  | quit (status : Nat)
  | quitSilently (status : Nat)
  | list (width : Option Nat)
  | number
  | fileName
  | delete
  | deleteLine
  | get
  | getMore
  | hold
  | holdMore
  | exchange
  | next
  | nextMore
  | print
  | printLine
  | empty
  | readFile (name : Octets)
  | readLine (name : Octets)
  | writeFile (name : Octets)
  | writeLine (name : Octets)
  | replace (r : Replacement)
  | translate (pairs : List (Char × Char))

structure Command where
  first : Option Address := none
  second : Option Address := none
  negated : Bool := false
  action : Action

/-! ### Reading -/

/-- Where a part of a script comes from. -/
inductive Origin where
  | argument (number : Nat)
  | file (name : Octets)

structure Source where
  rest : List Char
  used : Nat := 0
  line : Nat := 1
  origin : Origin
  later : List (Origin × Octets) := []
  extended : Bool
  unwritable : Octets → Option String
  blocks : List Nat := []
  commands : Array Command := #[]
  quiet : Bool := false

abbrev Reader := ExceptT (Octets × Nat) (StateM Source)

namespace Reader

/-- What stands in front of a complaint about a script. -/
def place (s : Source) (used : Nat) : Octets :=
  match s.origin with
  | .argument n => "-e expression #".toList ++ Octets.ofNat n ++ ", char ".toList ++
      Octets.ofNat used ++ ": ".toList
  | .file name => "file ".toList ++ name ++ " line ".toList ++ Octets.ofNat s.line ++ ": ".toList

def fail {α : Type} (text : String) : Reader α := do
  let s ← get
  throw (place s s.used ++ text.toList, 1)

def width (c : Char) : Nat :=
  (Octets.ofCharacter c).length

def take : Reader (Option Char) := do
  let s ← get
  match s.rest with
  | [] => pure none
  | c :: rest =>
    set { s with rest, used := s.used + width c, line := if c == '\n' then s.line + 1 else s.line }
    pure (some c)

def back (c : Option Char) : Reader Unit :=
  match c with
  | none => pure ()
  | some c => modify fun s =>
    { s with rest := c :: s.rest, used := s.used - width c,
             line := if c == '\n' then s.line - 1 else s.line }

def skipBlanks : Reader Unit :=
  modify fun s =>
    let blanks := s.rest.takeWhile fun c => c == ' ' || c == '\t'
    { s with rest := s.rest.drop blanks.length, used := s.used + blanks.length }

def takeVisible : Reader (Option Char) := do
  skipBlanks
  take

def isSpace (c : Char) : Bool :=
  c == ' ' || (9 ≤ c.toNat && c.toNat ≤ 13)

/-- A number that begins with a digit already used. -/
def number (first : Char) : Reader Nat := do
  let s ← get
  let digits := s.rest.takeWhile Char.isDigit
  set { s with rest := s.rest.drop digits.length, used := s.used + digits.length }
  pure (natural (first :: digits))

def endCommand : Reader Unit := do
  match ← takeVisible with
  | none | some '\n' | some ';' => pure ()
  | some c =>
    if c == '\x7d' || c == '#' then back (some c) else fail "extra characters after command"

/-- A class in the brackets of a pattern, up to its sign and the bracket behind that. -/
def namedClass (sign : Char) : Nat → Octets → Reader (Option Octets)
  | 0, _ => pure none
  | fuel + 1, acc => do
    match ← take with
    | none => pure none
    | some c =>
      if c == '\n' then
        back (some c)
        pure none
      else if c == sign && (← get).rest.head? == some ']' then
        let _ ← take
        pure (some (']' :: sign :: acc))
      else namedClass sign fuel (c :: acc)

/-- The brackets of a pattern, from behind the opening one. A closing one in front is a member. -/
def brackets : Nat → Bool → Octets → Reader (Option Octets)
  | 0, _, _ => pure none
  | fuel + 1, front, acc => do
    match ← take with
    | none => pure none
    | some '\n' => do
      back (some '\n')
      pure none
    | some ']' => if front then brackets fuel false (']' :: acc) else pure (some (']' :: acc))
    | some '[' => do
      match (← get).rest.head? with
      | some sign =>
        if sign == ':' || sign == '.' || sign == '=' then
          let _ ← take
          match ← namedClass sign (fuel + 1) (sign :: '[' :: acc) with
          | some acc => brackets fuel false acc
          | none => pure none
        else brackets fuel false ('[' :: acc)
      | none => pure none
    | some '^' => brackets fuel (front && acc.head? == some '[') ('^' :: acc)
    | some c => brackets fuel false (c :: acc)

/-- A text up to a sign; with `regular` it is a pattern. Nothing if the sign does not come. -/
def delimited (sign : Char) (regular : Bool) : Nat → Octets → Reader (Option Octets)
  | 0, _ => pure none
  | fuel + 1, acc => do
    match ← take with
    | none => pure none
    | some '\n' => do
      back (some '\n')
      pure none
    | some c =>
      if c == sign then pure (some acc.reverse)
      else if c == '\\' then
        match ← take with
        | none => pure none
        | some d =>
          if d == sign && !(!regular && d == '&') then delimited sign regular fuel (d :: acc)
          else if d == 'n' && regular then delimited sign regular fuel ('n' :: '\\' :: acc)
          else if d == '\n' && regular then delimited sign regular fuel ('\n' :: acc)
          else delimited sign regular fuel (d :: '\\' :: acc)
      else if c == '[' && regular then
        match ← brackets (fuel + 1) true ('[' :: acc) with
        | some acc => delimited sign regular fuel acc
        | none => pure none
      else delimited sign regular fuel (c :: acc)

def code? (rest : Octets) : Option (Char × Octets) :=
  let coded (base count : Nat) (text : Octets) : Option (Char × Octets) :=
    let digit (c : Char) : Option Nat :=
      let n := if c.isDigit then c.toNat - 48 else if c.isLower then c.toNat - 87
        else if c.isUpper then c.toNat - 55 else 99
      if n < base then some n else none
    let run := (text.take count).takeWhile fun c => (digit c).isSome
    if run.isEmpty then none
    else
      let c := Char.ofNat (run.foldl (fun n c => base * n + (digit c).getD 0) 0 % 256)
      some (if c.toNat < 0x80 then c else Octets.stray c, text.drop run.length)
  match rest with
  | 'a' :: rest => some ('\x07', rest)
  | 'f' :: rest => some ('\x0c', rest)
  | 'r' :: rest => some ('\r', rest)
  | 't' :: rest => some ('\t', rest)
  | 'v' :: rest => some ('\x0b', rest)
  | 'c' :: c :: rest => some (Char.ofNat (Nat.xor c.toUpper.toNat 64), rest)
  | 'd' :: rest => coded 10 3 rest
  | 'o' :: rest => coded 8 3 rest
  | 'x' :: rest => coded 16 2 rest
  | _ => none

def decoded : Nat → Octets → Octets
  | 0, text => text
  | _, [] => []
  | fuel + 1, '\\' :: rest =>
    match code? rest with
    | some (c, behind) =>
      (if "\\*.[]^$".toList.contains c then ['\\', c] else [c]) ++ decoded fuel behind
    | none => match rest with
      | c :: rest => '\\' :: c :: decoded fuel rest
      | [] => ['\\']
  | fuel + 1, c :: rest => c :: decoded fuel rest

def pattern (text : Octets) (anyCase lines : Bool) : Reader (Pattern × Nat) := do
  if text.isEmpty then
    if anyCase || lines then fail "cannot specify modifiers on empty regexp"
    else pure (⟨none, false, false⟩, 9)
  else
    let s ← get
    let rules : RegexRules := {
      extended := s.extended, escapes := true, looseClose := false
      leadingBounds := .refused, once := !s.extended, strictClasses := true }
    match Regex.ofText rules (decoded text.length text) with
    | .ok (r, groups) => pure (⟨some (r, groups), anyCase, lines⟩, groups)
    | .error f =>
      if f == .misplacedClass then throw (f.message.toList, 4) else fail f.message

def patternFlags : Nat → Bool → Bool → Reader (Bool × Bool)
  | 0, anyCase, lines => pure (anyCase, lines)
  | fuel + 1, anyCase, lines => do
    match ← takeVisible with
    | some 'I' => patternFlags fuel true lines
    | some 'M' => patternFlags fuel anyCase true
    | c => do
      back c
      pure (anyCase, lines)

def address (c : Option Char) : Reader (Option Address) := do
  let digits : Reader Nat := do
    match ← takeVisible with
    | some d => if d.isDigit then number d else do
        back (some d)
        pure 0
    | none => pure 0
  match c with
  | some '$' => pure (some .last)
  | some '+' => return some (.plus (← digits))
  | some '~' => return some (.multiple (← digits))
  | some '/' | some '\\' => do
    let sign ← if c == some '\\' then take else pure (some '/')
    match sign with
    | none => fail "unexpected \x60,'"
    | some sign =>
      match ← delimited sign true ((← get).rest.length + 1) [] with
      | none => fail "unterminated address regex"
      | some text => do
        let (i, m) ← patternFlags 10 false false
        return some (.fits (← pattern text i m).1)
  | some d =>
    if !d.isDigit then pure none
    else do
      let n ← number d
      match ← takeVisible with
      | some '~' => return some (.step n (← digits))
      | c => do
        back c
        pure (some (.line n))
  | none => pure none

/-- The text behind a command up to the end of the line. -/
def restOfLine : Reader Octets := do
  skipBlanks
  let s ← get
  let text := s.rest.takeWhile (· != '\n')
  let more := if text.length < s.rest.length then 1 else 0
  set { s with rest := s.rest.drop (text.length + more), used := s.used + text.length + more,
               line := s.line + more }
  pure text

def labelName : Reader Octets := do
  skipBlanks
  let s ← get
  let text := s.rest.takeWhile fun c => !isSpace c && c != ';' && c != '\x7d'
  set { s with rest := s.rest.drop text.length, used := s.used + text.length }
  pure text

/-- The lines of a text that is put in: a backslash joins the next line to them. Parts of the script
that follow are used where this one ends behind a backslash. -/
def textLines : Nat → Octets → Reader Octets
  | 0, acc => pure acc.reverse
  | fuel + 1, acc => do
    match ← take with
    | none | some '\n' => pure ('\n' :: acc).reverse
    | some '\\' => do
      let s ← get
      match s.rest with
      | [] =>
        match s.later with
        | [] => pure ('\n' :: acc).reverse
        | (origin, text) :: later => do
          set { s with rest := text, used := 0, line := 1, origin, later }
          textLines fuel ('\n' :: acc)
      | rest =>
        match code? rest, rest with
        | some (c, behind), _ => do
          set { s with rest := behind, used := s.used + (rest.length - behind.length) }
          textLines fuel (c :: acc)
        | none, 'n' :: behind => do
          set { s with rest := behind, used := s.used + 1 }
          textLines fuel ('\n' :: acc)
        | none, _ => do
          let c ← take
          textLines fuel (c.toList ++ acc)
    | some c => textLines fuel (c :: acc)

def room : Reader Nat := do
  let s ← get
  return s.rest.length + (s.later.map fun p => p.2.length + 2).foldl (· + ·) 10

def insertedText : Reader Octets := do
  match ← takeVisible with
  | none => fail "expected \\ after \x60a', \x60c' or \x60i'"
  | some '\\' => do
    match ← take with
    | none => do
      let s ← get
      match s.later with
      | [] => pure []
      | (origin, text) :: later => do
        set { s with rest := text, used := 0, line := 1, origin, later }
        textLines (← room) []
    | some '\n' => do
      textLines (← room) []
    | c => do
      if c == some '\\' then
        back c
        textLines (← room) []
      else textLines (← room) c.toList
  | c => do
    back c
    textLines (← room) []

def parts : Nat → Octets → Octets → List Part
  | 0, acc, _ => [.text acc.reverse]
  | _, acc, [] => if acc.isEmpty then [] else [.text acc.reverse]
  | fuel + 1, acc, c :: rest =>
    let flush (p : Part) (rest : Octets) : List Part :=
      (if acc.isEmpty then [] else [.text acc.reverse]) ++ p :: parts fuel [] rest
    match c, rest with
    | '&', rest => flush (.group 0) rest
    | '\\', d :: behind =>
      match d with
      | 'L' => flush (.mark .lower) behind
      | 'U' => flush (.mark .upper) behind
      | 'l' => flush (.mark .lowerNext) behind
      | 'u' => flush (.mark .upperNext) behind
      | 'E' => flush (.mark .done) behind
      | 'n' => parts fuel ('\n' :: acc) behind
      | d =>
        if d.isDigit then flush (.group (d.toNat - 48)) behind
        else match code? rest with
          | some (c, behind) => parts fuel (c :: acc) behind
          | none => parts fuel (d :: acc) behind
    | c, rest => parts fuel (c :: acc) rest

def fileName : Reader Octets := do
  let name ← restOfLine
  if name.isEmpty then fail "missing filename in r/R/w/W commands"
  pure (Octets.ofCharacters name)

def targetName : Reader Octets := do
  let name ← fileName
  match (← get).unwritable name with
  | some fault =>
    throw ("couldn't open file ".toList ++ name ++ ": ".toList ++ fault.toList, 4)
  | none => pure name

def replacementFlags : Nat → Replacement → Bool → Bool → Reader (Replacement × Bool × Bool)
  | 0, r, i, m => pure (r, i, m)
  | fuel + 1, r, i, m => do
    match ← take with
    | none | some '\n' | some ';' => pure (r, i, m)
    | some c =>
      match c with
      | 'i' | 'I' => replacementFlags fuel r true m
      | 'm' | 'M' => replacementFlags fuel r i true
      | 'e' => replacementFlags fuel r i m
      | 'p' =>
        if r.prints then fail "multiple \x60p' options to \x60s' command"
        else replacementFlags fuel { r with prints := true } i m
      | 'g' =>
        if r.every then fail "multiple \x60g' options to \x60s' command"
        else replacementFlags fuel { r with every := true } i m
      | 'w' => do
        let name ← targetName
        pure ({ r with target := some name }, i, m)
      | ' ' | '\t' => replacementFlags fuel r i m
      | '#' | '\x7d' => do
        back (some c)
        pure (r, i, m)
      | c =>
        if !c.isDigit then fail "unknown option to \x60s'"
        else if r.count.isSome then
          fail "multiple number options to \x60s' command"
        else do
          let n ← number c
          if n = 0 then fail "number option to \x60s' command may not be zero"
          replacementFlags fuel { r with count := some n } i m

def replacement : Reader Action := do
  let unfinished {α : Type} : Reader α := fail "unterminated \x60s' command"
  match ← take with
  | none => unfinished
  | some sign => do
    let left ← room
    match ← delimited sign true left [] with
    | none => unfinished
    | some text => do
      match ← delimited sign false left [] with
      | none => unfinished
      | some other => do
        let ps := parts (other.length + 1) [] other
        let (r, i, m) ← replacementFlags left ⟨⟨none, false, false⟩, ps, 0, false, none, false, none⟩
          false false
        let (p, groups) ← pattern text i m
        let highest := ps.foldl (fun n p => match p with
          | .group k => max n k
          | _ => n) 0
        if groups < highest then
          fail ("invalid reference \\" ++ toString highest ++ " on \x60s' command's RHS")
        pure (.replace { r with pattern := p, highest })

def exchanged : Nat → Octets → Octets
  | 0, _ | _, [] => []
  | fuel + 1, '\\' :: c :: rest =>
    if c == '\\' then '\\' :: exchanged fuel rest
    else if c == 'n' then '\n' :: exchanged fuel rest
    else match code? (c :: rest) with
      | some (c, behind) => c :: exchanged fuel behind
      | none => '\\' :: c :: exchanged fuel rest
  | fuel + 1, c :: rest => c :: exchanged fuel rest

def translation : Reader Action := do
  let unfinished {α : Type} : Reader α := fail "unterminated \x60y' command"
  match ← take with
  | none => unfinished
  | some sign => do
    let left ← room
    match ← delimited sign false left [] with
    | none => unfinished
    | some text => do
      match ← delimited sign false left [] with
      | none => unfinished
      | some other => do
        let a := exchanged (text.length + 1) text
        let b := exchanged (other.length + 1) other
        if a.length != b.length then fail "strings for \x60y' command are different lengths"
        endCommand
        pure (.translate (a.zip b))

/-- A status or a width behind a command. -/
def optionalNumber : Reader (Option Nat) := do
  match ← takeVisible with
  | some c =>
    if c.isDigit then return some (← number c)
    else
      back (some c)
      pure none
  | none => pure none

def action (c : Command) (letter : Char) : Reader (Option Action) := do
  let simple (a : Action) : Reader (Option Action) := do
    endCommand
    pure (some a)
  match letter with
  | '#' => do
    if c.first.isSome then fail "comments don't accept any addresses"
    let _ ← restOfLine
    pure none
  | '\x7b' => pure (some (.block 0))
  | '\x7d' => do
    let s ← get
    match s.blocks with
    | [] => fail "unexpected \x60\x7d'"
    | start :: blocks => do
      if c.first.isSome then fail "\x7d doesn't want any addresses"
      endCommand
      modify fun t =>
        { t with blocks, commands := t.commands.modify start fun b =>
            { b with action := .block t.commands.size } }
      pure (some .none)
  | 'a' => return some (.append (← insertedText))
  | 'i' => return some (.insert (← insertedText))
  | 'c' => return some (.change (← insertedText))
  | ':' => do
    if c.first.isSome then fail ": doesn't want any addresses"
    let name ← labelName
    if name.isEmpty then fail "\":\" lacks a label"
    skipBlanks
    pure (some (.label name))
  | 'b' | 't' | 'T' => do
    let name ← labelName
    endCommand
    pure (some (.jump (match letter with
      | 'b' => .always
      | 't' => .replaced
      | _ => .notReplaced) name))
  | 'q' | 'Q' => do
    if c.second.isSome then fail "command only uses one address"
    let status := (← optionalNumber).getD 0
    simple (if letter == 'q' then .quit status else .quitSilently status)
  | 'l' | 'L' => do
    let width ← optionalNumber
    simple (.list width)
  | '=' => simple .number
  | 'F' => simple .fileName
  | 'd' => simple .delete
  | 'D' => simple .deleteLine
  | 'g' => simple .get
  | 'G' => simple .getMore
  | 'h' => simple .hold
  | 'H' => simple .holdMore
  | 'x' => simple .exchange
  | 'n' => simple .next
  | 'N' => simple .nextMore
  | 'p' => simple .print
  | 'P' => simple .printLine
  | 'z' => simple .empty
  | 'r' => return some (.readFile (← fileName))
  | 'R' => return some (.readLine (← fileName))
  | 'w' => return some (.writeFile (← targetName))
  | 'W' => return some (.writeLine (← targetName))
  | 's' => return some (← replacement)
  | 'y' => return some (← translation)
  | 'v' => do
    let _ ← labelName
    simple .none
  | c => fail ("unknown command: \x60" ++ String.ofList [c] ++ "'")

def command (c : Char) : Reader Unit := do
  let first ← address (some c)
  match first with
  | some (.plus _) | some (.multiple _) => fail "invalid usage of +N or ~N as first address"
  | _ => pure ()
  let next ← if first.isSome then takeVisible else pure (some c)
  let (second, next) ← if first.isSome && next == some ',' then do
      match ← address (← takeVisible) with
      | none => fail "unexpected \x60,'"
      | some a => do
        let next ← takeVisible
        pure (some a, next)
    else pure (none, next)
  match first, second with
  | some (.line 0), some (.fits _) => pure ()
  | some (.line 0), _ => fail "invalid usage of line address 0"
  | _, _ => pure ()
  let (negated, next) ← if next == some '!' then do
      let next ← takeVisible
      if next == some '!' then fail "multiple \x60!'s"
      pure (true, next)
    else pure (false, next)
  let draft : Command := { first, second, negated, action := .none }
  match next with
  | none => fail "missing command"
  | some letter => do
    match ← action draft letter with
    | none => pure ()
    | some a =>
      modify fun s =>
        let s := if letter == '\x7b' then { s with blocks := s.commands.size :: s.blocks } else s
        { s with commands := s.commands.push { draft with action := a } }

def script : Nat → Reader Unit
  | 0 => pure ()
  | fuel + 1 => do
    match ← take with
    | none => do
      let s ← get
      match s.later with
      | [] => pure ()
      | (origin, text) :: later => do
        set { s with rest := text, used := 0, line := 1, origin, later }
        script fuel
    | some c =>
      if c == ';' || isSpace c then script fuel
      else do
        let s ← get
        if c == '#' && s.used = 1 && s.commands.isEmpty && s.rest.head? == some 'n' &&
            ((s.rest.drop 1).isEmpty || (s.rest[1]?) == some '\n') then
          modify fun s => { s with quiet := true }
        command c
        script fuel

end Reader

structure Script where
  commands : Array Command
  /-- It asks for no output of its own. -/
  quiet : Bool

def Script.read (extended : Bool) (unwritable : Octets → Option String)
    (parts : List (Origin × Octets)) :
    Except (Octets × Nat) Script :=
  match parts with
  | [] => .ok ⟨#[], false⟩
  | (origin, text) :: later =>
    let size := (parts.map fun p => p.2.length + 2).foldl (· + ·) 10
    let text := text.characters
    let later := later.map fun (o, t) => (o, t.characters)
    let start : Source := { rest := text, origin, later, extended, unwritable }
    match (Reader.script size).run start with
    | (.error e, _) => .error e
    | (.ok (), s) =>
      let labels := s.commands.toList.filterMap fun c => match c.action with
        | .label name => some name
        | _ => none
      let missing := s.commands.toList.findSome? fun c => match c.action with
        | .jump _ name => if name.isEmpty || labels.contains name then none else some name
        | _ => none
      if !s.blocks.isEmpty then
        .error (Reader.place s 0 ++ "unmatched \x60\x7b'".toList, 1)
      else match missing with
        | some name =>
          .error ("can't find label for jump to \x60".toList ++ Octets.ofCharacters name ++ ['\''], 4)
        | none => .ok ⟨s.commands, s.quiet⟩

end MediaPipeline.Program.Edit
