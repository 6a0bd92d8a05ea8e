import MediaPipeline.Shell.Script

/-!
The text of a script while it is read: what is left of it, the line it has come to, the lines of
here-documents that are still to come, and the texts that aliases have put in front.
-/

namespace MediaPipeline.Shell

inductive Operator where
  | semi
  | background
  | and
  | or
  | pipe
  | pipeAll
  | openParen
  | closeParen
  | endArm
  | nextArm
  | testNextArm
  | newline
  | finish
  deriving DecidableEq

def Operator.text : Operator → String
  | semi => ";"
  | background => "&"
  | and => "&&"
  | or => "||"
  | pipe => "|"
  | pipeAll => "|&"
  | openParen => "("
  | closeParen => ")"
  | endArm => ";;"
  | nextArm => ";&"
  | testNextArm => ";;&"
  | newline => "newline"
  | finish => "end of file"

inductive Token where
  | operator (op : Operator)
  | word (w : Word) (text : Octets)
  | reserved (name : String)
  | redirect (descriptor : Option Nat) (holder : Option Octets) (kind : RedirectKind)

inductive Enclosure where
  | single
  | double
  | backquote
  | brace
  | paren
  | arithmetic
  | bracket
  | list
  deriving DecidableEq

inductive Fault where
  | unexpected (token : Token) (expected : Option String) (lineText : Octets)
  | unclosed (e : Enclosure)
  | badLoopVariable (name : Octets)
  | badFunctionName (name : Octets)
  | badDescriptor
  /-- A condition that cannot be read: what is wrong, each with its line, and the word at which it
  is, unless that is the end of the script. -/
  | badTest (what : List (Nat × Octets)) (near : Option Octets) (lineText : Octets)
  /-- Arithmetic control of a loop that has not three parts. -/
  | badCount (text : Octets)
  | tooDeep

structure FaultAt where
  line : Nat
  fault : Fault
  inList : Bool := false

structure HereRequest where
  number : Nat
  delimiter : Octets
  stripTabs : Bool
  quoted : Bool
  line : Nat

/-- The lines of a here-document, and how it is written: the sign and its delimiter, and the lines
with the delimiter behind them. -/
structure HereText where
  content : Word
  head : Octets := []
  body : Octets := []

structure Source where
  dialect : Dialect
  rest : List Char
  left : Nat
  line : Nat
  lineStart : List Char
  lastStart : List Char := []
  aliases : List (Octets × Octets) := []
  /-- Aliases whose text is being read, each with how much is left behind its text, and whether that
  ends in a blank. -/
  active : List (Octets × Nat × Bool) := []
  aliasNext : Bool := false
  pushed : Option Token := none
  pending : List HereRequest := []
  heres : Array HereText := #[]
  /-- Warnings about here-documents without an end, with their lines and delimiters. -/
  warnings : List (Nat × Nat × Octets) := []

/-- The start of a script. In the extended dialect its last line always has an end, and a backslash
in front of that stands for itself. -/
def Source.ofText (dialect : Dialect) (aliases : List (Octets × Octets)) (text : Octets) : Source :=
  let ending : Octets :=
    if dialect = .standard || text.isEmpty || text.getLast? == some '\n' then []
    else if (text.reverse.takeWhile (· == '\\')).length % 2 = 1 then ['\\', '\n']
    else ['\n']
  let text := text ++ ending
  { dialect, rest := text, left := text.length, line := 1, lineStart := text, aliases }

def aliasEnd : Char := '\u0100'

abbrev Reader := ExceptT FaultAt (StateM Source)

namespace Reader

def fail {α : Type} (fault : Fault) : Reader α := do
  throw { line := (← get).line, fault }

/-- The fault of an enclosure that was opened on a line. In the extended dialect that line is
named, in the standard one the last. -/
def unclosed {α : Type} (e : Enclosure) (line : Nat) : Reader α := do
  let s ← get
  throw { line := if s.dialect == .extended then line else s.line, fault := .unclosed e }

def frontLine (text : List Char) : Octets :=
  (text.takeWhile (· != '\n')).filter (· != aliasEnd)

def lineText : Reader Octets :=
  return frontLine (← get).lineStart

def extended : Reader Bool :=
  return (← get).dialect == .extended

def peek : Reader (Option Char) :=
  return (← get).rest.head?

def rest : Reader (List Char) :=
  return (← get).rest

def closeAliases (s : Source) : Source :=
  match s.active with
  | (_, behind, blank) :: outer =>
    if s.left ≤ behind then { s with active := outer, aliasNext := s.aliasNext || blank } else s
  | [] => s

def advance : Reader Unit :=
  modify fun s =>
    match s.rest with
    | [] => s
    | '\n' :: rest =>
      closeAliases { s with rest, left := s.left - 1, line := s.line + 1, lineStart := rest,
                            lastStart := s.lineStart }
    | _ :: rest => closeAliases { s with rest, left := s.left - 1 }

def advanceBy : Nat → Reader Unit
  | 0 => pure ()
  | n + 1 => do
    advance
    advanceBy n

/-- Steps over line feeds that a backslash takes away. -/
def joinLines : Nat → Reader Unit
  | 0 => pure ()
  | fuel + 1 => do
    match ← rest with
    | '\\' :: '\n' :: _ => do
      advanceBy 2
      joinLines fuel
    | _ => pure ()

def next? : Reader (Option Char) := do
  joinLines (← get).left
  peek

def accept (c : Char) : Reader Bool := do
  if (← next?) == some c then
    advance
    pure true
  else pure false

/-- Steps over a character if it comes next, under a condition. -/
def acceptWhere (allowed : Bool) (c : Char) : Reader Bool :=
  if allowed then accept c else pure false

def takeWhile (p : Char → Bool) : Nat → Reader Octets
  | 0 => pure []
  | fuel + 1 => do
    match ← next? with
    | some c =>
      if p c then
        advance
        return c :: (← takeWhile p fuel)
      else pure []
    | none => pure []

def putAlias (name text : Octets) : Reader Unit :=
  modify fun s =>
    let blank := text.getLast?.any fun c => c == ' ' || c == '\t'
    let text := if blank then text else text ++ [aliasEnd]
    { s with rest := text ++ s.rest, left := s.left + text.length,
             active := (name, s.left, blank) :: s.active }

def within {α : Type} (text : Octets) (line : Nat) (body : Reader α) : Reader α := do
  let s ← get
  set { s with rest := text, left := text.length, line, lineStart := text, lastStart := [],
               pushed := none, pending := [], active := [] }
  let result ← body
  modify fun inner =>
    { s with heres := inner.heres, warnings := inner.warnings }
  pure result

end Reader

end MediaPipeline.Shell
