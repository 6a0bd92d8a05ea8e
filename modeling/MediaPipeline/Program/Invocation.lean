import MediaPipeline.Process.Files
import MediaPipeline.Shell.Quoting

/-!
What a program is started with and what it leaves behind, and how it takes its options apart: by
letters that may be joined, and by names that may be cut short.
-/

namespace MediaPipeline

/-- How much is made of a text that never ends, where all of it may be read. -/
def Invocation.farReach : Nat := 4194304

structure Invocation where
  name : Octets
  arguments : List Octets
  input : Except String Octets
  fromFile : Bool
  channels : List (Nat × Octets) := []
  /-- Where the input and the output are plain files: which, and how far they have come. -/
  inputPlace : Option (Place × Nat) := none
  outputPlace : Option (Place × Nat) := none
  files : Files
  environment : List (Octets × Octets) := []
  /-- Permissions that new files do not get. -/
  mask : Nat := 0o022
  reach : Nat := Invocation.farReach
  time : Nat := 0

structure Outcome where
  out : Octets := []
  err : Octets := []
  /-- How much of the output comes before the messages. -/
  early : Nat := 0
  status : Nat := 0
  others : List (Nat × Octets) := []
  /-- How many microseconds it takes, and does nothing else. -/
  duration : Nat := 0
  consumed : Option Nat := none
  block : Nat := 8192
  files : Option Files := none

abbrev Program := Invocation → Outcome

namespace Invocation

def present (i : Invocation) : Moment :=
  { Moment.onClock (i.environment.lookup "TZ".toList) (Moment.present + (i.time / 1000000 : Nat)) with
    nanoseconds := i.time % 1000000 * 1000 }

/-- Whether texts consist of characters, as the environment says, and not of bytes only. -/
def knowsLetters (i : Invocation) : Bool :=
  let given := ["LC_ALL", "LC_CTYPE", "LANG"].filterMap fun name =>
    (i.environment.lookup name.toList).filter fun v => !v.isEmpty
  given.head?.any fun v => ["C.UTF-8", "C.utf8"].contains (String.ofList v)

def straight : Octets → Octets
  | 'â' :: '\x80' :: '\x98' :: rest | 'â' :: '\x80' :: '\x99' :: rest => '\'' :: straight rest
  | c :: rest => c :: straight rest
  | [] => []

/-- A complaint of a program, as one line. Where texts are bytes only there are no curved quotes. -/
def complaint (i : Invocation) (text : Octets) : Octets :=
  i.name ++ ": ".toList ++ (if i.knowsLetters then text else straight text) ++ ['\n']

def hint (i : Invocation) : Octets :=
  "Try '".toList ++ i.name ++ " --help' for more information.\n".toList

def fail (i : Invocation) (status : Nat) (text : Octets) : Outcome :=
  { err := i.complaint text, status }

/-- The end of a program that was called in a wrong way. -/
def misuse (i : Invocation) (status : Nat) (text : Octets) : Outcome :=
  { err := i.complaint text ++ i.hint, status }

def missingOperand (i : Invocation) (status : Nat) : Outcome :=
  i.misuse status "missing operand".toList

def extraOperand (i : Invocation) (status : Nat) (operand : Octets) : Outcome :=
  i.misuse status ("extra operand ".toList ++ Shell.Quoting.plain operand)

end Invocation

/-! ### Options -/

inductive ValueUse where
  | none
  | needed
  | joined
  deriving DecidableEq

structure ProgramOption where
  letter : Option Char
  name : Option String
  use : ValueUse

namespace ProgramOption

def flag (letter : Char) (name : String) : ProgramOption :=
  ⟨some letter, some name, .none⟩

def value (letter : Char) (name : String) : ProgramOption :=
  ⟨some letter, some name, .needed⟩

def letters (all : String) : List ProgramOption :=
  all.toList.map fun c => ⟨some c, none, .none⟩

def names (use : ValueUse) (all : List String) : List ProgramOption :=
  all.map fun n => ⟨none, some n, use⟩

def key (o : ProgramOption) : String :=
  match o.letter with
  | some c => String.ofList [c]
  | none => o.name.getD ""

end ProgramOption

structure Arguments where
  options : List (String × Octets) := []
  operands : List Octets := []

namespace Arguments

def has (a : Arguments) (key : String) : Bool :=
  a.options.any (·.1 == key)

def value? (a : Arguments) (key : String) : Option Octets :=
  a.options.reverse.lookup key

def lastOf? (a : Arguments) (keys : List String) : Option String :=
  (a.options.reverse.find? fun o => keys.contains o.1).map Prod.fst

def push (key : String) (value : Octets) (a : Arguments) : Arguments :=
  { a with options := (key, value) :: a.options }

/-- An option by its name, which may be cut short where no other begins so. -/
def named (known : List ProgramOption) (name : Octets) : Except Octets ProgramOption :=
  let text := String.ofList name
  match known.find? fun o => o.name == some text with
  | some o => .ok o
  | none =>
    let fitting := known.filter fun o => o.name.any fun n => name.isPrefixOf n.toList
    match fitting with
    | [] => .error ("unrecognized option '--".toList ++ name ++ ['\''])
    | o :: others =>
      if others.all fun p => p.key == o.key then .ok o
      else
        let shown := fitting.flatMap fun o => " '--".toList ++ (o.name.getD "").toList ++ ['\'']
        .error ("option '--".toList ++ name ++ "' is ambiguous; possibilities:".toList ++ shown)

def read (known : List ProgramOption) (ordered : Bool) :
    Nat → List Octets → Except Octets Arguments
  | 0, _ | _, [] => .ok {}
  | fuel + 1, arg :: rest =>
    let later (rest : List Octets) : Except Octets Arguments := read known ordered fuel rest
    match arg with
    | ['-', '-'] => .ok { operands := rest }
    | '-' :: '-' :: long => do
      let name := long.takeWhile (· != '=')
      let o ← named known name
      let shown := "option '--".toList ++ (o.name.getD "").toList ++ ['\'']
      let joined := if name.length < long.length then some (long.drop (name.length + 1)) else none
      match o.use, joined, rest with
      | .none, some _, _ => throw (shown ++ " doesn't allow an argument".toList)
      | .none, none, _ | .joined, none, _ => return (← later rest).push o.key []
      | _, some value, _ => return (← later rest).push o.key value
      | .needed, none, value :: rest => return (← later rest).push o.key value
      | .needed, none, [] => throw (shown ++ " requires an argument".toList)
    | '-' :: c :: cs =>
      match known.find? fun o => o.letter == some c with
      | none => .error ("invalid option -- '".toList ++ [c, '\''])
      | some o =>
        match o.use, cs, rest with
        | .none, [], _ => return (← later rest).push o.key []
        | .none, cs, _ => return (← later (('-' :: cs) :: rest)).push o.key []
        | .joined, cs, _ => return (← later rest).push o.key cs
        | .needed, [], [] => throw ("option requires an argument -- '".toList ++ [c, '\''])
        | .needed, [], value :: rest => return (← later rest).push o.key value
        | .needed, cs, _ => return (← later rest).push o.key cs
    | _ =>
      if ordered then .ok { operands := arg :: rest }
      else do
        let a ← later rest
        pure { a with operands := arg :: a.operands }

def ofList (known : List ProgramOption) (ordered : Bool) (args : List Octets) :
    Except Octets Arguments :=
  read known ordered (args.length + (args.map List.length).foldl (· + ·) 1) args

end Arguments

namespace Invocation

def withOptions (i : Invocation) (known : List ProgramOption) (status : Nat)
    (body : Arguments → Outcome) : Outcome :=
  match Arguments.ofList known false i.arguments with
  | .ok a => body a
  | .error text => i.misuse status text

def content (i : Invocation) (operand : Octets) : Except String Octets :=
  if operand == ['-'] then i.input
  else match i.files.find operand with
    | .ok (.document d) => .ok d.content
    | .ok (.device .zeros) | .ok (.device .full) => .ok (List.replicate i.reach '\x00')
    | .ok (.device .noise) => .ok (Files.noise i.reach)
    | .ok (.device (.pipe held)) => .ok held
    | .ok (.device (.descriptor 0)) => i.input
    | .ok (.device (.descriptor n)) => .ok ((i.channels.lookup n).getD [])
    | .ok (.device _) | .ok (.link _) | .ok (.program _) => .ok []
    | .ok .directory => .error "Is a directory"
    | .error f => .error f.message

def isInput (i : Invocation) (operand : Octets) : Bool :=
  operand == ['-'] || i.files.find operand matches .ok (.device (.descriptor 0))

def wholeInput (i : Invocation) : Option Nat :=
  match i.input with
  | .ok text => some text.length
  | .error _ => some 0

def overOperands (i : Invocation) (operands : List Octets) (use : Octets → Octets → Octets)
    (fault : Octets → String → Octets) : Outcome :=
  (if operands.isEmpty then [['-']] else operands).foldl (fun o operand =>
    let o := if i.isInput operand then { o with consumed := o.consumed.or i.wholeInput } else o
    match i.content operand with
    | .ok text => { o with out := o.out ++ use operand text }
    | .error e => { o with err := o.err ++ i.complaint (fault operand e), status := 1 }) {}

def fileFault (operand : Octets) (fault : String) : Octets :=
  Shell.Quoting.asNeeded operand ++ ": ".toList ++ fault.toList

end Invocation

/-! ### Lines -/

def linesOf (text : Octets) : List Octets :=
  let pieces := text.splitOn '\n'
  let ended := pieces.dropLast.map fun l => l ++ ['\n']
  match pieces.getLast? with
  | none | some [] => ended
  | some l => ended ++ [l]

def bareLines (text : Octets) : List Octets :=
  (linesOf text).map fun l => if l.getLast? = some '\n' then l.dropLast else l

/-! ### Words as values -/

namespace Invocation

/-- A complaint about a word that the value of an option may not have, with those that it may have: in
each row the words for one thing. -/
def badWord (i : Invocation) (given : Octets) (option : String) (known : List (List String))
    (fault : String := "invalid") : Octets :=
  let quote (t : Octets) : Octets :=
    if i.knowsLetters then Shell.Quoting.plain t else straight (Shell.Quoting.plain t)
  i.complaint (fault.toList ++ " argument ".toList ++ quote given ++ " for ".toList ++
    quote ("--".toList ++ option.toList)) ++ "Valid arguments are:\n".toList ++
  (known.flatMap fun names => "  - ".toList ++
    joinOctets [',', ' '] (names.map fun n => quote n.toList) ++ ['\n']) ++ i.hint

/-- The row of the word that a value stands for. It may be cut short where only words of one row begin
so. -/
def choose (i : Invocation) (given : Octets) (option : String) (known : List (List String)) :
    Except Octets Nat :=
  let rows := known.zipIdx
  match rows.find? fun r => r.1.contains (String.ofList given) with
  | some r => .ok r.2
  | none =>
    match rows.filter fun r => r.1.any fun w => given.isPrefixOf w.toList with
    | [r] => .ok r.2
    | [] => .error (i.badWord given option known)
    | _ => .error (i.badWord given option known "ambiguous")

end Invocation

end MediaPipeline
