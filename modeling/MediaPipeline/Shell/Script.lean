import MediaPipeline.Text.Octets

/-!
Scripts of command shells. A word is a list of atoms: its characters, each with whether it is
quoted, and the substitutions in it, which hold words and commands themselves. Two dialects are
read: the standard one, and an extended one with lists, conditions and arithmetic commands.
-/

namespace MediaPipeline.Shell

inductive Dialect where
  | standard
  | extended
  deriving DecidableEq

inductive RedirectKind where
  | read
  | write (forced : Bool)
  | append
  | both
  | duplicate (reads : Bool)
  /-- Reads lines that follow the command, kept under a number. -/
  | here (number : Nat)
  | hereWord
  /-- Sends the standard output and the error output to a file. -/
  | all (append : Bool)
  deriving DecidableEq

inductive ReplaceMode where
  | first
  | every
  | front
  | back
  deriving DecidableEq

inductive CaseChange where
  | upper
  | lower
  | toggle
  deriving DecidableEq

mutual

inductive Atom where
  | char (c : Char) (quoted : Bool)
  /-- Quotes, which make a word even where nothing stands between them. -/
  | quotes
  | parameter (p : Parameter) (quoted : Bool)
  | command (script : Command) (quoted : Bool)
  | scriptText (text : Octets) (quoted : Bool)
  | arithmetic (text : List Atom) (quoted : Bool)
  | channel (reads : Bool) (script : Command)
  | items (words : List (List Atom)) (written : Octets)

inductive Parameter where
  | mk (name : Octets) (index : Index) (indirect : Bool) (use : Use)

inductive Index where
  | none
  | each
  | joined
  | key (word : List Atom)

inductive Use where
  | value
  | length
  | standard (empty : Bool) (word : List Atom)
  | assign (empty : Bool) (word : List Atom)
  | demand (empty : Bool) (word : List Atom)
  | alternative (empty : Bool) (word : List Atom)
  | trim (front longest : Bool) (pattern : List Atom)
  | substring (offset : List Atom) (length : Option (List Atom)) (written : Octets)
  | replace (mode : ReplaceMode) (pattern text : List Atom)
  | changeCase (change : CaseChange) (every : Bool) (pattern : List Atom)
  | transform (letter : Char)
  | names (joined : Bool)
  | keys (joined : Bool)
  | bad (text : Octets)

/-- A redirection, with its target as it is written. The descriptor may be left to the kind, or to be
chosen and kept in a variable. -/
inductive Redirection where
  | mk (descriptor : Option Nat) (holder : Option Octets) (kind : RedirectKind)
    (target : List Atom) (written : Octets)

inductive Setting where
  | mk (name : Octets) (index : Option (List Atom)) (append : Bool) (value : List Atom)

inductive Test where
  | word (w : List Atom) (written : Octets)
  | unary (operator : Octets) (operand : List Atom) (written : Octets)
  | binary (operator : Octets) (left right : List Atom) (written : Octets)
  | group (t : Test)
  | not (t : Test)
  | and (left right : Test)
  | or (left right : Test)

inductive Command where
  | simple (line : Nat) (settings : List Setting) (words : List (List Atom))
    (redirections : List Redirection) (written : Octets)
  | redirected (line : Nat) (body : Command) (redirections : List Redirection)
  | pipe (stages : List Command)
  | not (body : Command)
  /-- Says how long the body takes; with `portable` in a form that all systems share. -/
  | timed (portable : Bool) (body : Command)
  | and (left right : Command)
  | or (left right : Command)
  | seq (first second : Command)
  | background (body : Command)
  | subshell (line : Nat) (body : Command)
  | group (body : Command)
  | cond (test yes : Command) (no : Option Command)
  | loop (untilSuccess : Bool) (test body : Command)
  | each (line : Nat) (name : Octets) (words : Option (List (List Atom))) (written : Octets)
    (body : Command)
  | select (line : Nat) (name : Octets) (words : Option (List (List Atom))) (written : Octets)
    (body : Command)
  | count (line : Nat) (start test step : List Atom) (written : Octets) (body : Command)
  | choose (line : Nat) (subject : List Atom) (written : Octets) (arms : List Arm)
  | define (line : Nat) (name : Octets) (body : Command)
  | arithmetic (line : Nat) (text : List Atom) (written : Octets)
  | test (line : Nat) (t : Test)
  | contents (line : Nat) (file : Redirection)
  | nothing

/-- Patterns with what runs where one of them fits, and whether the next arm runs or is tried too. -/
inductive Arm where
  | mk (patterns : List (List Atom)) (written : Octets) (body : Command) (next : ArmEnd)

inductive ArmEnd where
  | leave
  | run
  | try

end

abbrev Word := List Atom

instance : Inhabited Command := ⟨.nothing⟩

def Word.ofOctets (text : Octets) (quoted : Bool) : Word :=
  text.map fun c => .char c quoted

/-- A command whose output is put into a word: one that only opens a file for reading stands for the
content of the file. -/
def Command.answer : Command → Command
  | .simple line [] [] [.mk none holder .read target written] _ =>
    .contents line (.mk none holder .read target written)
  | .simple line [] [] [.mk (some 0) holder .read target written] _ =>
    .contents line (.mk none holder .read target written)
  | c => c

def Word.bare? (w : Word) : Option Octets :=
  w.mapM fun
    | .char c false => some c
    | _ => none

def Word.hasQuotes (w : Word) : Bool :=
  w.any fun
    | .char _ quoted => quoted
    | .quotes => true
    | _ => false

def isNameStart (c : Char) : Bool :=
  c.isAlpha || c == '_'

def isNameChar (c : Char) : Bool :=
  c.isAlphanum || c == '_'

def isName (text : Octets) : Bool :=
  text.head?.any isNameStart && text.all isNameChar

end MediaPipeline.Shell
