import MediaPipeline.Shell.Regex

/-!
Scripts that go through records and their fields. A rule has a pattern, which says for which records
it is, and what it does; functions give names to what rules have in common.
-/

namespace MediaPipeline.Records

open Shell (Regex)

/-- A variable: one that all of a script shares, or a parameter of the function that runs. -/
inductive Name where
  | shared (n : Nat)
  | own (n : Nat)
  deriving DecidableEq, Inhabited

/-! ### Variables with a meaning of their own -/

/-- The variables that there are from the start. A shared variable has the number of its place
here. -/
def standingNames : List String := [
  "NF", "NR", "FNR", "FS", "RS", "OFS", "ORS", "SUBSEP", "CONVFMT", "OFMT", "FILENAME", "RSTART",
  "RLENGTH", "ENVIRON", "ARGV", "ARGC"]

def standing (name : String) : Nat :=
  standingNames.idxOf name

/-! ### Expressions -/

inductive Operation where
  | add | sub | mul | div | rem | pow
  deriving DecidableEq

inductive Relation where
  | lt | le | eq | ne | gt | ge
  deriving DecidableEq

inductive Standard where
  | length | index | substr | sprintf | sin | cos | atan2 | exp | log | int | sqrt | rand | srand
  | close | system | toupper | tolower | fflush | time | timeText | timeOf
  deriving DecidableEq

inductive Origin where
  | main
  | file
  | command
  deriving DecidableEq

inductive Expr where
  | number (x : Float)
  | text (t : Octets)
  | pattern (r : Regex) (written : Octets)
  | variable (v : Name)
  | element (a : Name) (keys : List Expr)
  | field (index : Expr)
  | grouped (e : Expr)
  | several (es : List Expr)
  | assign (place : Expr) (op : Option Operation) (e : Expr)
  /-- Adds one or takes one away, and gives the value after it or before. -/
  | step (place : Expr) (up before : Bool)
  | operate (op : Operation) (a b : Expr)
  | compare (r : Relation) (a b : Expr)
  | fits (negated : Bool) (a b : Expr)
  | member (keys : List Expr) (a : Name)
  | both (a b : Expr)
  | either (a b : Expr)
  | choice (test yes no : Expr)
  | not (e : Expr)
  | negate (e : Expr)
  | plus (e : Expr)
  | join (a b : Expr)
  | call (f : Nat) (args : List Expr)
  | standard (f : Standard) (args : List Expr)
  | split (e : Expr) (a : Name) (separator : Option Expr)
  | position (e pattern : Expr)
  | substitute (every : Bool) (pattern replacement : Expr) (target : Option Expr)
  | nextRecord (origin : Origin) (source : Option Expr) (target : Option Expr)
  deriving Inhabited

namespace Expr

def isPlace : Expr → Bool
  | .variable _ | .element .. | .field _ => true
  | _ => false

end Expr

/-! ### Statements -/

inductive Destination where
  | file
  | append
  | command
  deriving DecidableEq

inductive Statement where
  | block (body : List Statement)
  | evaluate (e : Expr)
  | print (args : List Expr) (target : Option (Destination × Expr))
  | printFormatted (args : List Expr) (target : Option (Destination × Expr))
  | choice (test : Expr) (yes : Statement) (no : Option Statement)
  | whileLoop (test : Expr) (body : Statement)
  | doLoop (body : Statement) (test : Expr)
  | forLoop (start test step : Option Expr) (body : Statement)
  | forEach (v a : Name) (body : Statement)
  | delete (a : Name) (keys : Option (List Expr))
  | next
  | nextFile
  | exit (e : Option Expr)
  | give (e : Option Expr)
  | leave
  | again
  deriving Inhabited

structure Definition where
  name : Octets
  parameters : Nat
  body : List Statement

inductive Pattern where
  | always
  | test (e : Expr)
  /-- From a record that passes one test to the next that passes another. -/
  | range (first last : Expr)

structure Rule where
  pattern : Pattern
  body : Option (List Statement)

structure Script where
  names : Array Octets
  functions : Array Definition
  before : List Statement := []
  behind : Option (List Statement) := none
  rules : List Rule := []

end MediaPipeline.Records
