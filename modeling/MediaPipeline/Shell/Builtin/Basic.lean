import MediaPipeline.Shell.Condition
import MediaPipeline.Shell.Expansion

/-!
What the commands of a shell itself have in common: how they complain, and how they take their
options apart.
-/

namespace MediaPipeline.Shell

abbrev Builtin := List Octets → Session Unit

/-- An argument of a command. In the extended dialect one that sets a variable may hold a list. -/
structure Operand where
  text : Octets
  items : Option (Bool × List ListElement) := none

namespace Builtin

def complain (text : Octets) : Session Unit := do
  let m ← get
  if m.isStandard then Session.complain text
  else Session.complain ((m.running.getD []) ++ ": ".toList ++ text)

def refuse {α : Type} (status : Nat) (text : Octets) : Session α := do
  complain text
  throw (.fault status)

/-- Says what is wrong and ends the command, with the usual status. -/
def abort {α : Type} (text : Octets) : Session α := do
  refuse (if (← get).isStandard then 2 else 1) text

def usage {α : Type} (text : String) : Session α := do
  let m ← get
  Session.err ((m.running.getD []) ++ ": usage: ".toList ++ (m.running.getD []) ++ text.toList ++ ['\n'])
  throw (.fault 2)

/-- Says what is wrong, shows how the command is called, and ends it. -/
def misuse {α : Type} (text : Octets) (usageText : String) : Session α := do
  complain text
  usage usageText

def value (digits : Octets) : Nat :=
  digits.foldl (fun n c => 10 * n + (c.toNat - 48)) 0

def number (text : Octets) : Session Nat := do
  if text.isEmpty || !text.all Char.isDigit || value text > 0x7FFFFFFF then
    abort ("Illegal number: ".toList ++ text)
  else pure (value text)

def statusOf (n : Int) : Nat :=
  (n % 256).toNat

/-! ### Options -/

structure Options where
  letters : List (Char × Octets) := []
  operands : List Octets := []

namespace Options

def has (o : Options) (c : Char) : Bool :=
  o.letters.any (·.1 == c)

def value? (o : Options) (c : Char) : Option Octets :=
  o.letters.reverse.lookup c

end Options

inductive OptionFault where
  | unknown (c : Char)
  | noValue (c : Char)

/-- Takes options apart. A colon behind a letter says that it takes a value. With `plus` a plus
sign may stand in front of letters, which are marked by it. -/
def splitOptions (known : Octets) (plus : Bool) :
    Nat → List Octets → Except OptionFault Options
  | 0, args => .ok { operands := args }
  | _, [] => .ok {}
  | fuel + 1, arg :: rest =>
    let takesValue (c : Char) : Bool := (known.dropWhile (· != c)).tail.head? == some ':'
    let isKnown (c : Char) : Bool := c != ':' && known.contains c
    let push (c : Char) (v : Octets) (args : List Octets) : Except OptionFault Options := do
      let o ← splitOptions known plus fuel args
      pure { o with letters := (c, v) :: o.letters }
    match arg with
    | ['-', '-'] => .ok { operands := rest }
    | sign :: c :: cs =>
      if sign == '-' || (plus && sign == '+') then
        if !isKnown c then .error (.unknown c)
        else
          let mark := if sign == '+' then ['+'] else []
          if takesValue c then
            match cs, rest with
            | [], v :: rest => push c v rest
            | [], [] => .error (.noValue c)
            | cs, rest => push c cs rest
          else if cs.isEmpty then push c mark rest
          else push c mark ((sign :: cs) :: rest)
      else .ok { operands := arg :: rest }
    | _ => .ok { operands := arg :: rest }

/-- Takes the options of the running command apart, or ends it with a message. -/
def options (known : String) (plus : Bool) (usageText : String) (args : List Octets) :
    Session Options := do
  let fuel := args.length + (args.map List.length).foldl (· + ·) 1
  match splitOptions known.toList plus fuel args, (← get).dialect with
  | .ok o, _ => pure o
  | .error (.unknown c), .standard => abort ("Illegal option -".toList ++ [c])
  | .error (.noValue c), .standard => abort ("No arg for -".toList ++ c :: " option".toList)
  | .error (.unknown c), .extended => misuse ('-' :: c :: ": invalid option".toList) usageText
  | .error (.noValue c), .extended =>
    misuse ('-' :: c :: ": option requires an argument".toList) usageText

def texts (operands : List Operand) : List Octets :=
  operands.map Operand.text

end Builtin

end MediaPipeline.Shell
