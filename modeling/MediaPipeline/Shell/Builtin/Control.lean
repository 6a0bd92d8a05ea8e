import MediaPipeline.Shell.Builtin.Basic
import MediaPipeline.Shell.Signal

/-!
Commands that decide what runs next: the ends of shells, functions and loops, and what is left for
events.
-/

namespace MediaPipeline.Shell.Builtin

/-- Ends everything because of too many arguments. -/
def tooMany {α : Type} : Session α := do
  complain "too many arguments".toList
  throw (.exit 1)

def askedStatus (args : List Octets) : Session Nat := do
  let m ← get
  match args, m.dialect with
  | [], _ => pure m.status
  | text :: _, .standard => number text
  | text :: more, .extended =>
    match narrow? text with
    | some n => if more.isEmpty then pure (statusOf n) else tooMany
    | none => do
      complain (text ++ ": numeric argument required".toList)
      pure 2

/-- An argument list without the sign that ends options. -/
def withoutDashes : List Octets → List Octets
  | ['-', '-'] :: rest => rest
  | args => args

def endShell : Builtin := fun args => do
  throw (.exit ((← askedStatus (withoutDashes args)) % 256))

def endFunction : Builtin := fun args => do
  let m ← get
  let status ← askedStatus (withoutDashes args)
  if m.isStandard || m.inFunction || m.sourcing then throw (.back status)
  else refuse 2 "can only \x60return' from a function or sourced script".toList

def loopControl (flow : Nat → Flow) : Builtin := fun args => do
  let m ← get
  match m.dialect with
  | .standard => do
    let levels ← match args with
      | [] => pure 1
      | text :: _ => do
        let n ← number text
        if n = 0 then abort ("Illegal number: ".toList ++ text) else pure n
    Session.setStatus 0
    if m.loops != 0 then throw (flow (min levels m.loops))
  | .extended => do
    Session.setStatus 0
    if m.loops = 0 then
      complain "only meaningful in a \x60for', \x60while', or \x60until' loop".toList
    else
      match withoutDashes args with
      | [] => throw (flow 1)
      | [text] =>
        match narrow? text with
        | none => do
          complain (text ++ ": numeric argument required".toList)
          throw (.exit 128)
        | some n =>
          if n ≤ 0 then do
            complain (text ++ ": loop count out of range".toList)
            Session.setStatus 1
            throw (.leave m.loops)
          else throw (flow (min n.toNat m.loops))
      | _ => tooMany

def shift : Builtin := fun args => do
  let m ← get
  let drop (count : Nat) : Session Unit :=
    set { m with parameters := m.parameters.drop count, status := 0 }
  match m.dialect, args with
  | .standard, args => do
    let count ← match args with
      | [] => pure 1
      | text :: _ => number text
    if count > m.parameters.length then abort "can't shift that many".toList
    drop count
  | .extended, args =>
    match withoutDashes args with
    | [] => if m.parameters.isEmpty then Session.setStatus 1 else drop 1
    | [text] =>
      match narrow? text with
      | none => abort (text ++ ": numeric argument required".toList)
      | some n =>
        if n < 0 then abort (text ++ ": shift count out of range".toList)
        else if n > m.parameters.length then Session.setStatus 1
        else drop n.toNat
    | _ => tooMany

/-- Shows from where the function that runs has been called, or one of those around it. -/
def caller : Builtin := fun args => do
  let m ← get
  let listed (name : String) : List Octets := ((m.made? name).map Value.elements).getD []
  let lines := listed "BASH_LINENO"
  let sources := listed "BASH_SOURCE"
  let names := m.calls.map Calling.name ++ (if m.script.isSome then ["main".toList] else [])
  Session.setStatus 0
  match withoutDashes args with
  | [] =>
    if names.isEmpty then Session.setStatus 1
    else
      let part (texts : List Octets) (i : Nat) : Octets := (texts[i]?).getD "NULL".toList
      Session.out (part lines 0 ++ ' ' :: part sources 1 ++ ['\n'])
  | text :: _ =>
    match if names.isEmpty then some (-1) else narrow? text with
    | none => do
      complain (text ++ ": invalid number".toList)
      usage " [expr]"
    | some n =>
      match n, lines[n.toNat]?, names[n.toNat + 1]?, sources[n.toNat + 1]? with
      | .ofNat _, some line, some name, some source =>
        Session.out (line ++ ' ' :: name ++ ' ' :: source ++ ['\n'])
      | _, _, _, _ => Session.setStatus 1

/-! ### Events -/

def trapLine (d : Dialect) (event : String) (action : Octets) : Octets :=
  let quoted := match d with
    | .standard => Quoting.standard action
    | .extended => Quoting.single action
  let shown := if d == .extended && Signal.isNamed event then "SIG" ++ event
    else Signal.nameIn d event
  "trap -- ".toList ++ quoted ++ ' ' :: shown.toList ++ ['\n']

def trapLines (m : Machine) (wanted : String → Bool) : Octets :=
  let own := (m.traps ++ m.formerTraps).filter fun t => wanted t.1
  (own.mergeSort fun a b => Signal.number a.1 ≤ Signal.number b.1).flatMap fun (event, action) =>
    trapLine m.dialect event action

def trap : Builtin := fun args => do
  let m ← get
  let d := m.dialect
  let usageText := " [-lp] [[arg] signal_spec ...]"
  let o ← options (if d == .standard then "" else "lp") false usageText args
  if o.has 'l' then
    Session.out Signal.table
    Session.setStatus 0
  else if o.operands.isEmpty || o.has 'p' then
    let wanted := o.operands.filterMap (Signal.event? d)
    Session.out (trapLines m fun e => o.operands.isEmpty || wanted.contains e)
    Session.setStatus 0
  else
    let (action, events) : Option Octets × List Octets := match o.operands with
      | [] => (none, [])
      | first :: rest =>
        let resets := match d with
          | .standard => rest.isEmpty || (Signal.event? d first).isSome && first.all Char.isDigit
          | .extended => (rest.isEmpty && (Signal.event? d first).isSome) ||
            (!first.isEmpty && first.all Char.isDigit && (Signal.event? d first).isSome)
        if resets then (none, first :: rest)
        else (if first == ['-'] then none else some first, rest)
    if events.isEmpty then usage usageText
    modify fun m => { m with formerTraps := [] }
    Session.setStatus 0
    for word in events do
      match Signal.event? d word with
      | none =>
        match d with
        | .standard => do
          Session.err ("trap: ".toList ++ word ++ ": bad trap\n".toList)
          Session.setStatus 1
          return
        | .extended => do
          complain (word ++ ": invalid signal specification".toList)
          Session.setStatus 1
      | some event =>
        modify fun m =>
          let others := m.traps.filter (·.1 != event)
          { m with traps := match action with
            | some a => (event, a) :: others
            | none => others }

end MediaPipeline.Shell.Builtin
