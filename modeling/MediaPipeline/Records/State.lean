import MediaPipeline.Records.Parts
import MediaPipeline.Records.Table
import MediaPipeline.Shell.Redirecting
import MediaPipeline.Shell.Starting
import MediaPipeline.Random.Drawing

/-!
A script at work: its variables, the record and its fields, and what it reads and writes.
-/

namespace MediaPipeline.Records

open Shell (Session Starter)

inductive Cell where
  | fresh
  | value (v : Value)
  | table (t : Table)
  /-- A parameter that stands for another variable, as long as it is used as a table. -/
  | link (n : Nat)
  deriving Inhabited

/-- A text that records are taken from: a file, or what a command writes. -/
structure Inlet where
  origin : Origin
  name : Octets
  rest : Octets
  status : Nat := 0

/-- A file or a command that output is sent to. What is written waits until it is flushed; a command
starts when the outlet is closed. -/
structure Outlet where
  destination : Destination
  name : Octets
  stream : Option Nat
  waiting : List Octets := []

structure Work where
  script : Script
  /-- The shared variables, and the parameters of the functions that run. -/
  cells : Array Cell
  base : Nat := 0
  record : Octets := []
  fields : Array Value := #[]
  isSplit : Bool := true
  input : Option Octets := none
  /-- All of the input that is gone through, where it is the standard input. -/
  whole : Option Octets := none
  operand : Nat := 1
  opened : Bool := false
  inlets : List Inlet := []
  /-- What waits to be written to the standard output, the last first. -/
  waiting : List Octets := []
  waitingSize : Nat := 0
  /-- Nothing waits longer than for the statement. -/
  unbuffered : Bool := false
  /-- The files and commands that output is sent to, the one used last in front. -/
  outlets : List Outlet := []
  /-- Which rules are between their first and their last record. -/
  inside : Array Bool := #[]
  status : Nat := 0
  seed : Value := .number 0
  sums : List Nat := Drawing.start 1

inductive Leave where
  | next
  | nextFile
  | exit
  | quit
  | give (v : Value)
  | leave
  | again

abbrev Working := ExceptT Leave (StateT Work Session)

structure Surroundings where
  start : Starter
  invocation : Invocation

namespace Work

def root (w : Work) : Nat → Nat → Nat
  | 0, i => i
  | fuel + 1, i =>
    match w.cells[i]? with
    | some (.link j) => root w fuel j
    | _ => i

def place (w : Work) : Name → Nat
  | .shared n => n
  | .own n => w.base + n

def shared (w : Work) (name : String) : Value :=
  match w.cells[standing name]? with
  | some (.value v) => v
  | _ => .unset

def setShared (w : Work) (name : String) (v : Value) : Work :=
  { w with cells := w.cells.set! (standing name) (.value v) }

def conversion (w : Work) (x : Float) : Octets :=
  let text (v : Value) : Octets := match v with
    | .text t | .given t => t
    | _ => "%.6g".toList
  formattedNumber (text (w.shared "CONVFMT")) x

def printing (w : Work) (x : Float) : Octets :=
  formattedNumber ((w.shared "OFMT").toText w.conversion) x

def textOf (w : Work) (v : Value) : Octets :=
  v.toText w.conversion

def sharedText (w : Work) (name : String) : Octets :=
  w.textOf (w.shared name)

def rejoin (w : Work) : Work :=
  let parts := w.fields.toList.map w.textOf
  { w with record := (parts.intersperse (w.sharedText "OFS")).flatten }

end Work

namespace Working

def work : Working Work :=
  getThe Work

def change (f : Work → Work) : Working Unit :=
  modifyThe Work f

def shell {α : Type} (body : Session α) : Working α :=
  fun w => (fun a => (.ok a, w)) <$> body

def textOf (v : Value) : Working Octets :=
  return (← work).textOf v

/-! ### Output -/

def putInto (stream : Nat) (text : Octets) : Working Unit :=
  shell (Session.keepingDescriptors do
    Session.setDescriptor 1 (some stream)
    let _ ← Session.put 1 text)

/-- Writes out what waits for the standard output. -/
def flush : Working Unit := do
  let w ← work
  if !w.waiting.isEmpty then
    set { w with waiting := [], waitingSize := 0 }
    shell (Session.out w.waiting.reverse.flatten)

def waitingBound : Nat := 4096

def out (text : Octets) : Working Unit := do
  change fun w => { w with waiting := text :: w.waiting, waitingSize := w.waitingSize + text.length }
  let w ← work
  if w.unbuffered || w.waitingSize ≥ waitingBound then flush

def err (text : Octets) : Working Unit :=
  shell (Session.err text)

def quit {α : Type} (s : Surroundings) (text : Octets) : Working α := do
  err (s.invocation.complaint text)
  change fun w => { w with status := 2 }
  throw .quit

/-- Ends the script with a complaint about what it does. -/
def fail {α : Type} (s : Surroundings) (text : Octets) : Working α := do
  let w ← work
  let number (name : String) : Octets := formattedNumber "%g".toList (w.shared name).toNumber
  quit s ("run time error: ".toList ++ text ++ "\n\tFILENAME=\"".toList ++ w.sharedText "FILENAME" ++
    "\" FNR=".toList ++ number "FNR" ++ " NR=".toList ++ number "NR")

/-! ### Commands -/

def statusOf (status : Nat) : Session Nat := do
  let m ← get
  set { m with killed := none }
  pure (match m.killed with
    | some signal => 256 + signal
    | none => status)

def runCommand (s : Surroundings) (shell command : Octets) : Session Nat := do
  match ← s.start s.invocation.environment shell ["-c".toList, command] with
  | .ok status => statusOf status
  | .error _ => pure 127

def shellPath : Octets :=
  "/bin/sh".toList

def runOn (s : Surroundings) (text command : Octets) : Session Nat :=
  Session.keepingDescriptors do
    Session.setDescriptor 0 (some (← Session.openText text))
    runCommand s shellPath command

/-! ### Files and commands that output is sent to -/

def flushOutlet (o : Outlet) : Working Outlet := do
  match o.stream with
  | none => pure o
  | some i => do
    if !o.waiting.isEmpty then putInto i o.waiting.reverse.flatten
    pure { o with waiting := [] }

def flushAll : Working Unit := do
  flush
  let outlets ← (← work).outlets.mapM flushOutlet
  change fun w => { w with outlets }

def closeOutlet (s : Surroundings) (o : Outlet) : Working Nat := do
  match o.stream with
  | some _ => do
    let _ ← flushOutlet o
    pure 0
  | none => shell (runOn s o.waiting.reverse.flatten o.name)

def send (s : Surroundings) (d : Destination) (name text : Octets) : Working Unit := do
  let path := String.ofList name
  if d != .command && (path == "/dev/stdout" || path == "-") then out text
  else if d != .command && path == "/dev/stderr" then err text
  else
    let w ← work
    let isIt (o : Outlet) : Bool := o.name == name && (o.destination == .command) == (d == .command)
    let o : Outlet ← match w.outlets.find? isIt with
      | some o => pure o
      | none =>
        if d = .command then
          flush
          pure { destination := d, name, stream := none }
        else
          match ← shell (Session.openPath (if d = .append then .append else .write true) name) with
          | .ok i => pure { destination := d, name, stream := some i }
          | .error f =>
            let why := match f with
              | .path f => f.message
              | .directory => "Is a directory"
              | .present => "File exists"
            quit s ("cannot open \"".toList ++ name ++ "\" for output (".toList ++ why.toList ++ [')'])
    let o := { o with waiting := text :: o.waiting }
    let size := o.waiting.foldl (fun n text => n + text.length) 0
    let o ← if size ≥ waitingBound || w.unbuffered then flushOutlet o else pure o
    change fun w => { w with outlets := o :: w.outlets.filter fun p => !isIt p }

/-- Closes all that output is sent to, and then writes out what waits for the standard output. -/
def finish (s : Surroundings) : Working Unit := do
  for o in (← work).outlets do
    let _ ← closeOutlet s o
  change fun w => { w with outlets := [] }
  flush

/-! ### Fields -/

def separator (s : Surroundings) : Working Separator := do
  match Separator.ofText ((← work).sharedText "FS") with
  | .ok sep => pure sep
  | .error text => fail s text

/-- Takes the record apart, where that has not been done. -/
def splitRecord (s : Surroundings) : Working Unit := do
  let w ← work
  if !w.isSplit then
    let sep ← separator s
    let lines := (w.sharedText "RS").isEmpty
    set { w with fields := ((sep.split lines w.record).map Value.given).toArray, isSplit := true }

def setRecord (text : Octets) : Working Unit :=
  change fun w => { w with record := text, isSplit := false }

def fieldNumber (s : Surroundings) (v : Value) : Working Nat := do
  let x := v.toNumber
  let n := Number.toInt x
  if n < 0 then fail s ("negative field index $".toList ++ Octets.ofInt n)
  else pure n.toNat

def fieldBound : Nat := 100000

def field (s : Surroundings) (n : Nat) : Working Value := do
  if n = 0 then return .given (← work).record
  splitRecord s
  return ((← work).fields[n - 1]?).getD (.text [])

def setFieldCount (s : Surroundings) (n : Int) : Working Unit := do
  if n < 0 then fail s "negative value assigned to NF".toList
  splitRecord s
  change fun w =>
    let n := min n.toNat fieldBound
    let kept := w.fields.extract 0 n
    { w with fields := kept ++ Array.replicate (n - kept.size) (Value.text []) }.rejoin

def setField (s : Surroundings) (n : Nat) (v : Value) : Working Unit := do
  if n = 0 then setRecord (← textOf v)
  else
    splitRecord s
    if n > fieldBound then fail s "program limit exceeded: maximum number of fields".toList
    change fun w =>
      let fields := w.fields ++ Array.replicate (n - w.fields.size) (Value.text [])
      { w with fields := fields.set! (n - 1) v }.rejoin

/-! ### Variables -/

def get (s : Surroundings) (v : Name) : Working Value := do
  if v = .shared (standing "NF") then
    splitRecord s
    return .ofNat (← work).fields.size
  let w ← work
  pure (match w.cells[w.place v]? with
    | some (.value v) => v
    | _ => .unset)

def assign (s : Surroundings) (v : Name) (value : Value) : Working Unit := do
  if v = .shared (standing "NF") then setFieldCount s (Number.toInt value.toNumber)
  else
    if v = .shared (standing "FS") then splitRecord s
    change fun w => { w with cells := w.cells.set! (w.place v) (.value value) }

/-- Uses a table. The cell is emptied meanwhile, so that the table has no other holder. -/
def onTable {α : Type} (a : Name) (use : Table → α × Table) : Working α :=
  modifyGetThe Work fun w =>
    let i := w.root w.cells.size (w.place a)
    let t := match w.cells[i]? with
      | some (.table t) => t
      | _ => {}
    let w := { w with cells := w.cells.set! i .fresh }
    let (b, t) := use t
    (b, { w with cells := w.cells.set! i (.table t) })

def keyOf (values : List Value) : Working Key := do
  let w ← work
  pure (match values with
    | [.number x] =>
      match Number.short? x with
      | some n => .number n
      | none => .text (w.textOf (.number x))
    | vs => .text (((vs.map w.textOf).intersperse (w.sharedText "SUBSEP")).flatten))

/-! ### Records -/

def ending (s : Surroundings) : Working Ending := do
  match Ending.ofText ((← work).sharedText "RS") with
  | .ok e => pure e
  | .error text => fail s text

def assignment? (text : Octets) : Option (Octets × Octets) :=
  let name := text.takeWhile Reader.isNameChar
  if name.head?.any Reader.isNameStart && text[name.length]? == some '=' then
    some (name, text.drop (name.length + 1))
  else none

def assignOperand (s : Surroundings) (name text : Octets) : Working Unit := do
  match (← work).script.names.idxOf? name with
  | some n => assign s (.shared n) (.given (Reader.unescaped (text.length + 1) text))
  | none => pure ()

def contentOf (path : Octets) (i : Invocation) : Session (Except String Octets) := do
  if path == ['-'] || path == "/dev/stdin".toList then
    return (← Session.readAll 0).mapError Shell.StreamFault.message
  let m ← getThe Shell.Machine
  pure ({ i with files := m.files }.content path)

/-- Opens the operand that comes next, or the standard input if there is none, and says whether
anything has been opened. -/
def openNext (s : Surroundings) : Nat → Working Bool
  | 0 => pure false
  | fuel + 1 => do
    let w ← work
    let begin (name : Octets) (text : Octets) : Working Bool := do
      change fun w =>
        let whole := if name == ['-'] then some text else none
        let w : Work := { w with input := some text, whole, opened := true }
        (Work.setShared w "FNR" .zero).setShared "FILENAME" (.text name)
      pure true
    if Number.toInt (w.shared "ARGC").toNumber ≤ w.operand then
      if w.opened then pure false
      else
        let text ← shell (contentOf ['-'] s.invocation)
        match text with
        | .ok text => begin ['-'] text
        | .error e => quit s ("read error (".toList ++ e.toList ++ [')'])
    else
      change fun w => { w with operand := w.operand + 1 }
      let v ← onTable (.shared (standing "ARGV")) fun t => t.at? (.number w.operand) false id
      let name ← textOf (v.getD .unset)
      if name.isEmpty then openNext s fuel
      else match assignment? name with
        | some (n, text) => do
          assignOperand s n text
          openNext s fuel
        | none => do
          match ← shell (contentOf name s.invocation) with
          | .ok text => begin name text
          | .error "Is a directory" => quit s "read error (Is a directory)".toList
          | .error e =>
            quit s ("cannot open ".toList ++ name ++ " (".toList ++ e.toList ++ [')'])

def takeRecord (s : Surroundings) : Nat → Working (Option Octets)
  | 0 => pure none
  | fuel + 1 => do
    match (← work).input with
    | none => do
      let count := Number.toInt ((← work).shared "ARGC").toNumber
      if ← openNext s (count.toNat + 2) then takeRecord s fuel else pure none
    | some text => do
      match (← ending s).take? text with
      | none => do
        change fun w => { w with input := none }
        takeRecord s fuel
      | some (r, rest) => do
        change fun w =>
          let next (name : String) : Value := .number ((w.shared name).toNumber + 1)
          (w.setShared "NR" (next "NR")).setShared "FNR" (next "FNR")
        change fun w => { w with input := some rest }
        pure (some r)

def nextRecord (s : Surroundings) : Working (Option Octets) := do
  takeRecord s (2 * (Number.toInt ((← work).shared "ARGC").toNumber).toNat + 4)

/-- The text of a file or a command that records are taken from; none if it does not open. -/
def inletOf (s : Surroundings) (origin : Origin) (name : Octets) : Working (Option Inlet) := do
  let w ← work
  match w.inlets.find? fun i => i.origin == origin && i.name == name with
  | some i => pure (some i)
  | none =>
    match origin with
    | .command => do
      flush
      let (status, text) ← shell (Session.collect (runCommand s shellPath name))
      pure (some { origin, name, rest := text, status })
    | _ => do
      match ← shell (contentOf name s.invocation) with
      | .ok text => pure (some { origin, name, rest := text })
      | .error "Is a directory" => quit s "read error (Is a directory)".toList
      | .error _ => pure none

def takeFrom (s : Surroundings) (origin : Origin) (name : Octets) :
    Working (Option (Option Octets)) := do
  match ← inletOf s origin name with
  | none => pure none
  | some i => do
    let found := (← ending s).take? i.rest
    let rest := match found with
      | some (_, rest) => rest
      | none => []
    change fun w =>
      { w with inlets := { i with rest } ::
          w.inlets.filter fun j => !(j.origin == origin && j.name == name) }
    pure (some (found.map Prod.fst))

/-- Closes a file or a command by its name, and gives its status, or none where it is not open. -/
def close (s : Surroundings) (name : Octets) : Working (Option Nat) := do
  let w ← work
  let outlets := w.outlets.filter fun o => o.name == name
  let inlets := w.inlets.filter fun i => i.name == name
  set { w with outlets := w.outlets.filter fun o => o.name != name,
               inlets := w.inlets.filter fun i => i.name != name }
  let mut status := inlets.head?.map Inlet.status
  for o in outlets do
    status := some (← closeOutlet s o)
  pure status

end Working

end MediaPipeline.Records
