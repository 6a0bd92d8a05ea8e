import MediaPipeline.Process.Launch
import MediaPipeline.Process.Limit
import MediaPipeline.Program.Invocation
import MediaPipeline.Shell.Bindings
import MediaPipeline.Shell.Complaint
import MediaPipeline.Shell.Proposing

/-!
The state of a running shell, and the ways in which a command ends other than by going on to the
next one.
-/

namespace MediaPipeline.Shell

structure Writing where
  time : Nat
  process : Nat
  text : Octets

def Writing.inOrder (pieces : Array Writing) : List Writing :=
  pieces.toList.mergeSort fun a b => a.time ≤ b.time

def Writing.join (pieces : Array Writing) : Octets :=
  (Writing.inOrder pieces).flatMap Writing.text

/-- How much may be written to a text that grows. A write that begins behind the first bound ends its
process, and so does one that would end behind the second. -/
structure WriteBound where
  loose : Nat
  strict : Option Nat := none

def WriteBound.free : WriteBound :=
  { loose := 16777216 }

inductive Stream where
  /-- A text that is read piece by piece. At some places, given by how much is left there, one has to
  wait for more of it. -/
  | source (rest : Octets) (waits : List Nat := [])
  | sink (pieces : Array Writing) (length : Nat) (bound : WriteBound := .free)
  | document (place : Place) (position : Nat) (append : Bool)
  | directory
  | channel (place : Place)
  | device (d : Device)

structure OpenFile where
  stream : Stream
  reads : Bool
  writes : Bool

def OpenFile.grow (piece : Writing) : OpenFile → OpenFile
  | ⟨.sink pieces length bound, reads, writes⟩ =>
    ⟨.sink (pieces.push piece) (length + piece.text.length) bound, reads, writes⟩
  | o => o

def OpenFile.grown (o : OpenFile) : Octets :=
  match o.stream with
  | .sink pieces _ _ => Writing.join pieces
  | _ => []

inductive StreamFault where
  | badDescriptor
  | isDirectory
  | noSpace
  | unread
  deriving DecidableEq

def StreamFault.message : StreamFault → String
  | badDescriptor => "Bad file descriptor"
  | isDirectory => "Is a directory"
  | noSpace => "No space left on device"
  | unread => "Broken pipe"

structure Calling where
  name : Octets
  line : Nat
  source : Octets
  isFile : Bool := false

structure Frame where
  saved : List (Octets × Option Binding) := []
  flags : Option (List Char) := none

/-- A command that runs beside the shell. Its effects are known at once, but they count from the time
on at which they come about. -/
structure Job where
  number : Nat
  process : Nat
  last : Nat
  body : Command
  ends : Nat
  status : Nat
  signal : Option Nat
  awaited : Bool := false
  told : Bool := false

/-- A script that is to read what is written to an open file, once all of it is there. -/
structure Receiver where
  stream : Nat
  descriptors : List (Nat × Nat)
  script : Command

structure Waiting where
  process : Nat
  body : Command
  descriptors : List (Nat × Nat)
  bindings : Bindings
  parameters : List Octets

structure Delivery where
  time : Nat
  process : Nat
  event : String

structure Remembered where
  name : Octets
  path : Octets
  hits : Nat

structure Machine where
  dialect : Dialect
  name : Octets
  parameters : List Octets := []
  bindings : Bindings := []
  functions : List (Octets × Command) := []
  functionSources : List (Octets × Octets) := []
  exportedFunctions : List Octets := []
  tracedFunctions : List Octets := []
  protectedFunctions : List Octets := []
  aliases : List (Octets × Octets) := []
  files : Files
  directory : Octets := Files.pathOf files.directory
  streams : Array OpenFile := #[]
  descriptors : List (Nat × Nat) := []
  heres : Array HereText := #[]
  status : Nat := 0
  substituted : Nat := 0
  stages : List Nat := []
  line : Nat := 1
  script : Option Octets := none
  argument : Option Octets := none
  reading : Octets := []
  /-- How many scripts run inside each other, as the trace shows it. -/
  level : Nat := 1
  running : Option Octets := none
  lastWord : Octets := []
  flags : List Char := []
  options : List String := []
  tested : Bool := false
  loops : Nat := 0
  /-- What the function calls around what runs give back, the innermost first. -/
  frames : List Frame := []
  calls : List Calling := []
  current : Command := .nothing
  events : List String := []
  announced : Bool := false
  sourcing : Bool := false
  traps : List (String × Octets) := []
  formerTraps : List (String × Octets) := []
  mask : Nat := 0o022
  optionOffset : Nat := 0
  remembered : List Remembered := []
  disabled : List String := []
  stack : List Octets := []
  unwritten : Option StreamFault := none
  depth : Nat := 0
  drawn : Nat := 0
  counted : Int := 0
  clock : Nat := 0
  started : Nat := 1000
  process : Nat := 1000
  own : Nat := 1000
  above : Nat := 999
  jobs : List Job := []
  receivers : List Receiver := []
  /-- What runs stands beside a shell, so that it may wait for what others write. -/
  patient : Bool := false
  waiting : List Waiting := []
  channels : List Nat := []
  beside : Option Nat := none
  killed : Option Nat := none
  signals : List Delivery := []
  deadline : Option Nat := none
  /-- What runs is the last thing that the process does, so that a program may take its place. -/
  final : Bool := false
  replaces : Bool := false
  /-- What runs is a command of the shell's own script, not of a shell inside it. -/
  inScript : Bool := true
  isStage : Bool := false
  substitutes : Bool := false
  given : List Octets := []
  limits : List Limit := Limit.all
  requests : List (Octets × Proposing) := []

inductive Flow where
  | exit (status : Nat)
  /-- Ends the shell, unless a command that is not special holds it back. -/
  | fault (status : Nat)
  | leave (levels : Nat)
  /-- Goes on with the next round of a loop, after leaving the loops inside it. -/
  | again (levels : Nat)
  | back (status : Nat)
  | valueless
  | broken
  | killed (signal : Nat)
  | expired (time : Nat)
  | stuck
  | exhausted

abbrev Session := ExceptT Flow (StateM Machine)

abbrev Runner := Command → Session Unit

namespace Machine

def isStandard (m : Machine) : Bool :=
  m.dialect == .standard

def hasFlag (m : Machine) (flag : Char) : Bool :=
  m.flags.contains flag

def setFlag (m : Machine) (on : Bool) (flag : Char) : Machine :=
  if on then { m with flags := if m.flags.contains flag then m.flags else flag :: m.flags }
  else { m with flags := m.flags.filter (· != flag) }

def hasOption (m : Machine) (name : String) : Bool :=
  m.options.contains name

def text? (m : Machine) (name : String) : Option Octets :=
  m.bindings.text? name.toList

def action? (m : Machine) (event : String) : Option Octets :=
  if m.events.contains event then none
  else (m.traps.lookup event).filter fun action => !action.isEmpty

/-- Whether a function, or a shell inside this one, keeps what is left for an event. `traced` says
that it is marked to do so. -/
def keepsEvent (m : Machine) (traced : Bool) (event : String) : Bool :=
  match event with
  | "DEBUG" | "RETURN" => traced || m.hasFlag 'T'
  | "ERR" => traced || m.hasFlag 'E'
  | _ => true

def inFunction (m : Machine) : Bool :=
  m.calls.any fun c => !c.isFile

def source (m : Machine) : Octets :=
  (m.calls.head?.map Calling.source).getD m.name

def remembered? (m : Machine) (name : Octets) : Option Remembered :=
  m.remembered.find? fun r => r.name == name

/-- How much is made of a text that never ends. Where only a part of what is written may be read, that
is all that is needed. -/
def reach (m : Machine) : Nat :=
  match ((m.descriptors.lookup 1).bind fun i => m.streams[i]?).map OpenFile.stream with
  | some (.sink _ _ bound) => min Invocation.farReach (bound.strict.elim bound.loose (· + 1))
  | _ => Invocation.farReach

def separators (m : Machine) : Octets :=
  (m.text? "IFS").getD [' ', '\t', '\n']

end Machine

namespace Session

def observe {α : Type} (body : Session α) : Session (Except Flow α) :=
  tryCatch (Except.ok <$> body) fun f => pure (.error f)

def setStatus (status : Nat) : Session Unit :=
  modify fun m => { m with status }

/-! ### Reading and writing -/

def overwritten (content : Octets) (position : Nat) (text : Octets) : Octets :=
  content.take position ++ List.replicate (position - content.length) '\x00' ++ text ++
    content.drop (position + text.length)

def put (descriptor : Nat) (text : Octets) : Session (Option StreamFault) := do
  let m ← get
  match m.descriptors.lookup descriptor with
  | none => pure (some .badDescriptor)
  | some i =>
    match m.streams[i]? with
    | none => pure (some .badDescriptor)
    | some o =>
      if !o.writes then pure (some .badDescriptor)
      else match o.stream with
        | .sink _ length bound =>
          let grow (text : Octets) : Session Unit := do
            let piece : Writing := ⟨m.clock, m.own, text⟩
            modify fun m => { m with streams := m.streams.modify i fun o => o.grow piece }
          let breaks : Session (Option StreamFault) :=
            if m.traps.lookup "PIPE" == some [] then pure (some .unread) else throw .broken
          if text.isEmpty then pure none
          else if length > bound.loose then breaks
          else match bound.strict with
            | some most =>
              if length + text.length ≤ most then do
                grow text
                pure none
              else do
                grow (text.take (most - length))
                breaks
            | none => do
              grow text
              pure none
        | .document place position append =>
          match m.files.at? place with
          | some (.document d) => do
            let position := if append then d.content.length else position
            let files := m.files.write place (overwritten d.content position text) 0
            let after := .document place (position + text.length) append
            set { m with files,
                         streams := m.streams.modify i fun o => { o with stream := after } }
            pure none
          | _ => pure none
        | .channel place => do
          set { m with files := m.files.write place text 0 }
          pure none
        | .device .full => pure (if text.isEmpty then none else some .noSpace)
        | _ => pure none

def out (text : Octets) : Session Unit := do
  if text.isEmpty then return
  match ← put 1 text with
  | none => pure ()
  | some f => modify fun m => { m with unwritten := some f }

def err (text : Octets) : Session Unit := do
  let _ ← put 2 text

/-- What a stream has left to read. A device that never ends gives as much as is asked for. -/
def available (m : Machine) (limit : Nat) (o : OpenFile) : Except StreamFault Octets :=
  if !o.reads then .error .badDescriptor
  else match o.stream with
    | .source rest _ => .ok rest
    | .document place position _ =>
      match m.files.at? place with
      | some (.document d) => .ok (d.content.drop position)
      | _ => .ok []
    | .directory => .error .isDirectory
    | .channel place =>
      match m.files.at? place with
      | some (.device (.pipe held)) => .ok held
      | _ => .ok []
    | .device .zeros | .device .full => .ok (List.replicate limit '\x00')
    | .device .noise => .ok (Files.noise limit)
    | _ => .ok []

def peekAll (descriptor : Nat) : Session (Except StreamFault Octets) := do
  let m ← get
  match (m.descriptors.lookup descriptor).bind fun i => m.streams[i]? with
  | none => pure (.error .badDescriptor)
  | some o => pure (available m m.reach o)

def changePipe (place : Place) (change : Octets → Octets) (m : Machine) : Machine :=
  match m.files.at? place with
  | some (.device (.pipe held)) =>
    { m with files := m.files.put place (.device (.pipe (change held))) }
  | _ => m

def pipeAt? (m : Machine) (descriptor : Nat) : Option Place :=
  match ((m.descriptors.lookup descriptor).bind fun i => m.streams[i]?).map OpenFile.stream with
  | some (.channel place) => some place
  | _ => none

def consume (descriptor count : Nat) : Session Unit :=
  modify fun m =>
    match m.descriptors.lookup descriptor, pipeAt? m descriptor with
    | none, _ => m
    | _, some place => changePipe place (List.drop count) m
    | some i, none =>
      { m with streams := m.streams.modify i fun o =>
          match o.stream with
          | .source rest waits => { o with stream := .source (rest.drop count) waits }
          | .document place position append =>
            { o with stream := .document place (position + count) append }
          | _ => o }

def putBack (descriptor : Nat) (text : Octets) : Session Unit :=
  modify fun m =>
    match m.descriptors.lookup descriptor, pipeAt? m descriptor with
    | none, _ => m
    | _, some place => changePipe place (text ++ ·) m
    | some i, none =>
      { m with streams := m.streams.modify i fun o =>
          match o.stream with
          | .source rest waits => { o with stream := .source (text ++ rest) waits }
          | .document place position append =>
            { o with stream := .document place (position - text.length) append }
          | _ => o }

/-- Steps over what a program has used of a descriptor that is no plain file. As it reads in blocks, it
may have taken more than that, but it does not wait for more. -/
def consumeBlocks (descriptor count block : Nat) : Session Unit := do
  let m ← get
  match ((m.descriptors.lookup descriptor).bind fun i => m.streams[i]?).map OpenFile.stream with
  | some (.source rest waits) =>
    let stops := (waits.filter fun r => r + count ≤ rest.length).map fun r => rest.length - r
    let most := (count + block - 1) / block * block
    consume descriptor (stops.foldl min most)
  | some (.document ..) | some (.channel _) => consume descriptor count
  | _ => pure ()

def isPlainFile (descriptor : Nat) : Session Bool := do
  let m ← get
  match (m.descriptors.lookup descriptor).bind fun i => m.streams[i]? with
  | some ⟨.document .., _, _⟩ => pure true
  | _ => pure false

def readAll (descriptor : Nat) : Session (Except StreamFault Octets) := do
  let text ← peekAll descriptor
  match text with
  | .ok t => consume descriptor t.length
  | .error _ => pure ()
  pure text

def openFile (o : OpenFile) : Session Nat :=
  modifyGet fun m => (m.streams.size, { m with streams := m.streams.push o })

def openText (text : Octets) (waits : List Nat := []) : Session Nat :=
  openFile ⟨.source text waits, true, false⟩

def setDescriptor (descriptor : Nat) (file : Option Nat) : Session Unit :=
  modify fun m =>
    let others := m.descriptors.filter (·.1 != descriptor)
    { m with descriptors := match file with
      | some i => (descriptor, i) :: others
      | none => others }

/-- Runs a step with other descriptors, and puts the old ones back. -/
def keepingDescriptors {α : Type} (body : Session α) : Session α := do
  let before := (← get).descriptors
  tryFinally body (modify fun m => { m with descriptors := before })

def collectPieces {α : Type} (bound : WriteBound) (body : Session α) :
    Session (α × List Writing) := do
  let index ← openFile ⟨.sink #[] 0 bound, false, true⟩
  let result ← keepingDescriptors do
    setDescriptor 1 (some index)
    body
  let m ← get
  let (pieces, last) : List Writing × Nat := match m.streams[index]? with
    | some ⟨.sink pieces _ _, _, _⟩ =>
      (Writing.inOrder pieces, pieces.foldl (fun n p => max n p.time) m.clock)
    | _ => ([], m.clock)
  set { m with streams := m.streams.modify index fun o => { o with stream := .sink #[] 0 },
               clock := last }
  pure (result, pieces)

def collect {α : Type} (body : Session α) : Session (α × Octets) := do
  let (result, pieces) ← collectPieces .free body
  pure (result, pieces.flatMap Writing.text)

def pass (microseconds : Nat) : Session Unit := do
  let m ← get
  match m.deadline with
  | some time =>
    if time ≤ m.clock + microseconds then
      set { m with clock := max m.clock time }
      throw (.expired time)
    else set { m with clock := m.clock + microseconds }
  | none => set { m with clock := m.clock + microseconds }

/-! ### Messages -/

def messageFront : Session Octets := do
  let m ← get
  let line := Octets.ofNat m.line
  pure (match m.dialect with
    | .standard =>
      m.name ++ ": ".toList ++ line ++ ": ".toList ++
        (match m.running with
          | some command => command ++ ": ".toList
          | none => [])
    | .extended => m.source ++ ": line ".toList ++ line ++ ": ".toList)

def complain (text : Octets) : Session Unit := do
  err ((← messageFront) ++ text ++ ['\n'])

def abort {α : Type} (text : Octets) : Session α := do
  complain text
  throw (.fault (if (← get).isStandard then 2 else 1))

/-- Ends the shell in the extended dialect, because a parameter has no value. -/
def endValueless {α : Type} (text : Octets) : Session α := do
  complain text
  throw (if (← get).hasFlag 'e' then .exit 1 else .valueless)

/-! ### Control -/

/-- Runs a step whose outcome is looked at, so that a failure does not end the shell. -/
def looking {α : Type} (body : Session α) : Session α := do
  let before := (← get).tested
  modify fun m => { m with tested := true }
  tryFinally body (modify fun m => { m with tested := before })

def rounds : Nat → Nat → (Nat → Session (Except Nat Nat)) → Session Unit
  | 0, _, _ => throw .exhausted
  | bound + 1, status, round => do
    match ← round status with
    | .ok status => rounds bound status round
    | .error status => setStatus status

def roundBound : Nat := 1000000

/-- Says that a variable may not be set, and ends the shell. -/
def refuseProtected {α : Type} (name : Octets) : Session α := do
  if (← get).isStandard then abort (name ++ ": is read only".toList)
  else abort (name ++ ": readonly variable".toList)

end Session

end MediaPipeline.Shell
