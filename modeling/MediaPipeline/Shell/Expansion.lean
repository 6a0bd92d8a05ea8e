import MediaPipeline.Shell.Assignment
import MediaPipeline.Shell.Declaration
import MediaPipeline.Shell.Fields
import MediaPipeline.Shell.Prompt
import MediaPipeline.Shell.Reader
import MediaPipeline.Shell.Signal

/-!
Putting parameters, substitutions and arithmetic into words.
-/

namespace MediaPipeline.Shell

structure Engine where
  run : Runner
  text : Octets → Session Unit

/-! ### Shells inside the shell -/

/-- Runs what the shell has left for its end, and gives the status with which it ends. -/
def runExit (e : Engine) (status : Nat) : Session Nat := do
  let m ← get
  match m.traps.lookup "EXIT" with
  | none | some [] => pure status
  | some action => do
    set { m with traps := m.traps.filter (·.1 != "EXIT"), status, running := none, loops := 0,
                 frames := [], calls := [] }
    match ← Session.observe (e.text action) with
    | .error (.exit n) => pure n
    | .error (.fault n) => pure (if m.isStandard then n else status)
    | .error .exhausted => throw .exhausted
    | _ => pure status

/-- The status with which a step ends a shell, after what is left for its end, and the signal that
ends it, if one does. -/
def finalStatus (e : Engine) (result : Except Flow Unit) : Session (Nat × Option Nat) := do
  match result with
  | .error .exhausted => throw .exhausted
  | .error .stuck => throw .stuck
  | .error (.expired time) => throw (.expired time)
  | .error .broken => pure (141, some 13)
  | .error (.killed signal) => do
    if !(← get).isStandard && signal != 9 then
      let _ ← runExit e (128 + signal)
    pure (128 + signal, some signal)
  | .error .valueless => do
    let m ← get
    return (← runExit e (if m.argument.isSome && m.inScript then 127 else 1), none)
  | .error (.exit n) | .error (.fault n) | .error (.back n) => return ((← runExit e n) % 256, none)
  | _ => return ((← runExit e (← get).status) % 256, none)

/-- What is left of a shell behind a process that has run inside it: what the process has set is
dropped, but what it has read and written stays. -/
def Machine.behind (before after : Machine) : Machine :=
  { before with
    files := { after.files with directory := before.files.directory }
    streams := after.streams, heres := after.heres, drawn := after.drawn, clock := after.clock
    started := after.started, signals := after.signals }

def startTime : Nat := 1000

/-- How many microseconds it takes to notice that a process has ended. -/
def noticeTime : Nat := 500

def Session.changeJob (process : Nat) (change : Job → Job) : Session Unit :=
  modify fun m => { m with jobs := m.jobs.map fun j =>
    if j.process == process then change j else j }

/-- Runs the script that reads what has been written to an open file. -/
def Receiver.perform (e : Engine) (r : Receiver) : Session Unit := do
  let m ← get
  let text := ((m.streams[r.stream]?).map OpenFile.grown).getD []
  let input ← Session.openText text
  modify fun m => { m with descriptors := (0, input) :: r.descriptors.filter (·.1 != 0) }
  e.run r.script

/-- Runs a step in a copy of the shell, and gives its status. -/
def isolated (e : Engine) (body : Session Unit) : Session Nat := do
  let m ← get
  let before := { m with streams := #[], heres := #[] }
  modify fun m =>
    { m with
      traps := m.traps.filter fun t => t.2.isEmpty ||
        (!m.isStandard && ["DEBUG", "RETURN", "ERR"].contains t.1 && m.keepsEvent false t.1)
      depth := m.depth + 1, unwritten := none
      formerTraps := if m.isStandard then [] else m.formerTraps.filter (fun t =>
        (m.traps.lookup t.1).isNone) ++ m.traps.filter (!·.2.isEmpty)
      started := m.started + 1, own := m.started + 1, above := m.own, final := true
      isStage := false, inScript := false, receivers := [], waiting := [], channels := []
      jobs := if m.isStandard then [] else m.jobs }
  let result ← Session.observe do
    Session.pass startTime
    body
  let (status, killed) ← finalStatus e result
  let due := (← get).receivers
  modify fun m => { m with receivers := [] }
  for r in due do
    let _ ← Session.observe (r.perform e)
  modify fun after => { before.behind after with clock := after.clock + noticeTime, killed }
  pure status

def Machine.nextJob (m : Machine) : Nat × List Job :=
  let isDone (j : Job) : Bool := j.awaited && j.ends ≤ m.clock
  let jobs := if m.isStandard then m.jobs.filter fun j => !j.told else m.jobs
  let numbers := (jobs.filter fun j => !(m.isStandard && isDone j)).map Job.number
  if m.isStandard then
    let number := ((List.range (numbers.length + 1)).find? fun n => !numbers.contains (n + 1)).getD 0 + 1
    (number, jobs.filter fun j => j.number != number)
  else (((jobs.filter fun j => !j.told).map Job.number).foldl max 0 + 1, jobs)

def never : Nat := Nat.pow 2 60

/-- Runs a step beside the shell, and remembers it as one of its jobs. One that has to wait for what
others write starts again later. -/
def Session.beside (e : Engine) (body : Command) (step : Session Unit) : Session Unit := do
  let before ← get
  let (number, jobs) := before.nextJob
  match ← Session.observe (isolated e do Session.pass 1; step) with
  | .ok status => do
    let after ← get
    let job : Job := {
      number, process := before.started + 1, last := after.started, body
      ends := after.clock - noticeTime, status, signal := after.killed }
    set { after with clock := before.clock + 2, jobs := job :: jobs, beside := some job.process,
                     killed := none, status := 0 }
  | .error .stuck => do
    let process := before.started + 1
    let job : Job := {
      number, process, last := process, body, ends := never, status := 0, signal := none }
    let waiting : Waiting := {
      process, body, descriptors := before.descriptors, bindings := before.bindings
      parameters := before.parameters }
    set { before with
      clock := before.clock + 2, started := process, jobs := job :: jobs, beside := some process
      waiting := before.waiting ++ [waiting], killed := none, status := 0 }
  | .error flow => throw flow

/-- Whether there is something to read in a pipe to which nobody writes any more. -/
def Machine.hasFullPipe (m : Machine) : Bool :=
  m.files.entries.any fun (place, e) => match e with
    | .device (.pipe held) =>
      !held.isEmpty && !m.descriptors.any fun (n, _) => Session.pipeAt? m n == some place
    | _ => false

def Session.resume (e : Engine) (w : Waiting) : Session Unit := do
  let before ← get
  let step : Session Unit := do
    modify fun m => { m with
      descriptors := w.descriptors, bindings := w.bindings, parameters := w.parameters
      patient := true }
    Session.setDescriptor 0 (some (← Session.openFile ⟨.device .null, true, false⟩))
    e.run w.body
  match ← Session.observe (isolated e do Session.pass 1; step) with
  | .ok status => do
    let after ← get
    set { after with
      clock := before.clock + 2, killed := none, status := before.status
      waiting := after.waiting.filter fun o => o.process != w.process }
    Session.changeJob w.process fun j =>
      { j with ends := after.clock - noticeTime, status, signal := after.killed }
  | .error .stuck => set before
  | .error flow => throw flow

def Session.feedWaiting (e : Engine) : Session Unit := do
  for w in (← get).waiting do
    if (← get).hasFullPipe then Session.resume e w

/-- Ends a job with a signal: nothing comes about that would have done so later. -/
def Session.endJob (j : Job) (signal : Nat) : Session Unit := do
  let m ← get
  let isLate (w : Writing) : Bool :=
    j.process ≤ w.process && w.process ≤ j.last && m.clock < w.time
  let streams := m.streams.map fun o => match o.stream with
    | .sink pieces _ bound =>
      let kept := pieces.filter fun w => !isLate w
      { o with stream := .sink kept ((kept.map fun w => w.text.length).foldl (· + ·) 0) bound }
    | _ => o
  set { m with streams }
  Session.changeJob j.process fun j =>
    { j with ends := m.clock, status := 128 + signal, signal := some signal }

def Session.closingChannels {α : Type} (body : Session α) : Session α := do
  let before := (← get).channels
  let result ← body
  for number in (← get).channels.filter (!before.contains ·) do
    Session.setDescriptor number none
  modify fun m => { m with channels := before }
  pure result

/-- Runs the scripts that read what has been written to files to which nothing leads any more. -/
def Session.feedReceivers (e : Engine) : Session Unit := do
  let m ← get
  if !m.receivers.isEmpty then
    let (kept, due) := m.receivers.partition fun r => m.descriptors.any fun d => d.2 == r.stream
    set { m with receivers := kept }
    let status := m.status
    for r in due do
      Session.beside e r.script (r.perform e)
      modify fun m => { m with status, jobs := match m.jobs with
        | j :: rest => { j with told := true } :: rest
        | [] => [] }

/-- Says that a signal has ended a process that runs a command, if one has. -/
def Session.announce (process : Nat) (text : Octets) : Session Unit := do
  let m ← get
  match m.killed with
  | none => pure ()
  | some signal => do
    set { m with killed := none }
    if signal != 2 && signal != 13 && (m.isStandard || !m.substitutes) then
      if m.isStandard || signal = 15 then Session.err (Signal.text signal ++ ['\n'])
      else Session.complain (padLeft 5 (Octets.ofNat process) ++ ' ' ::
        padRight 24 (Signal.text signal) ++ text)

def trimNewlines (text : Octets) : Octets :=
  (text.reverse.dropWhile (· == '\n')).reverse

/-- The output of a script that is put into a word. In the extended dialect a failure in it does not
end it. -/
def substitute (e : Engine) (body : Session Unit) : Session Octets := do
  let (status, out) ← Session.collect <| isolated e do
    modify fun m =>
      let m := { m with tested := false, level := m.level + 1, loops := 0, substitutes := true }
      if m.isStandard || m.hasOption "inherit_errexit" then m else m.setFlag false 'e'
    body
  if (← get).isStandard then Session.announce 0 []
  modify fun m =>
    let m := { m with substituted := status, killed := none }
    if m.isStandard then m else { m with status }
  pure ((trimNewlines out).filter (· != '\x00'))

/-! ### Parameters -/

def flagOrder : Dialect → List Char
  | .standard => "ubaCEVvxsnmiIfe".toList
  | .extended => "abefhikmnprtuvxBCEHPTcs".toList

def Machine.parameter? (m : Machine) (name : Octets) : Option Octets :=
  match name with
  | ['#'] => some (Octets.ofNat m.parameters.length)
  | ['?'] => some (Octets.ofNat m.status)
  | ['-'] => some ((flagOrder m.dialect).filter m.hasFlag)
  | ['!'] => m.beside.map Octets.ofNat
  | ['$'] => some (Octets.ofNat m.process)
  | ['_'] => some m.lastWord
  | _ =>
    if name.all Char.isDigit then
      match name.foldl (fun n c => 10 * n + (c.toNat - 48)) 0 with
      | 0 => some m.name
      | n + 1 => m.parameters[n]?
    else (m.value? name).bind Value.text?

structure Found where
  shown : Octets
  values : List Octets
  many : Option Bool := none
  free : Bool := false

namespace Found

def single (shown : Octets) (value : Option Octets) : Found :=
  { shown, values := value.toList }

def separator (m : Machine) : Octets :=
  ((m.text? "IFS").getD [' ']).take 1

def text (f : Found) (m : Machine) : Octets :=
  let all := m.isStandard || f.many == some true
  joinOctets (if all then separator m else [' ']) f.values

def isPresent (f : Found) (m : Machine) (empty : Bool) : Bool :=
  !f.values.isEmpty && !(empty && (f.text m).isEmpty)

/-- The pieces of what is found. `split` says whether the word may become several. -/
def pieces (f : Found) (m : Machine) (quoted split : Bool) : List Piece :=
  match f.many with
  | none => valuePieces quoted (f.values.head?.getD [])
  | some joined =>
    if !split || (quoted && joined) then valuePieces quoted (f.text m)
    else
      let each (value : Octets) : List Piece :=
        (if quoted then [.quotes] else []) ++ valuePieces quoted value
      ((f.values.map each).intersperse [.border]).flatten

def map (change : Octets → Octets) (f : Found) : Found :=
  { f with values := f.values.map change }

end Found

def refuseUnset {α : Type} (shown : Octets) : Session α := do
  if (← get).isStandard then Session.abort (shown ++ ": parameter not set".toList)
  else
    let sign := if shown.all Char.isDigit || shown == ['!'] then ['$'] else []
    Session.endValueless (sign ++ shown ++ ": unbound variable".toList)

def checkSet (f : Found) : Session Unit := do
  if (← get).hasFlag 'u' && f.values.isEmpty && f.many.isNone && !f.free then refuseUnset f.shown

inductive Sliced where
  | text (t : List Char)
  | values (vs : List Octets)
  | items (es : List (Nat × Octets))
  | entries (vs : List Octets)

namespace Sliced

def size : Sliced → Nat
  | text t => t.length
  | values vs | entries vs => vs.length
  | items es => (es.getLast?.map fun e => e.1 + 1).getD 0

/-- The offset that a number stands for, which counts from the end where it is negative, unless it
lies outside. -/
def start? (s : Sliced) (offset : Int) : Option Nat :=
  let behind : Nat := if s matches .entries _ then s.size + 1 else s.size
  let n := if offset < 0 then offset + behind else offset
  if n < 0 ∨ n > s.size then none else some n.toNat

/-- The part from an offset on. A negative length counts from the end of a text; `none` says that it
is not one. -/
def part (s : Sliced) (start : Nat) (length : Option Int) : Option (List Octets) :=
  let taken {α : Type} (l : List α) : Option (List α) := match length with
    | none => some l
    | some n => if n < 0 then none else some (l.take n.toNat)
  match s with
  | text t =>
    let n : Int := match length with
      | some n => if n < 0 then (t.length : Int) + n - start else n
      | none => t.length
    if n < 0 then none else some [Octets.ofCharacters ((t.drop start).take n.toNat)]
  | values vs => taken (vs.drop start)
  | items es => taken ((es.filter fun e => start ≤ e.1).map Prod.snd)
  | entries vs => match length with
    | none => some (vs.drop (start - 1))
    | some n => if n < 0 then none else some ((vs.drop (start - 1)).take (max 1 n.toNat))

end Sliced

def changeLetters (change : CaseChange) (every : Bool) (p : Pattern) (text : Octets) : Octets :=
  let one (c : Char) : Char :=
    if !p.fits (Octets.ofCharacter c) then c
    else match change with
      | .upper => Letter.upper c
      | .lower => Letter.lower c
      | .toggle => if Letter.isUpper c then Letter.lower c else Letter.upper c
  match text.characters with
  | [] => []
  | c :: rest => Octets.ofCharacters (one c :: if every then rest.map one else rest)

def transformed (m : Machine) (name : Octets) (letter : Char) (f : Found) : Found :=
  let b := m.bindings.get name
  match letter with
  | 'Q' => f.map quoted
  | 'K' | 'k' =>
    match if f.many.isSome then m.value? name else none with
    | some (.items es) => pairs (es.map fun (n, t) => (Octets.ofNat n, t))
    | some (.table es) => pairs es
    | _ => f.map quoted
  | 'U' => f.map fun t => Octets.ofCharacters (t.characters.map Letter.upper)
  | 'L' => f.map fun t => Octets.ofCharacters (t.characters.map Letter.lower)
  | 'u' => f.map fun t => match t.characters with
    | c :: rest => Octets.ofCharacters (Letter.upper c :: rest)
    | [] => []
  | 'E' => f.map fun t => WordReader.control (t.length + 1) t
  | 'a' =>
    if f.many.isSome then f.map fun _ => if isName name then b.attributes else []
    else { f with values := if isName name && !b.attributes.isEmpty then [b.attributes] else [] }
  | 'A' =>
    if f.many.isSome then
      let all := if isName name then Binding.declaration name b
        else "set --".toList ++ f.values.flatMap fun t => ' ' :: quoted t
      { f with values := [all], many := none }
    else if !isName name then { f with values := [] }
    else
      let front := if b.attributes.isEmpty then [] else "declare -".toList ++ b.attributes ++ [' ']
      if f.values.isEmpty && !front.isEmpty then
        { f with values := [front ++ name] }
      else f.map fun t => front ++ name ++ '=' :: Quoting.single t
  | _ => f
where
  quoted (t : Octets) : Octets :=
    if Quoting.isShowable t then Quoting.single t else Quoting.ansi t
  pairs (es : List (Octets × Octets)) : Found :=
    if letter == 'k' then { f with values := es.flatMap fun (k, t) => [k, t] }
    else
      let shown := es.map fun (k, t) => Binding.shownKey k ++ ' ' :: Binding.quotedValue t
      let all := joinOctets [' '] shown
      let isTable := m.value? name matches some (.table _)
      { f with values := [if isTable && !es.isEmpty then all ++ [' '] else all], many := none }

/-- A replacement: its characters, with whether a sign stands for what the pattern fits. -/
def replacement (pieces : List Piece) (fitting : Octets) : Octets :=
  (marked pieces).flatMap fun (c, quoted) => if c == '&' && !quoted then fitting else [c]

/-! ### Tildes -/

def homeOf (m : Machine) (name : Octets) : Option Octets :=
  match name with
  | [] =>
    match m.text? "HOME" with
    | some home => some home
    | none => if m.isStandard then none else some "/root".toList
  | ['+'] => if m.isStandard then none else m.text? "PWD"
  | ['-'] => if m.isStandard then none else m.text? "OLDPWD"
  | _ => Account.homeOf? name

/-- The name behind a tilde, and what follows, unless quotes or something else stand in it. With
`colons` a colon ends it. -/
def tildeName (colons : Bool) : Word → Option (Octets × Word)
  | [] => some ([], [])
  | .char c false :: rest =>
    if c == '/' || (colons && c == ':') then some ([], .char c false :: rest)
    else (tildeName colons rest).map fun (name, rest) => (c :: name, rest)
  | _ => none

def withHome (m : Machine) (colons : Bool) (w : Word) : Word :=
  match w with
  | .char '~' false :: rest =>
    match tildeName colons rest with
    | some (name, behind) =>
      match homeOf m name with
      | some home =>
        (if home.isEmpty && !m.isStandard then [.quotes] else []) ++
          Word.ofOctets home true ++ behind
      | none => w
    | none => w
  | _ => w

def withHomes (m : Machine) (w : Word) : Word :=
  let rec go : Nat → Word → Word
    | 0, w => w
    | fuel + 1, w =>
      let w := withHome m true w
      let before := w.takeWhile fun
        | .char ':' false => false
        | _ => true
      match w.drop before.length with
      | colon :: rest => before ++ colon :: go fuel rest
      | [] => before
  go (w.length + 1) w

def settingWithHomes (m : Machine) (w : Word) : Word :=
  match WordReader.target? w with
  | some (_, _, _, value) => w.take (w.length - value.length) ++ withHomes m value
  | none => w

/-! ### Words -/

/-- How much is made of a text that never ends where it is the input of a channel. -/
def channelReach : Nat := 1048576

def Machine.rules (m : Machine) : PatternRules :=
  ⟨!m.isStandard, m.hasOption "extglob"⟩

def Machine.fileRules (m : Machine) : FileRules where
  pattern := m.rules
  anyCase := m.hasOption "nocaseglob"
  hidden := m.hasOption "dotglob"
  deep := m.hasOption "globstar"

def givesWords : Parameter → Bool
  | .mk ['@'] _ _ .length => false
  | .mk ['@'] _ _ _ => true
  | .mk _ .each _ .length => false
  | .mk _ .each _ _ => true
  | .mk _ _ _ (.keys joined) | .mk _ _ _ (.names joined) => !joined
  | _ => false

def startsUnquoted : Word → Bool
  | .char _ quoted :: _ | .parameter _ quoted :: _ | .command _ quoted :: _
  | .scriptText _ quoted :: _ | .arithmetic _ quoted :: _ => !quoted
  | _ => true

/-- A word without the quotes that hold only a parameter that gives several words: where it gives
none, there is no word. -/
def withoutListQuotes : Word → Word
  | .quotes :: .parameter p true :: rest =>
    let more := .parameter p true :: withoutListQuotes rest
    if givesWords p && startsUnquoted rest then more else .quotes :: more
  | a :: rest => a :: withoutListQuotes rest
  | [] => []

def wordBound : Nat := 10000

mutual

/-- The pieces of a word. `split` says whether it may become several. -/
def wordPieces (e : Engine) : Nat → Bool → Word → Session (List Piece)
  | 0, _, _ => throw .exhausted
  | fuel + 1, split, w => do
    let w := if split then withoutListQuotes w else w
    return (← w.mapM (atomPieces e fuel split)).flatten

def atomPieces (e : Engine) : Nat → Bool → Atom → Session (List Piece)
  | 0, _, _ => throw .exhausted
  | fuel + 1, split, a => do
    match a with
    | .char c quoted => pure [.char c quoted]
    | .quotes => pure [.quotes]
    | .command script quoted => return valuePieces quoted (← substitute e (e.run script))
    | .scriptText text quoted => return valuePieces quoted (← substitute e (e.text text))
    | .arithmetic text quoted => do
      let n ← Session.arithmetic (plainText (← wordPieces e fuel false text))
      pure (valuePieces quoted (Octets.ofInt n.toInt))
    | .channel reads script => channelPieces e fuel reads script
    | .items .. => pure []
    | .parameter p quoted => parameterPieces e fuel split quoted p

def channelPieces (e : Engine) : Nat → Bool → Command → Session (List Piece)
  | 0, _, _ => throw .exhausted
  | _, reads, script => do
    let file ← if !reads then Session.openFile ⟨.sink #[] 0, false, true⟩
      else do
        let ((), pieces) ← Session.collectPieces { loose := channelReach }
          (Session.beside e script (e.run script))
        let text := pieces.flatMap Writing.text
        modify fun m => { m with jobs := match m.jobs with
          | j :: rest => { j with told := true } :: rest
          | [] => [] }
        Session.openText text
    if !reads then
      modify fun m =>
        let r : Receiver := ⟨file, m.descriptors, script⟩
        { m with receivers := m.receivers ++ [r] }
    let m ← get
    let number := ((List.range 64).reverse.find? fun n => (m.descriptors.lookup n).isNone).getD 63
    Session.setDescriptor number (some file)
    modify fun m => { m with channels := number :: m.channels }
    let path := "/dev/fd/".toList ++ Octets.ofNat number
    let place := Files.placeOf "/proc/self/fd" ++ [Octets.ofNat number]
    let entry : Entry := .device (.descriptor number)
    modify fun m => { m with files := m.files.put place entry }
    pure (valuePieces true path)

def findParameter (e : Engine) : Nat → Octets → Index → Session Found
  | 0, _, _ => throw .exhausted
  | fuel + 1, name, index => do
    let m ← get
    match index with
    | .none =>
      match name with
      | ['@'] => pure { shown := name, values := m.parameters, many := some false }
      | ['*'] => pure { shown := name, values := m.parameters, many := some true }
      | _ => do
        if name == "RANDOM".toList then modify fun m => { m with bindings := m.bindings.draw name }
        else if name == "SRANDOM".toList then
          modify fun m => { m with drawn := m.drawn * 7 + 1 }
        let m ← get
        match if m.isStandard then none else Session.elementOf? (m.bindings.target 10 name) with
        | some (base, key) =>
          let index : Index := if key == ['@'] then .each else if key == ['*'] then .joined
            else .key (Word.ofOctets key true)
          findParameter e fuel base index
        | none => pure (.single name (m.parameter? name))
    | .each | .joined =>
      if m.hasFlag 'u' && (m.bindings.get name).hollow then
        Session.abort (name ++ ": unbound variable".toList)
      else
        let values := ((m.value? name).map Value.elements).getD []
        pure { shown := name, values, many := some (index matches .joined) }
    | .key [] =>
      Session.abort ("$\x7b".toList ++ name ++ "[]\x7d: bad substitution".toList)
    | .key word => do
      let key := plainText (← wordPieces e fuel false word)
      let shown := name ++ '[' :: key ++ [']']
      let badIndex : Session Found := do
        Session.complain (name ++ ": bad array subscript".toList)
        pure { shown, values := [[]], free := true }
      match (← get).value? name with
      | some (.table es) => if key.isEmpty then badIndex else pure (.single shown (es.lookup key))
      | value => do
        match ← Session.elementNumber? { value } key with
        | some n => pure (.single shown ((Value.toItems value).lookup n))
        | none => badIndex

def parameterPieces (e : Engine) : Nat → Bool → Bool → Parameter → Session (List Piece)
  | 0, _, _, _ => throw .exhausted
  | fuel + 1, split, quoted, .mk name index indirect use => do
    let found ← match use with
      | .bad _ | .names _ => pure (Found.single name none)
      | _ => findParameter e fuel name index
    let b := (← get).bindings.get name
    if !indirect then usePieces e fuel split quoted name index found use
    else if (index matches .none) && b.reference && use matches .value then
      let target := (← get).bindings.target 10 name
      usePieces e fuel split quoted name index { found with values := [target] } use
    else
      match found.values with
      | [] =>
        match use with
        | .bad _ | .names _ => usePieces e fuel split quoted name index found use
        | _ => Session.abort (name ++ ": invalid indirect expansion".toList)
      | target :: _ =>
        let base := target.takeWhile (· != '[')
        let key := (target.drop (base.length + 1)).dropLast
        let index : Index :=
          if base.length = target.length then .none
          else if key == ['@'] then .each
          else if key == ['*'] then .joined
          else .key (Word.ofOctets key true)
        let known := isName base || base.all Char.isDigit ||
          ["@", "*", "#", "?", "-", "$", "!"].contains (String.ofList base)
        if !known || base.isEmpty then
          Session.abort (target ++ ": invalid variable name".toList)
        else usePieces e fuel split quoted base index (← findParameter e fuel base index) use

def insteadPieces (e : Engine) : Nat → Bool → Bool → Word → Session (List Piece)
  | 0, _, _, _ => throw .exhausted
  | fuel + 1, split, quoted, word => do
    let m ← get
    let word := if quoted then word else withHome m false word
    let found ← wordPieces e fuel split word
    pure (released quoted found)

def patternOf (e : Engine) : Nat → Word → Session Pattern
  | 0, _ => throw .exhausted
  | fuel + 1, word => do
    let m ← get
    let found ← wordPieces e fuel false (withHome m false word)
    pure (Pattern.ofMarked m.rules (marked found))

def promptText (e : Engine) : Nat → Octets → Session Octets
  | 0, _ => throw .exhausted
  | fuel + 1, t => do
    let m ← get
    let (word, heres) := Reader.lineWord m.dialect m.heres (Prompt.text m (t.length + 1) t)
    set { m with heres }
    let found ← wordPieces e fuel false word
    pure (plainText found)

def usePieces (e : Engine) : Nat → Bool → Bool → Octets → Index → Found → Use →
    Session (List Piece)
  | 0, _, _, _, _, _, _ => throw .exhausted
  | fuel + 1, split, quoted, name, index, found, use => do
    let m ← get
    let give (f : Found) : Session (List Piece) := return f.pieces (← get) quoted split
    let text (t : Octets) : Session (List Piece) := pure (valuePieces quoted t)
    /- Where one value is asked for, several count as one in the standard dialect. -/
    let values : Found :=
      if m.isStandard && found.many.isSome then .single name (some (found.text m)) else found
    match use with
    | .value => do
      checkSet found
      give found
    | .length => do
      checkSet found
      match index, found.many with
      | .each, _ | .joined, _ => text (Octets.ofNat found.values.length)
      | _, some _ =>
        text (Octets.ofNat (if m.isStandard then (found.text m).length else found.values.length))
      | _, none =>
        let value := found.values.head?.getD []
        text (Octets.ofNat (if m.isStandard then value.length else value.characters.length))
    | .standard empty word =>
      if found.isPresent m empty then give found else insteadPieces e fuel split quoted word
    | .alternative empty word =>
      if found.isPresent m empty then insteadPieces e fuel split quoted word else pure []
    | .assign empty word =>
      if found.isPresent m empty then give found
      else do
        if !isName name then
          if m.isStandard then Session.abort (name ++ ": bad variable name".toList)
          else Session.abort ('$' :: name ++ ": cannot assign in this way".toList)
        let t := plainText (← insteadPieces e fuel false quoted word)
        match index with
        | .key key => do
          let key := plainText (← wordPieces e fuel false key)
          Session.assignElement name key t false
        | _ => Session.assign name t
        text t
    | .demand empty word =>
      if found.isPresent m empty then give found
      else do
        let t := plainText (← insteadPieces e fuel false quoted word)
        if m.isStandard then
          let message := "parameter not set".toList ++ if empty then " or null".toList else []
          Session.abort (name ++ ": ".toList ++ if t.isEmpty then message else t)
        else
          let message := (if empty then "parameter null or not set" else "parameter not set").toList
          Session.endValueless (found.shown ++ ": ".toList ++ if t.isEmpty then message else t)
    | .trim front longest word => do
      checkSet found
      let p ← patternOf e fuel word
      give (values.map (if front then p.trimFront longest else p.trimEnd longest))
    | .substring offset length written => do
      checkSet found
      let number (w : Word) : Session Int := do
        let t := plainText (← wordPieces e fuel false w)
        return (← Session.arithmetic t).toInt
      let whole : Sliced := match found.many, index, m.value? name with
        | none, _, _ => .text (found.values.head?.getD []).characters
        | some _, .none, _ => .values (m.name :: found.values)
        | some _, _, some (.items es) => .items es
        | some _, _, some (.table _) => .entries found.values
        | some _, _, _ => .text (found.values.head?.getD []).characters
      match whole.start? (← number offset) with
      | none => give { found with values := if found.many.isNone then [[]] else [] }
      | some start => do
        let count ← length.mapM number
        match whole.part start count with
        | some values => give { found with values }
        | none => Session.abort (written ++ ": substring expression < 0".toList)
    | .replace mode pattern word => do
      checkSet found
      let p ← patternOf e fuel pattern
      let p := { p with anyCase := m.hasOption "nocasematch" && !m.isStandard }
      let pieces ← wordPieces e fuel false word
      let change (t : Octets) : Octets := match mode with
        | .first => p.replaceParts false (replacement pieces) t
        | .every => p.replaceParts true (replacement pieces) t
        | .front => match p.splitFront? true t with
          | some (front, rest) => replacement pieces front ++ rest
          | none => t
        | .back => match p.splitEnd? true t with
          | some (rest, last) => rest ++ replacement pieces last
          | none => t
      give (found.map change)
    | .changeCase change every pattern => do
      checkSet found
      let p ← if pattern.isEmpty then pure { elements := [.one], size := 1 } else patternOf e fuel pattern
      give (found.map (changeLetters change every p))
    | .transform 'P' => do
      let values ← found.values.mapM (promptText e fuel)
      modify fun n => { n with status := m.status, substituted := m.substituted }
      give { found with values }
    | .transform letter => give (transformed m name letter found)
    | .names joined =>
      let names := (m.bindings.filter fun b => name.isPrefixOf b.1 && b.2.value.isSome).map Prod.fst
      give { shown := name, values := names.mergeSort Files.inOrder, many := some joined }
    | .keys joined =>
      give { shown := name, values := ((m.value? name).map Value.keys).getD [], many := some joined }
    | .bad written =>
      let text := "$\x7b".toList ++ written ++ ": bad substitution".toList
      if m.isStandard then Session.abort "Bad substitution".toList
      else if (written.dropWhile isNameChar).head? == some '@' then Session.endValueless text
      else Session.abort text

end

/-! ### Whole words -/

def pieces (e : Engine) (split : Bool) (w : Word) : Session (List Piece) :=
  wordPieces e wordBound split w

def expandFields (e : Engine) (w : Word) : Session (List Octets) := do
  let m ← get
  let ws := if m.hasFlag 'B' then braceWords w else [w]
  let fieldsOf (w : Word) : Session (List Octets) := do
    let m ← get
    let w := withHome m false w
    let w := if m.isStandard then w else settingWithHomes m w
    let found ← pieces e true w
    let m ← get
    let found := fields m.separators found
    let files (field : List Glob.Marked) : Session (List Octets) := do
      match filesOf m.files m.fileRules field with
      | some result => pure result
      | none =>
        let text := field.map Prod.fst
        if (Pattern.ofMarked m.rules field).isWild then
          if m.hasOption "failglob" then Session.abort ("no match: ".toList ++ text)
          else pure (if m.hasOption "nullglob" then [] else [text])
        else pure [text]
    if m.hasFlag 'f' then pure (found.map fun f => f.map Prod.fst)
    else return (← found.mapM files).flatten
  return (← ws.mapM fieldsOf).flatten

def expandText (e : Engine) (w : Word) : Session Octets := do
  return plainText (← pieces e false (withHome (← get) false w))

def expandValue (e : Engine) (w : Word) : Session Octets := do
  return plainText (← pieces e false (withHomes (← get) w))

def expandSetting (e : Engine) (w : Word) : Session Octets := do
  return plainText (← pieces e false (settingWithHomes (← get) w))

def expandLines (e : Engine) (w : Word) : Session Octets := do
  return plainText (← pieces e false w)

def expandPattern (e : Engine) (w : Word) : Session (List Glob.Marked) := do
  return marked (← pieces e false (withHome (← get) false w))

end MediaPipeline.Shell
