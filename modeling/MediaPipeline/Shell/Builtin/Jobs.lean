import MediaPipeline.Shell.Builtin.Printing
import MediaPipeline.Shell.Listing
import MediaPipeline.Shell.Signal

/-!
Commands about processes: what runs beside the shell, and signals.

A command that runs beside the shell has been run when it was started, but what it writes counts from
the time on at which it is written. So waiting moves the clock of the shell, and ending such a command
takes back what it would have written later.
-/

namespace MediaPipeline.Shell

namespace Session

/-- Does what a signal that is sent to the shell itself leads to. -/
def receive (e : Engine) (event : String) : Session Unit := do
  let m ← get
  let ignored := event == "" || (event == "QUIT" && !m.isStandard)
  match if event == "KILL" then none else m.traps.lookup event with
  | some action => do
    if !action.isEmpty then
      e.text action
      modify fun n => { n with status := m.status }
  | none => if Signal.isDeadly event && !ignored then throw (.killed (Signal.number event))

/-- Whether a signal that is on its way has reached the shell, and it is not one inside it. -/
def hasReached (m : Machine) (s : Delivery) : Bool :=
  m.own == m.process && s.process == m.process && s.time ≤ m.clock

def receiveAll (e : Engine) : Session Unit := do
  let m ← get
  if m.signals.any (hasReached m) then
    let (own, others) := m.signals.partition (hasReached m)
    set { m with signals := others }
    for s in own do receive e s.event

/-- The first signal before a time for which the shell has left something to run. -/
def interruption? (m : Machine) (time : Nat) : Option Delivery :=
  let heard (s : Delivery) : Bool :=
    hasReached { m with clock := time } s &&
      ((m.traps.lookup s.event).any fun action => !action.isEmpty)
  ((m.signals.filter heard).mergeSort fun a b => a.time ≤ b.time).head?

/-- Waits for a job, and gives its status; a signal may come first. -/
def await (j : Job) : Session Nat := do
  let m ← get
  match interruption? m j.ends with
  | some s => do
    set { m with clock := max m.clock s.time }
    pure (128 + Signal.number s.event)
  | none => do
    modify fun m => { m with clock := max m.clock (j.ends + noticeTime) }
    changeJob j.process fun k => { k with awaited := true, told := k.told || !m.isStandard }
    pure j.status

end Session

namespace Builtin

def hasEnded (m : Machine) (j : Job) : Bool :=
  j.ends ≤ m.clock

/-- The jobs that a shell still knows to be there. -/
def listed (m : Machine) : List Job :=
  m.jobs.filter fun j => if m.isStandard then !j.told else !hasEnded m j && !j.told

def job? (m : Machine) (word : Octets) : Option Job :=
  match word with
  | '%' :: name =>
    let known := m.jobs.filter fun j => !j.told
    match name with
    | [] | ['%'] | ['+'] => known.head?
    | ['-'] => known[1]?
    | name =>
      if name.all Char.isDigit then known.find? fun j => j.number == natural name
      else if m.isStandard then none
      else
        let (inside, name) := match name with
          | '?' :: rest => (true, rest)
          | rest => (false, rest)
        known.find? fun j =>
          let text := commandText m.heres j.body
          if inside then (List.range text.length).any fun n => name.isPrefixOf (text.drop n) else name.isPrefixOf text
  | _ => none

def noJob (m : Machine) (word : Octets) : Octets :=
  match m.isStandard, word with
  | true, ['%'] | true, ['%', '%'] | true, ['%', '+'] => "No current job".toList
  | true, ['%', '-'] => "No previous job".toList
  | true, _ => "No such job: ".toList ++ word
  | false, _ => word ++ ": no such job".toList

def isNumber (text : Octets) : Bool :=
  !text.isEmpty && text.all Char.isDigit

def waitNext (holder : Option Octets) : Session Unit := do
  let m ← get
  let left := m.jobs.filter fun j => !j.awaited
  match left.mergeSort fun a b => a.ends < b.ends || (a.ends == b.ends && a.number ≤ b.number) with
  | [] => Session.setStatus 127
  | j :: _ => do
    let status ← Session.await j
    modify fun m => { m with jobs := m.jobs.map fun j => if hasEnded m j then { j with awaited := true, told := true } else j }
    if let some name := holder then assignTarget name (Octets.ofNat j.process)
    Session.setStatus status

def waitAll (jobs : List Job) : Session Unit := do
  let m ← get
  let last := (jobs.map Job.ends).foldl max m.clock
  match Session.interruption? m last with
  | some s => set { m with clock := max m.clock s.time, status := 128 + Signal.number s.event }
  | none =>
    for j in jobs.reverse do
      let _ ← Session.await j
      if !m.isStandard then
        modify fun m => { m with killed := j.signal.filter (· != 15) }
        Session.announce j.process (commandText m.heres j.body)

/-- Waits for jobs: all of them, or those that are named, of which the last gives the status. -/
def wait : Builtin := fun args => do
  let m ← get
  let o ← options (if m.isStandard then "" else "fnp:") false " [-fn] [-p var] [id ...]" args
  Session.setStatus 0
  if o.operands.isEmpty then
    if o.has 'n' then waitNext (o.value? 'p')
    else waitAll (m.jobs.filter fun j => !j.awaited)
  else
    for a in o.operands do
      if a.head? == some '%' then
        match job? m a with
        | some j => Session.setStatus (← Session.await j)
        | none =>
          if m.isStandard then abort (noJob m a)
          else
            complain (noJob m a)
            Session.setStatus 127
      else if isNumber a then
        let isMeant (j : Job) : Bool := j.process == natural a && !(m.isStandard && j.told)
        match m.jobs.find? isMeant with
        | some j => do
          let status ← Session.await j
          Session.setStatus status
          if !j.awaited && (m.isStandard || j.signal != some 15) then
            modify fun m => { m with killed := j.signal }
            Session.announce j.process (commandText m.heres j.body)
          if let some name := o.value? 'p' then assignTarget name a
        | none => do
          if !m.isStandard then
            complain ("pid ".toList ++ a ++ " is not a child of this shell".toList)
          Session.setStatus 127
      else
        match m.dialect with
        | .standard => abort ("Illegal number: ".toList ++ a)
        | .extended => abort (inMessage a ++ ": not a pid or valid job spec".toList)

def jobState (m : Machine) (j : Job) : Octets :=
  if !hasEnded m j then "Running".toList
  else match j.signal with
    | some signal => Signal.text signal
    | none =>
      if j.status = 0 then "Done".toList
      else if m.isStandard then "Done(".toList ++ Octets.ofNat j.status ++ [')']
      else "Exit ".toList ++ Octets.ofNat j.status

def jobLine (m : Machine) (long : Bool) (j : Job) : Octets :=
  let known := listed m
  let sign := if known.head?.any fun k => k.process == j.process then '+'
    else if known[1]?.any fun k => k.process == j.process then '-' else ' '
  let process := if long then Octets.ofNat j.process ++ [' '] else []
  match m.dialect with
  | .standard =>
    let front := '[' :: Octets.ofNat j.number ++ "] ".toList ++ sign :: ' ' :: process
    let pipes := match j.body with
      | .pipe stages => (stages.drop 1).flatMap fun _ => " | ".toList
      | _ => []
    padRight 33 (front ++ jobState m j) ++ pipes ++ ['\n']
  | .extended =>
    '[' :: Octets.ofNat j.number ++ ']' :: sign ::
      (if long then ' ' :: padLeft 5 (Octets.ofNat j.process) ++ [' '] else "  ".toList) ++
      padRight 24 (jobState m j) ++ commandText m.heres j.body ++
      (if hasEnded m j then [] else " &".toList) ++ ['\n']

def jobs : Builtin := fun args => do
  let m ← get
  let o ← options (if m.isStandard then "lp" else "lpnxrs") false
    " [-lnprs] [jobspec ...] or jobs -x command [args]" args
  Session.setStatus 0
  let mut wanted := if m.isStandard then listed m else (listed m).reverse
  if !o.operands.isEmpty then
    wanted := []
    for a in o.operands do
      match job? m a with
      | some j => wanted := wanted ++ [j]
      | none =>
        if m.isStandard then abort (noJob m a)
        else
          complain (noJob m a)
          Session.setStatus 1
  if o.has 's' then wanted := []
  for j in wanted do
    let line := jobLine (← get) (o.has 'l') j
    Session.out (if o.has 'p' then Octets.ofNat j.process ++ ['\n'] else line)
    if hasEnded m j then Session.changeJob j.process fun j => { j with told := true }

/-- Brings a job to the front, which nobody can do here. -/
def resume : Builtin := fun args => do
  let m ← get
  match m.dialect with
  | .extended => abort "no job control".toList
  | .standard =>
    let word := args.head?.getD ['%', '%']
    match job? m word with
    | none => abort (noJob m word)
    | some _ =>
      let shown := args.head?.getD "(null)".toList
      abort ("job ".toList ++ shown ++ " not created under job control".toList)

def disown : Builtin := fun args => do
  let o ← options "ahr" false " [-h] [-ar] [jobspec ... | pid ...]" args
  let m ← get
  Session.setStatus 0
  let forget (j : Job) : Session Unit :=
    if o.has 'h' then pure ()
    else modify fun m => { m with jobs := m.jobs.filter fun k => k.process != j.process }
  if o.has 'a' then modify fun m => { m with jobs := [] }
  else if o.operands.isEmpty then
    match listed m with
    | j :: _ => forget j
    | [] => abort "current: no such job".toList
  else
    for a in o.operands do
      match (job? m a).or (m.jobs.find? fun j => isNumber a && j.process == natural a) with
      | some j => forget j
      | none => do
        complain (noJob m a)
        Session.setStatus 1

/-! ### Signals -/

def signalNames (d : Dialect) (words : List Octets) : Session Unit := do
  Session.setStatus 0
  match d, words with
  | .standard, [] =>
    let names := Signal.names.map fun n => (Signal.nameIn .standard n).toList
    Session.out ('0' :: '\n' :: unlines names)
  | .standard, w :: _ => do
    let n ← number w
    let n := if n > 128 then n - 128 else n
    match if n = 0 then none else Signal.names[n - 1]? with
    | some s => Session.out ((Signal.nameIn .standard s).toList ++ ['\n'])
    | none => abort ("invalid signal number or exit status: ".toList ++ w)
  | .extended, [] => Session.out Signal.table
  | .extended, words =>
    for w in words do
      let shown : Option Octets :=
        if isNumber w then
          let n := natural w
          let n := if n > 128 then n - 128 else n
          if n = 0 then some "EXIT".toList else (Signal.names[n - 1]?).map String.toList
        else (Signal.event? d w).map fun e => Octets.ofNat (Signal.number e)
      match shown with
      | some t => if !isNumber w || !isNumber t then Session.out (t ++ ['\n'])
      | none => do
        complain (w ++ ": invalid signal specification".toList)
        Session.setStatus 1

def send (e : Engine) (event : String) (process : Nat) : Session Bool := do
  let m ← get
  if process == m.own then
    Session.receive e event
    pure true
  else if process == m.process || process == m.above then
    modify fun m => { m with signals := m.signals ++ [⟨m.clock, process, event⟩] }
    pure true
  else match m.jobs.find? fun j => j.process == process with
    | some j =>
      if hasEnded m j then pure false
      else
        if event != "" && Signal.isDeadly event then Session.endJob j (Signal.number event)
        pure true
    | none => pure (process == 1)

def killStandard (e : Engine) : Builtin := fun args => do
  let usageText := "Usage: kill [-s sigspec | -signum | -sigspec] [pid | job]... or\n" ++
    "kill -l [exitstatus]"
  let event? (word : Octets) : Option String :=
    if word == ['0'] then some "" else Signal.event? .standard word
  let (event, lists, targets) : Option String × Bool × List Octets ← match args with
    | ('-' :: word) :: rest =>
      match event? word with
      | some event => pure (some event, false, rest)
      | none => do
        let o ← options "ls:" false "" args
        match o.value? 's' with
        | none => pure (none, o.has 'l', o.operands)
        | some word =>
          match event? word with
          | some event => pure (some event, o.has 'l', o.operands)
          | none => abort ("invalid signal number or name: ".toList ++ word)
    | args => pure (none, false, args)
  if lists then signalNames .standard targets
  else if targets.isEmpty then abort usageText.toList
  else
    Session.setStatus 0
    for t in targets do
      let m ← get
      let found ← match t with
        | '%' :: _ =>
          match job? m t with
          | some _ => pure false
          | none => abort (noJob m t)
        | '-' :: digits => do
          let _ ← number digits
          pure false
        | _ => send e (event.getD "TERM") (← number t)
      if !found then
        complain "No such process\n".toList
        Session.setStatus 1

def killExtended (e : Engine) : Builtin := fun args => do
  let usageText := " [-s sigspec | -n signum | -sigspec] pid | jobspec ... or kill -l [sigspec]"
  let bad {α : Type} (word : Octets) : Session α :=
    abort (word ++ ": invalid signal specification".toList)
  match args with
  | [] => usage usageText
  | ['-', 'l'] :: rest | ['-', 'L'] :: rest => signalNames .extended rest
  | _ =>
    let (word, targets) : Option Octets × List Octets ← match args with
      | ['-', c] :: rest =>
        if c == 's' || c == 'n' then
          match rest with
          | word :: rest => pure (some word, rest)
          | [] => abort ('-' :: c :: ": option requires an argument".toList)
        else if c == '-' then pure (none, rest)
        else pure (some [c], rest)
      | ('-' :: c :: word) :: rest =>
        if c == 's' && word.head?.any Char.isAlpha then pure (some word, rest)
        else if c == 'n' && word.head?.any Char.isDigit then pure (some word, rest)
        else pure (some (c :: word), rest)
      | rest => pure (none, rest)
    let event : String ← match word with
      | none => pure "TERM"
      | some ['0'] => pure ""
      | some word => match Signal.event? .extended word with
        | some event => pure event
        | none => bad word
    let targets := if targets.head? == some ['-', '-'] then targets.tail else targets
    if targets.isEmpty then usage usageText
    let mut reached := false
    for t in targets do
      let m ← get
      let digits := if t.head? == some '-' then t.tail else t
      if isNumber digits then
        if t.head? != some '-' && (← send e event (natural digits)) then reached := true
        else complain ('(' :: t ++ ") - No such process".toList)
      else if t.head? == some '%' then
        match job? m t with
        | some j => if ← send e event j.process then reached := true
        | none => complain (noJob m t)
      else if t.isEmpty then
        complain "\x60': not a pid or valid job spec".toList
      else complain (t ++ ": arguments must be process or job IDs".toList)
    Session.setStatus (if reached then 0 else 1)

def kill (e : Engine) : Builtin := fun args => do
  if (← get).isStandard then killStandard e args else killExtended e args

end Builtin

end MediaPipeline.Shell
