import MediaPipeline.Shell.Builtin.Completion
import MediaPipeline.Shell.Builtin.Control
import MediaPipeline.Shell.Builtin.Input
import MediaPipeline.Shell.Builtin.Jobs
import MediaPipeline.Shell.Builtin.Limits
import MediaPipeline.Shell.Builtin.Places
import MediaPipeline.Shell.Regex
import MediaPipeline.Shell.Running

/-!
Running commands. Each construct is written over a function that runs the commands inside it; the
nesting of these functions is bounded, and so is the number of rounds of a loop.
-/

namespace MediaPipeline.Shell

/-! ### Failures that end a shell -/

/-- Runs what is left for an event, if anything is. It leaves no status behind. -/
def onEvent (e : Engine) (event : String) : Session Unit := do
  let m ← get
  if let some action := m.action? event then
    set { m with events := event :: m.events }
    let result ← Session.observe (e.text action)
    modify fun n => { n with events := m.events, status := m.status, line := m.line }
    match result with
    | .error flow => throw flow
    | .ok () => pure ()

def announce (e : Engine) (command : Command) : Session Unit := do
  let m ← get
  if m.isStandard || !m.events.isEmpty then pure ()
  else if m.announced then set { m with announced := false }
  else
    set { m with current := command }
    onEvent e "DEBUG"

/-- Looks at the status of a command: a failure may run what is left for it, and may end the
shell. -/
def checkStatus (e : Engine) : Session Unit := do
  let m ← get
  if m.status != 0 && !m.tested then
    onEvent e "ERR"
    if m.hasFlag 'e' then throw (.exit m.status)

/-! ### Words -/

/-- The commands whose further words may set variables. -/
def declaringNames (d : Dialect) : List String :=
  match d with
  | .standard => ["export", "readonly", "local"]
  | .extended => ["export", "readonly", "local", "declare", "typeset"]

def writtenIndex (w : Word) : Octets :=
  let quote : Octets := if w.any fun
      | .parameter .. => true
      | _ => false then ['"'] else ['\'']
  let inner := w.flatMap fun
    | .char c _ => [c]
    | .parameter (.mk name .none false .value) _ => '$' :: name
    | _ => []
  if w.hasQuotes then quote ++ inner ++ quote else inner

def expandItems (e : Engine) (words : List Word) : Session (List ListElement) := do
  let each (w : Word) : Session (List ListElement) := do
    match WordReader.keyed? w with
    | some (key, append, value) => do
      let text ← expandValue e value
      return [{ key := some (← expandText e key), append, text, writtenKey := writtenIndex key }]
    | none => return (← expandFields e w).map fun f => { text := f }
  return (← words.mapM each).flatten

def itemsOfText (e : Engine) (text : Octets) : Session (List ListElement) := do
  let m ← get
  let s := Source.ofText m.dialect [] ('x' :: '=' :: text)
  match Reader.nextCommand.run { s with heres := m.heres } with
  | (.ok (some (.simple _ [.mk _ _ _ [.items words _]] ..)), after) => do
    set { m with heres := after.heres }
    expandItems e words
  | _ => pure [{ text }]

def settingOperand? (e : Engine) (w : Word) : Option (Session Operand) :=
  match WordReader.target? w with
  | none => none
  | some (name, index, append, value) =>
    match index, value with
    | none, [.items words _] => some do
      pure { text := name, items := some (append, ← expandItems e words) }
    | none, _ => some do return { text := ← expandSetting e w }
    | some key, value => some do
      let key ← expandText e key
      let text ← expandValue e value
      let sign := if append then ['+', '='] else ['=']
      pure { text := name ++ '[' :: key ++ ']' :: sign ++ text }

def expandOperands (e : Engine) (words : List Word) : Session (List Operand) := do
  let declaring := declaringNames (← get).dialect
  words.foldlM (fun (done : List Operand) w => do
    let name := (done.dropWhile fun o => ["command", "builtin"].contains (String.ofList o.text)).head?
    let declares := name.any fun o => declaring.contains (String.ofList o.text)
    match if declares then settingOperand? e w else none with
    | some operand => return done ++ [← operand]
    | none => return done ++ (← expandFields e w).map fun f => { text := f }) []

def expandWords (e : Engine) (words : List Word) : Session (List Octets) :=
  return (← words.mapM (expandFields e)).flatten

/-! ### Settings -/

structure Settled where
  name : Octets
  index : Option Octets
  append : Bool
  value : Octets
  items : Option (List ListElement) := none
  written : Octets := []

def settledOf (e : Engine) : Setting → Session Settled
  | .mk name written append value => do
    let index ← written.mapM (expandText e)
    let m ← get
    let isTable := (m.bindings.get (m.bindings.target 10 name)).value matches some (.table _)
    if written.any List.isEmpty || (isTable && index == some []) then
      Session.badIndex (name ++ '[' :: writtenIndex (written.getD []) ++ [']'])
    match value with
    | [.items words written] => do
      let items ← expandItems e words
      pure { name, index, append, value := [], items := some items, written }
    | _ => return { name, index, append, value := ← expandValue e value }

def Settled.perform (s : Settled) : Session Unit := do
  match s.items, s.index with
  | some items, _ => Session.assignItems s.name items s.append
  | none, some i => Session.assignElement s.name i s.value s.append
  | none, none => Session.assignText s.name s.value s.append

def Settled.shown (d : Dialect) (s : Settled) : Octets :=
  let name := s.name ++ (match s.index with
    | some i => '[' :: i ++ [']']
    | none => []) ++ (if s.append then ['+', '='] else ['='])
  name ++ (if s.items.isSome then s.written
    else match d with
      | .standard => s.value
      | .extended => if s.value.isEmpty then [] else Quoting.traced s.value)

def restoreAll (before : Bindings) (settings : List Settled) : Session Unit :=
  modify fun m =>
    let bindings := settings.foldl (fun bs s => bs.restore s.name (before.find? s.name)) m.bindings
    let forgets := settings.any fun s => s.name == "PATH".toList
    { m with bindings, remembered := if forgets then [] else m.remembered }

/-- Sets variables for one step, as commands are given them, and gives them their values back. -/
def withVariables (settings : List Settled) (body : Session Unit) : Session Unit := do
  if settings.isEmpty then body
  else
    let before := (← get).bindings
    for s in settings do
      if ((← get).bindings.get s.name).readonly && !(← get).isStandard then
        Session.complain (s.name ++ ": readonly variable".toList)
        if (← get).hasFlag 'e' then throw (.exit 1)
      else
        s.perform
        Builtin.change s.name fun b => { b with exported := true }
    let outer := (← get).given
    modify fun m => { m with given := settings.map Settled.name ++ outer }
    tryFinally body do
      restoreAll before settings
      modify fun m => { m with given := outer }

/-! ### The trace -/

def traceFront (e : Engine) : Session Octets := do
  let m ← get
  let text := (m.text? "PS4").getD []
  let (word, heres) := Reader.lineWord m.dialect m.heres text
  set { m with heres }
  modify fun m => m.setFlag false 'x'
  let front ← expandLines e word
  modify fun n => { n with flags := m.flags, substituted := m.substituted, status := m.status }
  pure (match m.dialect, front with
    | .extended, c :: rest => List.replicate m.level c ++ rest
    | _, front => front)

def trace (e : Engine) (line : Octets) : Session Unit := do
  if (← get).hasFlag 'x' then
    let m ← get
    let chosen := if m.isStandard then none else (m.text? "BASH_XTRACEFD").bind descriptorNumber?
    let _ ← Session.put (chosen.getD 2) ((← traceFront e) ++ line ++ ['\n'])

def tracedWords (d : Dialect) (words : List Octets) : Octets :=
  joinOctets [' '] (match d with
    | .standard => words
    | .extended => words.map Quoting.traced)

/-! ### Calls -/

/-- How deep functions may call each other in the standard dialect. -/
def callBound : Nat := 1000

def checkNesting (name : Octets) : Session Unit := do
  let m ← get
  let depth := m.frames.length
  if m.isStandard then
    if depth ≥ callBound then
      Session.abort "Maximum function recursion depth (1000) reached".toList
  else
    let bound := ((m.text? "FUNCNEST").bind narrow?).getD 0
    if 0 < bound && bound ≤ depth then
      Session.abort (name ++ ": maximum function nesting level exceeded (".toList ++
        Octets.ofInt bound ++ [')'])

def callFunction (e : Engine) (run : Runner) (name : Octets) (body : Command)
    (arguments : List Octets) : Session Unit := do
  checkNesting name
  let before ← get
  let keeps (t : String × Octets) : Bool :=
    before.isStandard || before.keepsEvent (before.tracedFunctions.contains name) t.1
  let source := (before.functionSources.lookup name).getD before.source
  set { before with parameters := arguments, loops := 0, frames := {} :: before.frames,
                    calls := { name, line := before.line, source } :: before.calls,
                    traps := before.traps.filter keeps, final := false }
  let result ← Session.observe do
    if !before.isStandard then onEvent e "DEBUG"
    run body
  match result with
  | .ok () | .error (.back _) => if !before.isStandard then onEvent e "RETURN"
  | _ => pure ()
  modify fun m =>
    let frame : Frame := m.frames.head?.getD {}
    let restored := frame.saved.foldl (fun bs (name, b) => bs.restore name b) m.bindings
    let lost := before.traps.filter fun t => !keeps t && (m.traps.lookup t.1).isNone
    { m with parameters := before.parameters, loops := before.loops, frames := m.frames.tail,
             calls := before.calls, bindings := restored, flags := frame.flags.getD m.flags,
             traps := lost ++ m.traps }
  match result with
  | .error (.back n) => Session.setStatus n
  | .error flow => throw flow
  | .ok () => pure ()

/-- Runs a command of the shell itself. One that fails may end the shell, if it is special. -/
def performBuiltin (special : Bool) (name : Octets) (body : Session Unit) : Session Unit := do
  let before ← get
  set { before with running := some name, unwritten := none,
                    final := before.final && name == "exec".toList }
  let result ← Session.observe body
  let m ← get
  match m.unwritten, m.dialect with
  | none, _ => pure ()
  | some _, .standard => do
    set { m with running := some name }
    Session.complain (name ++ ": I/O error".toList)
    modify fun m => { m with status := Nat.lor m.status 1 }
  | some f, .extended => do
    Session.complain (name ++ ": write error: ".toList ++ f.message.toList)
    Session.setStatus 1
  modify fun m => { m with running := before.running, unwritten := before.unwritten }
  match result with
  | .error (.fault n) => if m.isStandard && special then throw (.fault n) else Session.setStatus n
  | .error flow => throw flow
  | .ok () => pure ()

def evaluateText (run : Runner) : Builtin := fun args => do
  let m ← get
  let args := match m.dialect, args with
    | .extended, ['-', '-'] :: rest => rest
    | _, args => args
  match m.dialect, args with
  | .extended, ('-' :: c :: _) :: _ =>
    Builtin.misuse ('-' :: c :: ": invalid option".toList) " [arg ...]"
  | _, args =>
    let line := if m.isStandard then 1 else m.line
    reading "eval".toList
      (runScript run { text := joinOctets [' '] args, line, shown := !m.isStandard
                       resumes := !m.isStandard })

def sourceFile (e : Engine) (run : Runner) : Builtin := fun args => do
  let m ← get
  let args := match args with
    | ['-', '-'] :: rest => rest
    | args => args
  match args, m.dialect with
  | [], .standard => Session.setStatus 0
  | [], .extended => Builtin.misuse "filename argument required".toList " filename [arguments]"
  | path :: parameters, d =>
    let candidates := if path.contains '/' then [path]
      else Files.candidates ((m.text? "PATH").getD []) path ++
        (if d matches .extended then [path] else [])
    let isFile (p : Octets) : Bool := match m.files.find p with
      | .ok .directory => path.contains '/'
      | .ok _ => true
      | .error _ => false
    let perform (text : Octets) (found : Octets) : Session Unit := do
      let m ← get
      let extended := d matches .extended
      let keeps (t : String × Octets) : Bool := t.1 != "DEBUG" || m.keepsEvent false t.1
      let calling : Calling :=
        { name := "source".toList, line := m.line, source := path, isFile := true }
      let given := if extended && !parameters.isEmpty then some parameters else none
      set { m with sourcing := true
                   running := if extended then m.running else some found
                   parameters := given.getD m.parameters
                   calls := if extended then calling :: m.calls else m.calls
                   traps := if extended then m.traps.filter keeps else m.traps }
      let result ← Session.observe (reading [] (runScript run { text, resumes := extended }))
      match result with
      | .ok () | .error (.back _) => if extended then onEvent e "RETURN"
      | _ => pure ()
      modify fun n =>
        let lost := m.traps.filter fun t =>
          extended && !keeps t && (n.traps.lookup t.1).isNone
        { n with sourcing := m.sourcing, running := m.running, calls := m.calls
                 parameters := if given.isSome then m.parameters else n.parameters
                 traps := lost ++ n.traps }
      match result with
      | .error (.back n) => Session.setStatus n
      | .error flow => throw flow
      | .ok () => pure ()
    match candidates.find? isFile with
    | none =>
      match d with
      | .standard =>
        if path.contains '/' then Session.abort ("cannot open ".toList ++ path ++ ": No such file".toList)
        else Session.abort (path ++ ": not found".toList)
      | .extended => do
        let f := match m.files.find path with
          | .error f => f
          | .ok _ => .missing
        Session.complain (path ++ ": ".toList ++ f.message.toList)
        Session.setStatus 1
    | some found =>
      match m.files.find found with
      | .ok (.document content) => perform content.content found
      | .ok (.device (.descriptor n)) => do
        perform ((← Session.readAll n).toOption.getD []) found
      | .ok .directory =>
        match d with
        | .standard => Session.setStatus 0
        | .extended => Builtin.abort (path ++ ": is a directory".toList)
      | _ => perform [] found

/-! ### Programs -/

def runExternal (e : Engine) (run : Runner) (command : Octets) (arguments : List Octets)
    (name : Option Octets) : Session Unit := do
  let m ← get
  let final := m.final && (m.traps.all fun t => t.2.isEmpty) && m.receivers.isEmpty
  set { m with final }
  let ended : Session Unit := do
    match final, (← get).killed with
    | true, some signal => throw (.killed signal)
    | _, _ => pure ()
  let refuse (status : Nat) (text : String) : Session Unit := do
    Session.complain (command ++ ": ".toList ++ text.toList)
    Session.setStatus status
  let slash := command.contains '/'
  let searchPath := (m.text? "PATH").getD []
  let environment := Builtin.environment { m with final }
  let environment := if m.isStandard || m.replaces then environment
    else Builtin.withEntry environment "_".toList ((Builtin.programPath? m command).getD command)
  let known := if m.isStandard then none else m.remembered? command
  let place := (known.map Remembered.path).getD command
  if known.isNone then
    if let some path := Builtin.programPath? m command then Builtin.remember command path
  Builtin.countUse command
  match m.files.launch searchPath place arguments, m.dialect with
  | .ok l, _ => do
    let l := { l with name := name.getD (if l.name == place then command else l.name) }
    Session.setStatus (← runLaunch e run launchBound environment l)
    ended
  | .error (.plainText path content), d => do
    Session.setStatus (← freshShell e run d environment path arguments
      {} { text := content, resumes := d = .extended })
    ended
  | .error .missing, .standard | .error .notDirectory, .standard =>
    refuse 127 (if command.isEmpty then "Permission denied" else "not found")
  | .error .tooManyLinks, .standard => refuse 127 "Too many levels of symbolic links"
  | .error .forbidden, .standard => refuse (if slash then 126 else 127) "Permission denied"
  | .error f, .extended =>
    if known.isSome then
      Session.complain (place ++ ": No such file or directory".toList)
      Session.setStatus 127
    else if !slash then
      refuse 127 (if (m.text? "PATH").isSome then "command not found" else "No such file or directory")
    else match m.files.find command with
      | .error f => refuse (if f matches .missing then 127 else 126) f.message
      | .ok .directory => refuse 126 "Is a directory"
      | .ok _ =>
        match f with
        | .missing | .notDirectory => refuse 127 "cannot execute: required file not found"
        | .tooManyLinks => refuse 126 "Too many levels of symbolic links"
        | _ => refuse 126 "Permission denied"

def replaceShell (e : Engine) (run : Runner) : Builtin := fun args => do
  let m ← get
  let o ← match m.dialect with
    | .standard => pure ({ operands := Builtin.withoutDashes args } : Builtin.Options)
    | .extended =>
      Builtin.options "cla:" false " [-cl] [-a name] [command [argument ...]] [redirection ...]" args
  match o.operands with
  | [] => Session.setStatus 0
  | command :: arguments =>
    let refuse (status : Nat) (text : Octets) : Session Unit := do
      Session.complain text
      throw (.exit status)
    let searchPath := (m.text? "PATH").getD []
    let absolute := if command.head? == some '/' then command
      else (if m.directory == ['/'] then [] else m.directory) ++ '/' :: command
    let absolute := match command with
      | '.' :: '/' :: rest => (if m.directory == ['/'] then [] else m.directory) ++ '/' :: rest
      | _ => absolute
    match m.files.launch searchPath command arguments, m.dialect with
    | .ok _, _ | .error (.plainText ..), _ => do
      set { m with running := none, traps := [], final := true, replaces := true }
      runExternal e run command arguments (o.value? 'a')
      modify fun m => { m with traps := [] }
      throw (.exit (← get).status)
    | .error .forbidden, .standard => refuse 126 (command ++ ": Permission denied".toList)
    | .error _, .standard => refuse 127 (command ++ ": not found".toList)
    | .error f, .extended =>
      if !command.contains '/' then refuse 127 ("exec: ".toList ++ command ++ ": not found".toList)
      else
        let found := m.files.find command
        let lost := f matches .missing
        match found with
        | .error f =>
          refuse (if lost then 127 else 126) (absolute ++ ": ".toList ++ f.message.toList)
        | .ok entry => do
          let text := if entry matches .directory then "Is a directory"
            else if lost then "cannot execute: required file not found"
            else "Permission denied"
          Session.complain (absolute ++ ": ".toList ++ text.toList)
          if lost then throw (.exit 127)
          else refuse 126 ("exec: ".toList ++ absolute ++ ": cannot execute: ".toList ++ text.toList)

/-! ### Commands of the shell itself -/

def commonBuiltins (e : Engine) (run : Runner) : List (String × Builtin) := [
  (":", fun _ => Session.setStatus 0), ("exit", Builtin.endShell),
  ("return", Builtin.endFunction), ("break", Builtin.loopControl .leave),
  ("continue", Builtin.loopControl .again), ("shift", Builtin.shift), ("set", Builtin.setFlags),
  ("unset", Builtin.unset), ("trap", Builtin.trap), ("times", Builtin.times),
  ("eval", evaluateText run), (".", sourceFile e run), ("exec", replaceShell e run),
  ("true", fun _ => Session.setStatus 0), ("false", fun _ => Session.setStatus 1),
  ("echo", Builtin.echo), ("printf", Builtin.printf), ("test", Builtin.test false),
  ("[", Builtin.test true), ("read", Builtin.read), ("cd", Builtin.changeDirectory),
  ("pwd", Builtin.showDirectory), ("getopts", Builtin.nextScriptOption),
  ("umask", Builtin.mask), ("ulimit", Builtin.limit), ("alias", Builtin.aliases),
  ("unalias", Builtin.dropAliases), ("type", Builtin.describe), ("hash", Builtin.hash),
  ("wait", Builtin.wait), ("kill", Builtin.kill e), ("jobs", Builtin.jobs),
  ("fg", Builtin.resume), ("bg", Builtin.resume)]

def proposer (e : Engine) (run : Runner) : Proposer where
  items := itemsOfText e
  evaluate text := evaluateText run [text]
  output text := substitute e (evaluateText run [text])

def extendedBuiltins (e : Engine) (run : Runner) : List (String × Builtin) := [
  ("source", sourceFile e run), ("let", Builtin.calculate), ("shopt", Builtin.namedOption),
  ("mapfile", Builtin.readLines e), ("readarray", Builtin.readLines e),
  ("pushd", Builtin.pushDirectory), ("popd", Builtin.popDirectory),
  ("dirs", Builtin.directories), ("bind", fun _ => Session.setStatus 0),
  ("caller", Builtin.caller),
  ("compgen", Builtin.propose (proposer e run)), ("complete", Builtin.complete),
  ("compopt", Builtin.changeRequest), ("disown", Builtin.disown),
  ("enable", Builtin.enable), ("fc", fun _ => Session.setStatus 0),
  ("help", fun _ => Session.setStatus 0), ("history", fun _ => Session.setStatus 0),
  ("logout", fun _ => Builtin.abort "not login shell: use \x60exit'".toList),
  ("suspend", fun _ => Builtin.abort "cannot suspend: no job control".toList)]

def builtinAction? (e : Engine) (run : Runner) (m : Machine) (name : String) :
    Option (List Operand → Session Unit) :=
  let plain (b : Builtin) : List Operand → Session Unit := fun os => b (Builtin.texts os)
  if m.disabled.contains name then none
  else match m.dialect with
  | .standard =>
    match name with
    | "export" => some (plain (Builtin.mark "export" Binding.exported fun b =>
        { b with exported := true }))
    | "readonly" => some (plain (Builtin.mark "readonly" Binding.readonly fun b =>
        { b with readonly := true }))
    | "local" => some (plain Builtin.localStandard)
    | "chdir" => some (plain Builtin.changeDirectory)
    | name => ((commonBuiltins e run).lookup name).map plain
  | .extended =>
    if (declaringNames .extended).contains name then some (Builtin.declare (itemsOfText e) name)
    else (((commonBuiltins e run).lookup name).or ((extendedBuiltins e run).lookup name)).map plain

/-- A call of a command, with what stands in front of its name taken off. -/
structure Call where
  name : Octets
  operands : List Operand
  skipsFunctions : Bool := false
  builtinOnly : Bool := false
  standardPath : Bool := false
  looks : Option Bool := none
  fault : Option Char := none

/-- Takes off the words in front of a command that say how to look for it. -/
def Call.ofOperands (m : Machine) : Nat → List Operand → Call → Call
  | 0, _, c => c
  | _, [], c => c
  | fuel + 1, first :: rest, c =>
    let c := { c with name := first.text, operands := rest }
    let hidden := !c.skipsFunctions && (m.functions.lookup first.text).isSome
    if first.text == "command".toList && !hidden && !rest.isEmpty then
      let rec flags : Nat → List Operand → Call → Call × List Operand
        | 0, os, c => (c, os)
        | fuel + 1, os, c =>
          match os with
          | ⟨['-', '-'], _⟩ :: os => (c, os)
          | ⟨'-' :: letter :: letters, _⟩ :: os =>
            let c := (letter :: letters).foldl (fun c l => match l with
              | 'p' => { c with standardPath := true }
              | 'v' => { c with looks := some true }
              | 'V' => { c with looks := some false }
              | l => { c with fault := c.fault.or (some l) }) c
            flags fuel os c
          | os => (c, os)
      let (c, os) := flags (rest.length + 1) rest { c with skipsFunctions := true }
      if c.fault.isSome || c.looks.isSome || os.isEmpty then { c with operands := os }
      else ofOperands m fuel os c
    else if first.text == "builtin".toList && !m.isStandard && !hidden && !rest.isEmpty then
      ofOperands m fuel rest { c with skipsFunctions := true, builtinOnly := true }
    else c

def Call.isSpecial (m : Machine) (c : Call) : Bool :=
  m.isStandard && !c.skipsFunctions && Builtin.specialNames.contains (String.ofList c.name)

def Call.perform (e : Engine) (run : Runner) (settings : List Settled) (c : Call) :
    Session Unit := do
  let m ← get
  let name := String.ofList c.name
  let special := c.isSpecial m
  let usageText := " [-pVv] command [arg ...]"
  if c.name == "command".toList && (c.fault.isSome || c.looks.isSome || c.operands.isEmpty) &&
      (c.skipsFunctions || (m.functions.lookup c.name).isNone) then
    performBuiltin false c.name do
      match c.fault, c.looks with
      | some l, _ =>
        if m.isStandard then Builtin.abort ("Illegal option -".toList ++ [l])
        else Builtin.misuse ('-' :: l :: ": invalid option".toList) usageText
      | none, some brief => do
        if c.standardPath && !m.isStandard then
          let bindings := m.bindings.setText "PATH".toList "/bin:/usr/bin".toList
          modify fun m => { m with bindings }
          Builtin.locate brief (Builtin.texts c.operands)
          modify fun n => { n with bindings := m.bindings }
        else Builtin.locate brief (Builtin.texts c.operands)
      | none, none => Session.setStatus 0
  else if c.name == "builtin".toList && !m.isStandard && c.operands.isEmpty then
    Session.setStatus 0
  else
    let function := if c.skipsFunctions || special then none else m.functions.lookup c.name
    match function, builtinAction? e run m name with
    | some body, _ =>
      withVariables settings
        (callFunction e run c.name body (Builtin.texts c.operands))
    | none, some action =>
      let keeps := m.isStandard && Builtin.specialNames.contains name
      if keeps && !c.skipsFunctions then
        for s in settings do s.perform
        performBuiltin special c.name (action c.operands)
      else withVariables settings (performBuiltin special c.name (action c.operands))
    | none, none =>
      if c.builtinOnly then
        performBuiltin false "builtin".toList
          (Builtin.abort (c.name ++ ": not a shell builtin".toList))
      else
        withVariables settings do
          let external := runExternal e run c.name (Builtin.texts c.operands) none
          if c.standardPath then
            let before := (← get).bindings
            Session.assign "PATH".toList Files.standardPath
            external
            let own := before.find? "PATH".toList
            modify fun m => { m with bindings := m.bindings.restore "PATH".toList own }
          else external

/-! ### Simple commands -/

/-- Runs a simple command in the standard dialect: its words are expanded, its redirections opened,
and its variables set, in this order. -/
def runSimpleStandard (e : Engine) (run : Runner) (settings : List Setting) (words : List Word)
    (redirections : List Redirection) : Session Unit := do
  let operands ← expandOperands e words
  let before := (← get).descriptors
  let report (settled : List Settled) : Session Unit := do
    if (← get).hasFlag 'x' then
      let shown := settled.map (Settled.shown .standard) ++ Builtin.texts operands
      let line := (← traceFront e) ++ tracedWords .standard shown ++ ['\n']
      Session.keepingDescriptors do
        Session.setDescriptor 2 (before.lookup 2)
        Session.err line
  match operands with
  | [] => do
    let opened ← Session.keepingDescriptors do
      if ← redirect e redirections then
        let settled ← settings.mapM fun s => do
          let s ← settledOf e s
          s.perform
          pure s
        if !settled.isEmpty then report settled
        pure true
      else pure false
    let m ← get
    Session.setStatus (if opened then m.substituted else 2)
  | _ => do
    let m ← get
    let c := Call.ofOperands m operands.length operands { name := [], operands := [] }
    let perform : Session Unit := do
      if ← redirect e redirections then
        let kept := (← get).bindings
        let settled ← settings.mapM fun s => do
          let s ← settledOf e s
          s.perform
          pure s
        report settled
        restoreAll kept settled
        c.perform e run settled
      else if c.isSpecial m then throw (.fault 2)
      else Session.setStatus 2
    if c.name == "exec".toList && (m.functions.lookup c.name).isNone then perform
    else Session.keepingDescriptors perform
  checkStatus e

/-- Runs a simple command in the extended dialect: its words are expanded, its variables set, and its
redirections opened, in this order. -/
def runSimpleExtended (e : Engine) (run : Runner) (settings : List Setting) (words : List Word)
    (redirections : List Redirection) : Session Unit := do
  let operands ← expandOperands e words
  match operands with
  | [] => do
    for s in settings do
      let s ← settledOf e s
      trace e (s.shown .extended)
      s.perform
    let opened ← Session.keepingDescriptors (redirect e redirections)
    let m ← get
    Session.setStatus (if opened then m.substituted else 1)
  | _ => do
    let kept := (← get).bindings
    let settled ← settings.mapM fun s => do
      let s ← settledOf e s
      trace e (s.shown .extended)
      if !((← get).bindings.get s.name).readonly then s.perform
      pure s
    restoreAll kept settled
    trace e (tracedWords .extended (Builtin.texts operands))
    let m ← get
    let c := Call.ofOperands m operands.length operands { name := [], operands := [] }
    let perform : Session Unit := do
      if ← redirect e redirections then c.perform e run settled else Session.setStatus 1
    if c.name == "exec".toList && (m.functions.lookup c.name).isNone then perform
    else Session.keepingDescriptors perform
    let last := (operands.getLast?.map Operand.text).getD []
    modify fun m => { m with lastWord := last }
  checkStatus e

def runSimple (e : Engine) (run : Runner) (command : Command) (line : Nat)
    (settings : List Setting) (words : List Word) (redirections : List Redirection) :
    Session Unit := do
  modify fun m => { m with line, substituted := 0 }
  announce e command
  match (← get).dialect with
  | .standard => runSimpleStandard e run settings words redirections
  | .extended => runSimpleExtended e run settings words redirections
  Session.receiveAll e

/-! ### Loops and choices -/

def loopBody (body : Session Unit) : Session Bool := do
  match ← Session.observe body with
  | .ok () => pure true
  | .error (.leave n) => if n > 1 then throw (.leave (n - 1)) else pure false
  | .error (.again n) => if n > 1 then throw (.again (n - 1)) else pure true
  | .error flow => throw flow

def insideLoop (body : Session Unit) : Session Unit := do
  let before := (← get).loops
  modify fun m => { m with loops := before + 1 }
  tryFinally body (modify fun m => { m with loops := before })

def runLoop (run : Runner) (untilSuccess : Bool) (test body : Command) : Session Unit :=
  insideLoop do
    Session.rounds Session.roundBound 0 fun last => do
      if !(← loopBody (Session.looking (run test))) then return .error (← get).status
      else if ((← get).status == 0) == untilSuccess then pure (.error last)
      else if ← loopBody (run body) then return .ok (← get).status
      else return .error (← get).status

def runEach (round : Octets → Session Unit) : List Octets → Session Unit
  | [] => pure ()
  | value :: rest => do
    if ← loopBody (round value) then runEach round rest

def indentation : Nat → Nat → Nat → Octets
  | 0, _, _ => []
  | fuel + 1, start, stop =>
    if stop ≤ start then []
    else if stop / 8 > start / 8 then '\t' :: indentation fuel (start + 8 - start % 8) stop
    else ' ' :: indentation fuel (start + 1) stop

def menu (columns : Nat) (items : List Octets) : Octets :=
  let count := items.length
  let places (n : Nat) : Nat := (Octets.ofNat n).length
  let width := (items.map List.length).foldl max 0 + places count + 4
  let across := max 1 (columns / width)
  let rows := (count + across - 1) / across
  let (rows, across) := if rows = 1 then (count, 1) else (rows, (count + rows - 1) / rows)
  (List.range rows).flatMap fun row =>
    let cells := (List.range across).filterMap fun column =>
      (items[row + column * rows]?).map fun item =>
        let number := Octets.ofNat (row + column * rows + 1)
        padLeft (places (if column = 0 then rows else count)) number ++ ") ".toList ++ item
    let line := cells.zipIdx.foldl (fun (line : Octets × Nat) (cell, column) =>
      let start := column * width
      (line.1 ++ indentation width line.2 start ++ cell, start + cell.length)) ([], 0)
    line.1 ++ ['\n']

/-- Asks for an item of a menu; there is none at the end of the input. With `shows` the menu is
written first. -/
def askItem (items : List Octets) : Nat → Bool → Session (Option Octets)
  | 0, _ => throw .exhausted
  | fuel + 1, shows => do
    let m ← get
    let columns := match (m.text? "COLUMNS").bind narrow? with
      | some n => if n ≤ 0 then 80 else n.toNat
      | none => 80
    Session.err ((if shows then menu columns items else []) ++ (m.text? "PS3").getD "#? ".toList)
    Builtin.readLine 0 {} false none []
    let m ← get
    let reply := (m.text? "REPLY").getD []
    if m.status != 0 then
      Session.out ['\n']
      pure none
    else if reply.isEmpty then askItem items fuel true
    else match narrow? reply with
      | some n =>
        if n < 1 then pure (some [])
        else pure (some ((items[n.toNat - 1]?).getD []))
      | none => pure (some [])

def runSelect (name : Octets) (items : List Octets) (body : Session Unit) : Nat → Bool → Session Unit
  | 0, _ => throw .exhausted
  | fuel + 1, shows => do
    match ← askItem items Session.roundBound shows with
    | none => Session.setStatus 1
    | some item =>
      if ((← get).bindings.get name).readonly then
        Session.complain (name ++ ": readonly variable".toList)
        Session.setStatus 1
      else do
        Session.assign name item
        if ← loopBody body then
          let shows := ((← get).text? "REPLY") == some []
          runSelect name items body fuel shows

def controlValue (e : Engine) (text : Word) (standard : Int) : Session Int := do
  let t ← expandLines e text
  if t.all isBlankOctet then pure standard
  else do
    trace e ("(( ".toList ++ t ++ " ))".toList)
    match ← Session.tryCalculate t with
    | .ok n => pure n.toInt
    | .error f => Session.refuseCalculation "((: ".toList f

def runCount (e : Engine) (run : Runner) (start test step : Word) (body : Command) :
    Session Unit := do
  let _ ← controlValue e start 1
  insideLoop do
    Session.rounds Session.roundBound 0 fun last => do
      if (← controlValue e test 1) = 0 then pure (.error last)
      else if ← loopBody (run body) then do
        let status := (← get).status
        let _ ← controlValue e step 1
        pure (.ok status)
      else return .error (← get).status

/-- Runs the arms with a pattern that fits, as far as their ends say. -/
def runArms (e : Engine) (run : Runner) (subject : Octets) : Bool → List Arm → Session Unit
  | _, [] => pure ()
  | running, .mk patterns _ body next :: rest => do
    let fits ← if running then pure true else patterns.anyM fun w => do
      let m ← get
      let p := Pattern.ofMarked m.rules (← expandPattern e w)
      pure ({ p with anyCase := m.hasOption "nocasematch" }.fits subject)
    if !fits then runArms e run subject false rest
    else do
      run body
      match next with
      | .leave => pure ()
      | .run => runArms e run subject true rest
      | .try => runArms e run subject false rest

/-! ### Conditions -/

/-- The pattern of a regular expression: quoted characters stand for themselves. -/
def regexText (marked : List Glob.Marked) : Octets :=
  marked.flatMap fun (c, quoted) =>
    if quoted && "\\^$.[]|()*+?\x7b\x7d".toList.contains c then ['\\', c] else [c]

def foundParts (text : Array Char) (groups start : Nat) (p : Regex.Place) : List (Nat × Octets) :=
  let part (a b : Nat) : Octets := Octets.ofCharacters (text.extract a b).toList
  (0, part start p.position) :: (List.range groups).map fun n =>
    (n + 1, match p.groups.lookup (n + 1) with
      | some (a, b) => part a b
      | none => [])

def holds (e : Engine) : Nat → Test → Session Bool
  | 0, _ => throw .exhausted
  | fuel + 1, t => do
    let m ← get
    match t with
    | .not t => do
      return !(← holds e fuel t)
    | .and a b => do
      if ← holds e fuel a then holds e fuel b else pure false
    | .or a b => do
      if ← holds e fuel a then pure true else holds e fuel b
    | .group t => holds e fuel t
    | .word w _ => do
      let text ← expandText e w
      trace e ("[[ -n ".toList ++ shown text ++ " ]]".toList)
      pure !text.isEmpty
    | .unary op w _ => do
      let text ← expandText e w
      trace e ("[[ ".toList ++ op ++ ' ' :: shown text ++ " ]]".toList)
      let c : Counted := ⟨.shell .extended, Builtin.surroundings (← get), none⟩
      match c.testUnary op text with
      | .ok b => pure b
      | .error _ => pure false
    | .binary op left right _ => do
      let a ← expandText e left
      match String.ofList op with
      | "=" | "==" | "!=" => do
        let marked ← expandPattern e right
        let m ← get
        trace e ("[[ ".toList ++ shown a ++ ' ' :: op ++ ' ' :: tracedPattern marked ++ " ]]".toList)
        let p := { Pattern.ofMarked { m.rules with groups := true } marked with
          anyCase := m.hasOption "nocasematch" }
        pure (p.fits a != (op == "!=".toList))
      | "=~" => do
        let marked ← expandPattern e right
        trace e ("[[ ".toList ++ shown a ++ " =~ ".toList ++ marked.map Prod.fst ++ " ]]".toList)
        match Regex.ofText { extended := true } (regexText marked).characters with
        | .error _ => throw (.fault 2)
        | .ok (r, groups) =>
          let anyCase := m.hasOption "nocasematch"
          let seen := a.characters.toArray
          let matching : Regex.Matching := { text := seen, anyCase }
          match r.find? matching 0 with
          | some (start, p) => do
            Builtin.change "BASH_REMATCH".toList fun b =>
              { b with value := some (.items (foundParts seen groups start p)) }
            pure true
          | none => do
            Builtin.change "BASH_REMATCH".toList fun b => { b with value := some (.items []) }
            pure false
      | name => do
        let b ← expandText e right
        trace e ("[[ ".toList ++ shown a ++ ' ' :: op ++ ' ' :: shown b ++ " ]]".toList)
        if ["-eq", "-ne", "-lt", "-le", "-gt", "-ge"].contains name then
          let x ← number a
          let y ← number b
          pure (match name with
            | "-eq" => x == y
            | "-ne" => x != y
            | "-lt" => decide (x < y)
            | "-le" => decide (x ≤ y)
            | "-gt" => decide (y < x)
            | _ => decide (y ≤ x))
        else
          let c : Counted := ⟨.shell .extended, Builtin.surroundings (← get), none⟩
          match c.testBinary op a b with
          | .ok b => pure b
          | .error _ => pure false
where
  shown (t : Octets) : Octets :=
    Quoting.traced t
  tracedPattern (marked : List Glob.Marked) : Octets :=
    if marked.isEmpty then ['\'', '\'']
    else marked.flatMap fun (c, quoted) => if quoted then ['\\', c] else [c]
  number (text : Octets) : Session Int := do
    if text.all isBlankOctet then pure 0
    else match ← Session.tryCalculate text with
      | .ok n => pure n.toInt
      | .error f => do
        Session.complain ("[[: ".toList ++ f.text)
        throw (.fault 1)

/-! ### All commands -/

def announceBeside (e : Engine) (body : Command) : Session Unit := do
  if let .simple line .. := body then
    if !(← get).isStandard then
      modify fun m => { m with line, announced := false }
      announce e body
      modify fun m => { m with announced := true }

/-- How much is made at first of a text that never ends, as its reader mostly needs little of it. -/
def nearReach : Nat := 131072

structure PipeTrial where
  statuses : List Nat
  pieces : List Writing
  unread : Nat
  start : Nat
  duration : Nat

namespace PipeTrial

def size : Nat := 65536

/-- How many microseconds it takes at most to write what comes at once. -/
def haste : Nat := 5000

def waits : List Writing → List Nat
  | a :: b :: rest =>
    let more := waits (b :: rest)
    if a.time + haste < b.time then
      ((b :: rest).map fun w => w.text.length).foldl (· + ·) 0 :: more
    else more
  | _ => []

def written (t : PipeTrial) : Nat :=
  (t.pieces.map fun w => w.text.length).foldl (· + ·) 0

/-- How much the writer can write, if that is less than it has written: it waits where the pipe is full,
and once the reader is gone it ends with its next write. -/
def bound? (t : PipeTrial) : Option Nat :=
  if t.unread = 0 then none
  else
    let read := t.written - t.unread
    let (seen, last) := t.pieces.foldl (fun ((n, last) : Nat × Nat) w =>
      if n < read then (n + w.text.length, max last w.time) else (n, last)) (0, t.start)
    let late := (t.pieces.foldl (fun ((n, found) : Nat × Option Nat) w =>
      (n + w.text.length, found.or
        (if seen ≤ n && last + t.duration + haste < w.time then some n else none)))
      ((0, none) : Nat × Option Nat)).2
    let full := if size < t.unread || nearReach ≤ t.written then some (read + size) else none
    match late, full with
    | some a, some b => some (min a b)
    | a, b => a.or b

end PipeTrial

/-- Runs the stages of a pipe, each on what the one before it has written, and gives their statuses. What
a writer writes depends on how much is read of it; so it runs again where that turns out to be less. -/
def runStages (e : Engine) (run : Runner) : Option Nat → List Command → Session (List Nat)
  | _, [] => pure []
  | input, stage :: rest => do
    let body : Session Unit := do
      if input.isSome then Session.setDescriptor 0 input
      modify fun m => { m with isStage := true }
      run stage
    announceBeside e stage
    let inScript := (← get).inScript
    let body : Session Unit := do
      if stage matches .simple .. then
        modify fun m => { m with inScript, traps := m.traps.filter (·.1 != "ERR") }
      body
    match rest with
    | [] => do
      let status ← Session.keepingDescriptors (isolated e body)
      modify fun m => { m with announced := false }
      Session.announce (← get).started []
      return [status]
    | _ => do
      let before ← get
      let attempt (bound : WriteBound) : Session PipeTrial := do
        set before
        let (status, pieces) ← Session.collectPieces bound (isolated e body)
        modify fun m => { m with announced := false }
        if (← get).isStandard then Session.announce (← get).started []
        else modify fun m => { m with killed := none }
        let next ← Session.openText (pieces.flatMap Writing.text) (PipeTrial.waits pieces)
        let start := (← get).clock
        let statuses ← runStages e run (some next) rest
        let after ← get
        let unread := match (after.streams[next]?).map OpenFile.stream with
          | some (.source text _) => text.length
          | _ => 0
        pure { statuses := status :: statuses, pieces, unread, start := before.clock
               duration := after.clock - start }
      let first ← attempt { loose := nearReach }
      let all ←
        if first.unread = 0 && nearReach ≤ first.written then attempt { loose := Invocation.farReach }
        else pure first
      match all.bound? with
      | none => pure all.statuses
      | some most => do
        let last ← attempt { loose := Invocation.farReach, strict := some most }
        /- A writer that ends early does not read much more of its own input than it has written. -/
        if let some i := input then
          if let some ⟨.source text waits, reads, writes⟩ := before.streams[i]? then
            let left : OpenFile := ⟨.source (text.drop most) waits, reads, writes⟩
            modify fun m => { m with streams := m.streams.modify i fun _ => left }
        pure last.statuses

/-- How long a command has taken, as a format says. Of the time that passes in a program nothing is
spent on calculating. -/
def timeText (format : String) (microseconds : Nat) : Octets :=
  let shown (digits : Nat) (long : Bool) (time : Nat) : Octets :=
    let rest := Octets.ofNat (time % 1000000 / Nat.pow 10 (6 - digits))
    let fraction := if digits = 0 then []
      else '.' :: List.replicate (digits - rest.length) '0' ++ rest
    if long then Octets.ofNat (time / 60000000) ++ 'm' :: Octets.ofNat (time / 1000000 % 60) ++
      fraction ++ ['s']
    else Octets.ofNat (time / 1000000) ++ fraction
  let rec go : Nat → Octets → Octets
    | 0, text => text
    | _, [] => ['\n']
    | fuel + 1, '%' :: '%' :: rest => '%' :: go fuel rest
    | fuel + 1, '%' :: 'P' :: rest => shown 2 false 0 ++ go fuel rest
    | fuel + 1, '%' :: rest =>
      let (digits, rest) := match rest with
        | c :: behind => if c.isDigit then (min 3 (c.toNat - 48), behind) else (3, rest)
        | [] => (3, [])
      let (long, rest) := match rest with
        | 'l' :: behind => (true, behind)
        | rest => (false, rest)
      match rest with
      | 'R' :: rest => shown digits long microseconds ++ go fuel rest
      | 'U' :: rest | 'S' :: rest => shown digits long 0 ++ go fuel rest
      | rest => '%' :: go fuel rest
    | fuel + 1, c :: rest => c :: go fuel rest
  if format.isEmpty then [] else go (format.length + 1) format.toList

/-- Catches the fault of an expression: the command fails, and the shell goes on. -/
def failing (body : Session Unit) : Session Unit := do
  match ← Session.observe body with
  | .error (.fault n) => Session.setStatus n
  | .error flow => throw flow
  | .ok () => pure ()

def step (run : Runner) : Runner := fun command => do
  let e := engine run
  let m ← get
  let standard := m.isStandard
  let last (body : Command) : Session Unit := do
    let isSimple := body matches .simple .. | .seq .. | .and .. | .or ..
    if standard || isSimple then modify fun n => { n with final := m.final }
    run body
  if !(command matches .simple ..) then set { m with final := false }
  if m.hasFlag 'n' then pure ()
  else match command with
    | .simple line settings words redirections _ => do
      if !standard && m.depth = 0 && !redirections.isEmpty then set { m with final := false }
      Session.closingChannels (runSimple e run command line settings words redirections)
      modify fun m => { m with final := false }
      let m ← get
      if m.killed.isSome then Session.announce m.started (commandText m.heres command)
      Session.feedReceivers e
      Session.feedWaiting e
    | .redirected line body redirections => do
      modify fun m => { m with line := if line = 0 then m.line else line }
      Session.closingChannels do
        Session.keepingDescriptors do
          if ← redirect e redirections then run body
          else Session.setStatus (if (← get).isStandard then 2 else 1)
      Session.feedReceivers e
      Session.feedWaiting e
      checkStatus e
    | .pipe stages => do
      let statuses ← runStages e run none stages
      Session.receiveAll e
      Session.feedWaiting e
      let last := statuses.getLast?.getD 0
      let m ← get
      let status := if m.hasOption "pipefail" && !m.isStandard
        then (statuses.reverse.find? (· != 0)).getD 0 else last
      set { m with status, stages := statuses }
      checkStatus e
    | .not body => do
      Session.looking (run body)
      Session.setStatus (if (← get).status = 0 then 1 else 0)
    | .timed portable body => do
      run body
      let after ← get
      let format := ((after.text? "TIMEFORMAT").map String.ofList).getD
        "\nreal\t%3lR\nuser\t%3lU\nsys\t%3lS"
      let format := if portable then "real %2R\nuser %2U\nsys %2S" else format
      Session.err (timeText format (after.clock - m.clock))
    | .and first second => do
      Session.looking (run first)
      if (← get).status = 0 then last second
    | .or first second => do
      Session.looking (run first)
      if (← get).status != 0 then last second
    | .seq first second => do
      run first
      last second
    | .background body => do
      announceBeside e body
      let inScript := m.inScript && body matches .simple ..
      Session.beside e body do
        modify fun m => { m with inScript, patient := true }
        Session.setDescriptor 0 (some (← Session.openFile ⟨.device .null, true, false⟩))
        run body
      modify fun m => { m with announced := false }
      Session.feedWaiting e
    | .subshell line body => do
      modify fun m => { m with line }
      if m.events.isEmpty then modify fun m => { m with current := command }
      Session.setStatus (← isolated e (run body))
      let m ← get
      Session.announce (m.started) (commandText m.heres command)
      Session.receiveAll e
      Session.feedWaiting e
      checkStatus e
    | .group body => if standard then last body else run body
    | .cond test yes no => do
      let last := if standard then last else run
      Session.looking (run test)
      if (← get).status = 0 then last yes
      else match no with
        | some no => last no
        | none => Session.setStatus 0
    | .loop untilSuccess test body => runLoop run untilSuccess test body
    | .each line name words written body => do
      modify fun m => { m with line }
      let values ← match words with
        | some ws => expandWords e ws
        | none => pure (← get).parameters
      Session.setStatus 0
      let shown := "for ".toList ++ name ++ " in ".toList ++ written
      if !(← get).isStandard && !isName name then
        Session.complain (inMessage name ++ ": not a valid identifier".toList)
        Session.setStatus 1
      else
        let round (value : Octets) : Session Unit := do
          announce e command
          if !(← get).isStandard then trace e shown
          Session.assign name value
          run body
        insideLoop do
          if (← get).isStandard then runEach round values
          else if ((← get).bindings.get name).readonly && !values.isEmpty then
            Session.complain (name ++ ": readonly variable".toList)
            Session.setStatus 1
          else runEach round values
    | .select line name words written body => do
      modify fun m => { m with line }
      if !isName name then
        Session.complain (inMessage name ++ ": not a valid identifier".toList)
        Session.setStatus 1
      else
        let items ← match words with
          | some ws => expandWords e ws
          | none => pure (← get).parameters
        announce e command
        trace e ("select ".toList ++ name ++ " in ".toList ++ written)
        Session.setStatus 0
        if !items.isEmpty then
          insideLoop (runSelect name items (run body) Session.roundBound true)
    | .count line start test next _ body => do
      modify fun m => { m with line }
      failing (runCount e run start test next body)
    | .choose line subject written arms => do
      modify fun m => { m with line }
      announce e command
      let text ← expandText e subject
      if !(← get).isStandard then
        trace e ("case ".toList ++ written ++ " in".toList)
      Session.setStatus 0
      runArms e run text false arms
    | .define line name body => do
      modify fun m => { m with line }
      if (← get).protectedFunctions.contains name then
        Session.complain (name ++ ": readonly function".toList)
        Session.setStatus 1
      else
        modify fun m =>
          let standsIn := match m.calls, m.script with
            | c :: _, _ => c.source
            | [], some _ => m.name
            | [], none => (if m.argument.isSome then "environment" else "main").toList
          { m with functions := (name, body) :: m.functions.filter (·.1 != name)
                   functionSources := (name, standsIn) :: m.functionSources.filter (·.1 != name) }
        Session.setStatus 0
    | .arithmetic line text _ => do
      modify fun m => { m with line }
      announce e command
      let t ← expandLines e text
      trace e ("(( ".toList ++ t ++ " ))".toList)
      failing do
        match ← Session.tryCalculate t with
        | .ok n => Session.setStatus (if n = 0 then 1 else 0)
        | .error f => Session.refuseCalculation "((: ".toList f
      checkStatus e
    | .test line t => do
      modify fun m => { m with line }
      announce e command
      failing do
        let b ← holds e 100000 t
        Session.setStatus (if b then 0 else 1)
      checkStatus e
    | .contents line file => do
      modify fun m => { m with line }
      Session.keepingDescriptors do
        if ← redirect e [file] then
          Session.out ((← Session.readAll 0).toOption.getD [])
          Session.setStatus 0
        else Session.setStatus 1
      checkStatus e
    | .nothing => Session.setStatus 0

/-- Runs a command whose constructs nest no deeper than a bound. -/
def run : Nat → Runner
  | 0 => fun _ => throw .exhausted
  | bound + 1 => step (run bound)

def nestingBound : Nat := 20000

end MediaPipeline.Shell
