import MediaPipeline.Program.Table
import MediaPipeline.Records.Running
import MediaPipeline.Shell.Builtin.Names
import MediaPipeline.Shell.Builtin.Settings
import MediaPipeline.Shell.Finding.Walk
import MediaPipeline.Shell.Redirecting
import MediaPipeline.Shell.Reading

/-!
Running installed programs: those that only read and write, those that start others, and the shells
themselves.
-/

namespace MediaPipeline.Shell

/-! ### Programs -/

def placeOf (m : Machine) (descriptor : Nat) : Option (Place × Nat) :=
  match (m.descriptors.lookup descriptor).bind fun i => m.streams[i]? with
  | some ⟨.document place position append, _, _⟩ =>
    let size := match m.files.at? place with
      | some (.document d) => d.content.length
      | _ => 0
    some (place, if append then size else position)
  | _ => none

/-- What the descriptors above the error output give where they are read. -/
def channels (m : Machine) : List (Nat × Octets) :=
  m.descriptors.filterMap fun (n, i) =>
    if n < 3 then none
    else match m.streams[i]? with
      | some ⟨.source rest _, true, _⟩ => some (n, rest)
      | some ⟨.document place _ _, true, _⟩ =>
        match m.files.at? place with
        | some (.document d) => some (n, d.content)
        | _ => none
      | _ => none

def invocation (environment : Environment) (l : Launch) : Session Invocation := do
  let m ← get
  let input := match ← Session.peekAll 0 with
    | .ok text => .ok text
    | .error f => .error f.message
  pure {
    name := l.name, arguments := l.arguments, input, fromFile := (placeOf m 0).isSome,
    channels := channels m,
    inputPlace := placeOf m 0, outputPlace := placeOf m 1, files := m.files, environment,
    mask := m.mask, reach := m.reach, time := m.clock }

/-- Writes what a program leaves behind, and gives its status. -/
def settle (program : String) (name : Octets) (o : Outcome) : Session Nat := do
  let plain := (← Session.isPlainFile 0)
  if let some files := o.files then modify fun m => { m with files }
  if let some n := o.consumed then
    if plain then Session.consume 0 n
    else Session.consumeBlocks 0 n o.block
  let write (text : Octets) : Session (Option StreamFault) :=
    if text.isEmpty then pure none else Session.put 1 text
  let first ← write (o.out.take o.early)
  Session.err o.err
  let second ← write (o.out.drop o.early)
  for (descriptor, text) in o.others do
    let _ ← Session.put descriptor text
  match first.or second with
  | none => pure o.status
  | some f => do
    let (text, status) := Program.writeFault program name (f == .badDescriptor) f.message
    Session.err text
    pure status

def starters : List (String × StartingProgram) := [
  ("env", Starting.env), ("xargs", Starting.xargs), ("timeout", Starting.timeout),
  ("nice", Starting.nice), ("find", Finding.find), ("awk", Records.program),
  ("mawk", Records.program), ("nawk", Records.program), ("stdbuf", Starting.buffered),
  ("nohup", Starting.startPlainly [] 125 (fun i => i.missingOperand 125) "failed to run command "
    Quoting.always),
  ("setsid", Starting.startPlainly (ProgramOption.letters "cfw") 1
    (fun i => i.fail 1 "no command specified".toList) "failed to execute " id)]

/-! ### Shells -/

def shellDialects : List (String × Dialect) := [
  ("sh", .standard), ("dash", .standard), ("bash", .extended), ("rbash", .extended)]

structure ShellCall where
  flags : List (Bool × Char) := []
  named : List (Bool × Octets) := []
  others : List (Bool × Octets) := []
  command : Bool := false
  input : Bool := false
  version : Bool := false
  operands : List Octets := []

def idleOptions : List String := [
  "debug", "debugger", "dump-po-strings", "dump-strings", "init-file", "login", "noediting",
  "noprofile", "norc", "posix", "pretty-print", "rcfile", "restricted", "verbose"]

def ShellCall.ofArguments (d : Dialect) : Nat → List Octets → ShellCall → Except Octets ShellCall
  | 0, args, call => .ok { call with operands := args }
  | _, [], call => .ok call
  | fuel + 1, arg :: rest, call =>
    let done : Except Octets ShellCall := .ok { call with operands := arg :: rest }
    match arg with
    | ['-'] | ['-', '-'] => .ok { call with operands := rest }
    | '-' :: '-' :: long =>
      if d = .standard then .error "Illegal option --".toList
      else if long == "version".toList || long == "help".toList then
        .ok { call with version := true }
      else if idleOptions.contains (String.ofList long) then
        let rest := if long == "rcfile".toList || long == "init-file".toList then rest.tail else rest
        ofArguments d fuel rest call
      else .error ('-' :: '-' :: long ++ ": invalid option".toList)
    | sign :: c :: cs =>
      if sign != '-' && sign != '+' then done
      else do
        let on := sign == '-'
        let known := (Builtin.optionTable d).filterMap Prod.snd ++
          (if d = .standard then "l".toList else "ilrsD".toList)
        let (call, rest) ← (c :: cs).foldlM (fun (call, rest) c => do
          match c, d, rest with
          | 'c', _, _ => pure ({ call with command := call.command || on }, rest)
          | 's', _, _ => pure ({ call with input := on }, rest)
          | 'o', _, name :: rest => pure ({ call with named := call.named ++ [(on, name)] }, rest)
          | 'O', .extended, name :: rest =>
            pure ({ call with others := call.others ++ [(on, name)] }, rest)
          | 'o', _, [] | 'O', .extended, [] => pure (call, [])
          | c, d, rest =>
            if !known.contains c then
              throw (match d with
                | .standard => "Illegal option -".toList ++ [c]
                | .extended => sign :: c :: ": invalid option".toList)
            else if "lirD".toList.contains c then pure (call, rest)
            else pure ({ call with flags := call.flags ++ [(on, c)] }, rest)) (call, rest)
        ofArguments d fuel rest call
    | _ => done

def shellUsage (maker : Maker) (name : Octets) : Octets :=
  let long := maker.name ++ " long option"
  "Usage:\t".toList ++ name ++ (" [" ++ long ++ "] [option] ...\n\t").toList ++ name ++
  (" [" ++ long ++ "] [option] script-file ...\n" ++ long ++ "s:\n\t--debug\n\t--debugger\n" ++
  "\t--dump-po-strings\n\t--dump-strings\n\t--help\n\t--init-file\n\t--login\n\t--noediting\n" ++
  "\t--noprofile\n\t--norc\n\t--posix\n\t--pretty-print\n\t--rcfile\n\t--restricted\n" ++
  "\t--verbose\n\t--version\nShell options:\n" ++
  "\t-ilrsD or -c command or -O shopt_option\t\t(invocation only)\n" ++
  "\t-abefhkmnptuvxBCEHPT or -o option\n").toList

def shellVersion (maker : Maker) : String :=
  maker.name ++ " bash, version 5.2.15(1)-release (x86_64-pc-linux-gnu)\n"

def startBindings (d : Dialect) (environment : Environment) (directory : Octets) (parent : Nat)
    (argument : Option Octets) : Bindings :=
  let given : Bindings := (environment.filter fun e => isName e.1).map fun (name, v) =>
    (name, { value := some (.text v), exported := true })
  let put (bs : Bindings) (name value : String) : Bindings :=
    bs.update name.toList fun b => { b with value := some (.text value.toList) }
  let unlessSet (bs : Bindings) (name value : String) : Bindings :=
    if (bs.find? name.toList).isSome then bs else put bs name value
  let place (bs : Bindings) : Bindings :=
    bs.update "PWD".toList fun b => { b with value := some (.text directory), exported := true }
  match d with
  | .standard =>
    let bs := [("IFS", " \t\n"), ("OPTIND", "1"), ("PPID", toString parent)]
      |>.foldl (fun bs (n, v) => put bs n v) given
    let bs := [("PATH", String.ofList Files.standardPath), ("PS1", "# "), ("PS2", "> "),
      ("PS4", "+ ")].foldl (fun bs (n, v) => unlessSet bs n v) bs
    place bs
  | .extended =>
    let level := max (-1) (((given.text? "SHLVL".toList).bind narrow?).getD 0)
    let bs := [("IFS", " \t\n"), ("OPTIND", "1"), ("OPTERR", "1"), ("BASH", "/usr/bin/bash"),
      ("BASH_VERSION", "5.2.15(1)-release"), ("EUID", "0"), ("UID", "0"), ("PPID", toString parent),
      ("HOSTTYPE", "x86_64"), ("MACHTYPE", "x86_64-pc-linux-gnu"), ("OSTYPE", "linux-gnu"),
      ("COMP_WORDBREAKS", " \t\n\"'><=;|&(:"), ("PS4", "+ ")]
      |>.foldl (fun bs (n, v) => put bs n v) given
    let bs := match argument with
      | some text => put bs "BASH_EXECUTION_STRING" (String.ofList text)
      | none => bs
    let bs := unlessSet bs "BASH_LOADABLES_PATH"
      "/usr/local/lib/bash:/usr/lib/bash:/opt/local/lib/bash:/usr/pkg/lib/bash:/opt/pkg/lib/bash:."
    let bs := bs.update "RANDOM".toList fun b => { b with chance := some ⟨32 * parent + 17, 0⟩ }
    let bs := [("BASHOPTS", some ""), ("SHELLOPTS", some "")].foldl (fun (bs : Bindings) (n, v) =>
      bs.update n.toList fun b =>
        { b with readonly := true, value := v.map fun t => .text t.toList }) bs
    let bs := [("PATH", String.ofList Files.standardPath), ("SHELL", "/bin/bash"), ("TERM", "dumb")]
      |>.foldl (fun bs (n, v) => unlessSet bs n v) bs
    let bs := bs.update "SHLVL".toList fun b =>
      { b with value := some (.text (Octets.ofInt (level + 1))), exported := true }
    let bs := bs.update "BASH_VERSINFO".toList fun b =>
      { b with readonly := true, value := some (.items (["5", "2", "15", "1", "release",
        "x86_64-pc-linux-gnu"].zipIdx.map fun (t, n) => (n, t.toList))) }
    let bs := bs.update "OLDPWD".toList fun b => { b with exported := true }
    let bs := ["EUID", "UID", "PPID"].foldl (fun (bs : Bindings) n =>
      bs.update n.toList fun b => { b with readonly := true, integer := true }) bs
    place bs

def givenFunctions (environment : Environment) : Session Unit := do
  let front := "BASH_FUNC_".toList
  for (key, text) in environment do
    if front.isPrefixOf key && (key.drop (key.length - 2)) == ['%', '%'] then
      let name := (key.drop front.length).dropLast.dropLast
      let m ← get
      let s := Source.ofText .extended [] (name ++ ' ' :: text)
      match Reader.nextCommand.run { s with heres := m.heres } with
      | (.ok (some (.define _ _ body)), after) =>
        set { m with functions := m.functions ++ [(name, body)], heres := after.heres,
                     functionSources := (name, "environment".toList) :: m.functionSources
                     exportedFunctions := m.exportedFunctions ++ [name] }
      | _ => pure ()

def freshShell (e : Engine) (run : Runner) (d : Dialect) (environment : Environment) (name : Octets)
    (parameters : List Octets) (call : ShellCall) (script : Script) : Session Nat := do
  let around ← get
  isolated e do
    let m ← get
    let process := if around.final then around.own else m.own
    let above := if around.final then around.above else around.own
    let start : Machine := {
      dialect := d, name, parameters, files := m.files, streams := m.streams,
      descriptors := m.descriptors, heres := m.heres, mask := m.mask, limits := m.limits
      drawn := m.drawn
      clock := m.clock, started := m.started, process, own := process, above
      signals := m.signals, deadline := m.deadline, lastWord := name, patient := m.patient
      bindings := startBindings d environment (Files.pathOf m.files.directory) above
        (if call.command then some script.text else none),
      flags := if d = .extended then ['h', 'B'] else [],
      options := if d = .extended then
          "interactive-comments" :: (Builtin.namedOptions.filter Prod.snd).map Prod.fst
        else [],
      argument := if call.command then some script.text else none
      script := if call.command || call.input || call.operands.isEmpty then none else some name
      reading := if call.command then "-c".toList else [],
      line := 0 }
    set start
    if d = .extended then givenFunctions environment
    for (on, flag) in call.flags do Builtin.setFlag on flag
    if d = .extended && call.command then modify fun m => m.setFlag true 'c'
    if call.input || (!call.command && call.operands.isEmpty) then
      modify fun m => m.setFlag true 's'
    for (on, option) in call.named do
      modify fun m => { m with running := if d = .extended then some name else none }
      Builtin.setOption on option
      modify fun m => { m with running := none }
    for (on, option) in call.others do
      let n := String.ofList option
      if (Builtin.namedOptions.lookup n).isNone then
        Session.complain (option ++ ": invalid shell option name".toList)
        throw (.exit 2)
      modify fun m =>
        let others := m.options.filter (· != n)
        { m with options := if on then n :: others else others }
    modify fun m => { m with line := 1 }
    runScript run script

def shellProgram (e : Engine) (run : Runner) (d : Dialect) (environment : Environment) (l : Launch) :
    Session Nat := do
  let refuse (status : Nat) (text : Octets) : Session Nat := do
    Session.err (l.name ++ (if d = .standard then ": 0: " else ": ").toList ++ text ++ ['\n'])
    pure status
  match ShellCall.ofArguments d (l.arguments.length + 1) l.arguments {} with
  | .error text =>
    let status ← refuse 2 text
    if d = .extended then Session.err (shellUsage (← get).files.maker l.name)
    pure status
  | .ok call => do
    let start := freshShell e run d environment
    if call.version then
      Session.out (shellVersion (← get).files.maker).toList
      pure 0
    else match call.command, call.operands with
      | true, [] =>
        refuse 2 (if d = .standard then "-c requires an argument"
          else "-c: option requires an argument").toList
      | true, text :: rest =>
        start (rest.head?.getD l.name) rest.tail call
          { text, shown := d = .extended, isLast := d = .extended, resumes := d = .extended }
      | false, operands =>
        match if call.input then [] else operands with
        | [] => do
          let isInput := d = .extended
          let text ← if isInput then Session.peekAll 0 else Session.readAll 0
          start l.name operands call { text := text.toOption.getD [], resumes := isInput, isInput }
        | path :: parameters => do
          let m ← get
          let found := if path.contains '/' || (m.files.find path).isOk then m.files.find path
            else .error .missing
          match found with
          | .ok (.document content) =>
            start path parameters call { text := content.content, resumes := d = .extended }
          | .ok .directory =>
            if d = .standard then start path parameters call { text := [] }
            else
              Session.err (path ++ ": ".toList ++ path ++ ": Is a directory\n".toList)
              pure 126
          | .ok (.device (.descriptor n)) => do
            let text ← Session.readAll n
            start path parameters call
              { text := text.toOption.getD [], resumes := d = .extended }
          | .ok _ => start path parameters call { text := [] }
          | .error f =>
            match d with
            | .standard => refuse 2 (OpenFault.message .standard .read path (.path f))
            | .extended => refuse 127 (path ++ ": ".toList ++ f.message.toList)

/-! ### Launches -/

/-- Ends a program that writes where nobody reads any more. -/
def breaking (body : Session Nat) : Session Nat := do
  match ← Session.observe body with
  | .ok status => pure status
  | .error .broken => do
    modify fun m => { m with killed := some 13 }
    pure 141
  | .error flow => throw flow

def fileReaders : List String := [
  "awk", "base64", "cat", "cmp", "comm", "cut", "diff", "egrep", "expand", "fgrep", "fold", "grep",
  "head", "join", "mawk", "md5sum", "nl", "od", "paste", "rev", "sed", "sha256sum", "sort", "tac",
  "tail", "uniq", "wc"]

/-- Runs a program that reads the pipes among its arguments empty. One that stands beside a shell waits
until there is something in them. -/
def emptyingPipes (l : Launch) (body : Session Nat) : Session Nat := do
  let m ← get
  let pipes := if !fileReaders.contains (String.ofList l.program) then []
    else l.arguments.filterMap fun a => match m.files.resolve a true with
      | .ok (place, some (.device (.pipe held))) => some (place, held)
      | _ => none
  if m.patient && pipes.any fun (_, held) => held.isEmpty then throw .stuck
  let status ← body
  for (place, held) in pipes do
    modify (Session.changePipe place (List.drop held.length))
  pure status

/-- Runs an installed program, and gives the status with which it ends. Programs that start others
may do so in turn. -/
def runLaunch (e : Engine) (run : Runner) : Nat → Environment → Launch → Session Nat
  | 0, _, _ => throw .exhausted
  | fuel + 1, environment, l => emptyingPipes l do
    let program := String.ofList l.program
    if !(← get).final then Session.pass startTime
    match shellDialects.lookup program, starters.lookup program with
    | some d, _ => shellProgram e run d environment l
    | none, some use => do
      let i ← invocation environment l
      let before := (← get).descriptors
      modify fun m => { m with unwritten := none }
      let start : Starter := fun environment command arguments => do
        let m ← get
        let path := (environment.lookup "PATH".toList).getD "/bin:/usr/bin".toList
        match m.files.launch path command arguments with
        | .ok l => return .ok (← runLaunch e run fuel environment l)
        | .error (.plainText path content) =>
          return .ok (← freshShell e run .standard environment path arguments {} { text := content })
        | .error f => pure (.error f)
      if ["xargs", "find", "timeout", "awk", "mawk", "nawk"].contains program then
        modify fun m => { m with final := false }
      let status ← breaking (use start i)
      let m ← get
      set { m with descriptors := before, unwritten := none }
      match m.unwritten with
      | some f => do
        let (text, status) := Program.writeFault program l.name (f == .badDescriptor) f.message
        Session.err text
        pure status
      | none => pure status
    | none, none => do
      let i ← invocation environment l
      let o := ((Program.table.lookup program).getD fun _ => {}) i
      Session.pass (startTime + o.duration)
      modify fun m => { m with killed := none }
      let status ← breaking (settle program l.name o)
      modify fun m => { m with clock := m.clock + noticeTime }
      for (n, text) in i.channels do
        if l.arguments.any fun a => "/fd/".toList ++ Octets.ofNat n == a.drop (a.length - 4 -
            (Octets.ofNat n).length) then
          if !(← Session.isPlainFile n) then Session.consume n text.length
      pure status

/-- How many programs may start each other in turn. -/
def launchBound : Nat := 1000

def installedPrograms : List String :=
  shellDialects.map Prod.fst ++ starters.map Prod.fst ++ Program.table.map Prod.fst

end MediaPipeline.Shell
