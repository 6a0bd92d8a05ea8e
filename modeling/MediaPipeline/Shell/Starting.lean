import MediaPipeline.Program.Table
import MediaPipeline.Shell.Expansion

/-!
Programs that start other programs: with other surroundings, once for each piece of their input, or
for each file of a tree.
-/

namespace MediaPipeline.Shell

open ProgramOption (flag value)

abbrev Environment := List (Octets × Octets)

/-- Starts a command, and gives the status with which it ends, or why it does not start. -/
abbrev Starter := Environment → Octets → List Octets → Session (Except LaunchFault Nat)

/-- A program that starts others. It gives the status with which it ends. -/
abbrev StartingProgram := Starter → Invocation → Session Nat

namespace Starting

def finish (o : Outcome) : Session Nat := do
  Session.err o.err
  Session.out o.out
  pure o.status

/-- Ends a program that was called in a wrong way. -/
def misuse (i : Invocation) (status : Nat) (text : Octets) : Session Nat :=
  finish (i.misuse status text)

def complain (i : Invocation) (text : Octets) : Session Unit :=
  Session.err (i.complaint text)

def launchText : LaunchFault → String
  | .missing => "No such file or directory"
  | .notDirectory => "Not a directory"
  | .tooManyLinks => "Too many levels of symbolic links"
  | .forbidden => "Permission denied"
  | .plainText .. => "Exec format error"

def launchStatus : LaunchFault → Nat
  | .missing => 127
  | _ => 126

def startOr (start : Starter) (i : Invocation) (env : Environment) (command : Octets)
    (args : List Octets) (fault : LaunchFault → Octets) : Session Nat := do
  match ← start env command args with
  | .ok status => pure status
  | .error f => do
    complain i (fault f)
    pure (launchStatus f)

/-! ### Other surroundings -/

/-- The words of a text, as a program takes a line apart that stands for several arguments. -/
def splitWords : Nat → Octets → Option Octets → Option Char → List Octets
  | 0, _, word, _ => word.toList
  | _, [], word, _ => word.toList
  | fuel + 1, c :: rest, word, quote =>
    let add (d : Char) (rest : Octets) : List Octets :=
      splitWords fuel rest (some (word.getD [] ++ [d])) quote
    match quote, c, rest with
    | some q, c, rest =>
      if c == q then splitWords fuel rest (some (word.getD [])) none
      else if c == '\\' then match rest with
        | d :: rest => if d == q || d == '\\' then add d rest else add c (d :: rest)
        | [] => add c []
      else add c rest
    | none, '\\', d :: rest =>
      match d with
      | 'n' => add '\n' rest
      | 't' => add '\t' rest
      | '_' => word.toList ++ splitWords fuel rest none none
      | 'c' => word.toList
      | d => add d rest
    | none, c, rest =>
      if c == '\'' || c == '"' then splitWords fuel rest (some (word.getD [])) (some c)
      else if Program.isSpaceOctet c then word.toList ++ splitWords fuel rest none none
      else if c == '#' && word.isNone then []
      else add c rest

/-- Arguments in which one that stands for several has been taken apart. -/
def spliced : Nat → List Octets → List Octets
  | 0, args => args
  | _, [] => []
  | fuel + 1, arg :: rest =>
    let split (text : Octets) (rest : List Octets) : List Octets :=
      spliced fuel (splitWords (text.length + 1) text none none ++ rest)
    match arg, rest with
    | ['-', 'S'], text :: rest => split text rest
    | '-' :: 'S' :: text, rest => split text rest
    | '-' :: 'v' :: 'S' :: text, rest => split text rest
    | '-' :: 'i' :: 'S' :: text, rest => ['-', 'i'] :: split text rest
    | ['-', 'u'], v :: rest | ['-', 'C'], v :: rest => arg :: v :: spliced fuel rest
    | '-' :: '-' :: long, rest =>
      if "split-string=".toList.isPrefixOf long then split (long.drop 13) rest
      else if long.isEmpty then arg :: rest
      else arg :: spliced fuel rest
    | '-' :: _, rest => arg :: spliced fuel rest
    | _, rest => arg :: rest

def withVariable (env : Environment) (name value : Octets) : Environment :=
  if env.any (·.1 == name) then env.map fun e => if e.1 == name then (name, value) else e
  else env ++ [(name, value)]

def env : StartingProgram := fun start i => do
  let known := [flag 'i' "ignore-environment", flag '0' "null", value 'u' "unset",
    value 'C' "chdir", value 'S' "split-string", flag 'v' "debug"] ++
    ProgramOption.names .joined ["block-signal", "default-signal", "ignore-signal"] ++
    ProgramOption.names .none ["list-signal-handling"]
  match Arguments.ofList known true (spliced (i.arguments.length + 1) i.arguments) with
  | .error text =>
    let hint := if text == "invalid option -- ' '".toList then
      i.complaint "use -[v]S to pass options in shebang lines".toList else []
    finish { err := i.complaint text ++ hint ++ i.hint, status := 125 }
  | .ok a => do
    let dash := a.operands.head? == some ['-']
    let operands := if dash then a.operands.tail else a.operands
    let base := if dash || a.has "i" then [] else i.environment
    let base := base.filter fun e => !a.options.any fun o => o.1 == "u" && o.2 == e.1
    let settings := operands.takeWhile fun w => w.contains '='
    let environment := settings.foldl (fun env w =>
      let name := w.takeWhile (· != '=')
      withVariable env name (w.drop (name.length + 1))) base
    if a.has "v" then
      if dash || a.has "i" then Session.err "cleaning environ\n".toList
      for o in a.options do
        if o.1 == "u" then Session.err ("unset:    ".toList ++ o.2 ++ ['\n'])
      for w in settings do
        Session.err ("setenv:   ".toList ++ w ++ ['\n'])
      if let some d := a.value? "C" then
        Session.err ("chdir:    ".toList ++ Quoting.always d ++ ['\n'])
    match operands.drop settings.length with
    | [] => do
      let ending := if a.has "0" then '\x00' else '\n'
      finish { out := environment.flatMap fun (name, v) => name ++ '=' :: v ++ [ending] }
    | command :: args =>
      if a.has "0" then misuse i 125 "cannot specify --null (-0) with command".toList
      else
        let before := (← get).files
        let moved : Except String Files := match a.value? "C" with
          | none => .ok before
          | some d => match before.resolve d true with
            | .ok (place, some .directory) => .ok { before with directory := place }
            | .ok (_, some _) => .error PathFault.notDirectory.message
            | .ok (_, none) => .error PathFault.missing.message
            | .error f => .error f.message
        match moved with
        | .error text =>
          finish (i.fail 125 ("cannot change directory to ".toList ++
            Quoting.always (a.value? "C" |>.getD []) ++ ": ".toList ++ text.toList))
        | .ok files => do
          modify fun m => { m with files }
          if a.has "v" then
            Session.err ("executing: ".toList ++ command ++ ['\n'] ++
              ((command :: args).zipIdx.flatMap fun (w, n) => "   arg[".toList ++ Octets.ofNat n ++
                "]= ".toList ++ Quoting.plain w ++ ['\n']))
          let status ← startOr start i environment command args fun f =>
            let text := Quoting.plain command ++ ": ".toList ++ (launchText f).toList
            if f matches .missing && command.any Program.isSpaceOctet then
              text ++ '\n' :: i.name ++ ": use -[v]S to pass options in shebang lines".toList
            else text
          modify fun m => { m with files := { m.files with directory := before.directory } }
          pure status

def timeout : StartingProgram := fun start i => do
  let known := [value 's' "signal", value 'k' "kill-after", flag 'v' "verbose",
    ⟨none, some "preserve-status", .none⟩, ⟨none, some "foreground", .none⟩]
  match Arguments.ofList known true i.arguments with
  | .error text => misuse i 125 text
  | .ok a =>
    let badInterval (text : Octets) : Session Nat :=
      misuse i 125 ("invalid time interval ".toList ++ Quoting.plain text)
    let signal := match a.value? "s" with
      | none => some "TERM"
      | some text => Signal.event? .extended text
    match signal, a.value? "k", a.operands with
    | none, _, _ =>
      misuse i 125 (Quoting.plain ((a.value? "s").getD []) ++ ": invalid signal".toList)
    | some signal, later, limit :: command :: args =>
      match later.map Interval.microseconds?, Interval.microseconds? limit with
      | some none, _ => badInterval (later.getD [])
      | _, none => badInterval limit
      | _, some span => do
        let before ← get
        let time := before.clock + span
        let bound := if span = 0 then before.deadline
          else some (match before.deadline with
            | some outer => min outer time
            | none => time)
        set { before with deadline := bound, killed := none }
        let result ← Session.observe (startOr start i i.environment command args fun f =>
          "failed to run command ".toList ++ Quoting.plain command ++ ": ".toList ++
            (launchText f).toList)
        let after ← get
        let back (killed : Option Nat) : Session Unit :=
          set { before.behind after with killed }
        match result with
        | .ok status => do
          back after.killed
          pure status
        | .error flow =>
          let late := match flow with
            | .expired t => some t == bound && t == time
            | .exhausted => span != 0 && before.deadline.isNone
            | _ => false
          if !late then throw flow
          let number := Signal.number signal
          let dies := signal == "KILL" && !a.has "foreground"
          back (if dies then some 9 else none)
          modify fun m => { m with clock := max m.clock time }
          if a.has "v" then
            complain i ("sending signal ".toList ++ signal.toList ++ " to command ".toList ++
              Quoting.plain command)
          pure (if signal == "KILL" || a.has "preserve-status" then 128 + number else 124)
    | _, _, _ => finish { err := i.hint, status := 125 }

def nice : StartingProgram := fun start i => do
  let args := match i.arguments with
    | ('-' :: c :: rest) :: more =>
      if c.isDigit then ['-', 'n'] :: (c :: rest) :: more else i.arguments
    | args => args
  match Arguments.ofList [value 'n' "adjustment"] true args with
  | .error text => misuse i 125 text
  | .ok a =>
    let given := (a.value? "n").getD "10".toList
    match Program.wholeNumber? given with
    | none => finish (i.fail 125 ("invalid adjustment ".toList ++ Quoting.plain given))
    | some n =>
      match a.operands with
      | [] =>
        if a.has "n" then misuse i 125 "a command must be given with an adjustment".toList
        else
          let own := (i.environment.lookup "nice".toList).getD ['0']
          finish { out := own ++ ['\n'] }
      | command :: args =>
        let environment := if command == "nice".toList then
          [("nice".toList, Octets.ofInt n)] else i.environment
        startOr start i environment command args fun f =>
          Quoting.plain command ++ ": ".toList ++ (launchText f).toList

/-- Starts a command behind options that change nothing here. -/
def startPlainly (known : List ProgramOption) (status : Nat) (missing : Invocation → Outcome)
    (front : String) (shown : Octets → Octets) : StartingProgram := fun start i => do
  match Arguments.ofList known true i.arguments with
  | .error text => misuse i status text
  | .ok a =>
    match a.operands with
    | [] => finish (missing i)
    | command :: args =>
      startOr start i i.environment command args fun f =>
        front.toList ++ shown command ++ ": ".toList ++ (launchText f).toList

def buffered : StartingProgram := fun start i => do
  let known := [value 'i' "input", value 'o' "output", value 'e' "error"]
  match Arguments.ofList known true i.arguments with
  | .error text => misuse i 125 text
  | .ok a =>
    match a.operands with
    | [] => misuse i 125 "missing operand".toList
    | command :: args =>
      if a.options.isEmpty then misuse i 125 "you must specify a buffering mode option".toList
      else startOr start i i.environment command args fun f =>
        "failed to run command ".toList ++ Quoting.plain command ++ ": ".toList ++
          (launchText f).toList

/-! ### For each piece of the input -/

/-- The items of an input: separated by blanks or, with `byLine`, by line feeds, and quoted. Each
comes with whether a line ends behind it. -/
def items (byLine : Bool) : Nat → Octets → Option Octets → Bool →
    Except Octets (List (Octets × Bool))
  | 0, _, _, _ => .ok []
  | _, [], word, _ => .ok (word.toList.map fun w => (w, true))
  | fuel + 1, c :: rest, word, start =>
    let add (text rest : Octets) := items byLine fuel rest (some (word.getD [] ++ text)) false
    if c == '\n' then do
      let more ← items byLine fuel rest none true
      pure (match word with
        | some w => (w, true) :: more
        | none => more)
    else if c == '\'' || c == '"' then
      let inside := rest.takeWhile fun d => d != c && d != '\n'
      match rest.drop inside.length with
      | d :: behind =>
        if d == c then add inside behind else .error (quoteName c)
      | [] => .error (quoteName c)
    else if c == '\\' then
      match rest with
      | d :: behind => add [d] behind
      | [] => .ok (word.toList.map fun w => (w, true))
    else if Program.isSpaceOctet c && (!byLine || start) then do
      match word with
      | some w => do
        let more ← items byLine fuel rest none false
        let ended := (rest.dropWhile fun d => d == ' ' || d == '\t').head? == some '\n'
        pure ((w, ended) :: more)
      | none => items byLine fuel rest none start
    else add [c] rest
where
  quoteName (c : Char) : Octets :=
    (if c == '\'' then "single" else "double").toList

def replaced (mark text : Octets) : Nat → Octets → Octets
  | 0, t => t
  | _, [] => []
  | fuel + 1, c :: rest =>
    if !mark.isEmpty && mark.isPrefixOf (c :: rest) then
      text ++ replaced mark text fuel ((c :: rest).drop mark.length)
    else c :: replaced mark text fuel rest

def groupsOf {α : Type} (size : Nat) : Nat → List α → List (List α)
  | 0, _ | _, [] => []
  | fuel + 1, xs => xs.take size :: groupsOf size fuel (xs.drop size)

def lineGroups (size : Nat) (is : List (Octets × Bool)) : List (List Octets) :=
  let (groups, last, _) := is.foldl (fun (groups, current, lines) (w, ended) =>
    let current := current ++ [w]
    let lines := if ended then lines + 1 else lines
    if lines = size then (groups ++ [current], [], 0) else (groups, current, lines))
    (([], [], 0) : List (List Octets) × List Octets × Nat)
  if last.isEmpty then groups else groups ++ [last]

def xargs : StartingProgram := fun start i => do
  let known := [flag '0' "null", value 'a' "arg-file", value 'd' "delimiter", value 'E' "eof-str",
    value 'I' "replace-str", value 'L' "max-lines", value 'n' "max-args", flag 'o' "open-tty",
    value 'P' "max-procs", flag 'p' "interactive", flag 'r' "no-run-if-empty", value 's' "max-chars",
    flag 't' "verbose", flag 'x' "exit", ⟨some 'i', some "replace", .joined⟩,
    ⟨some 'l', none, .joined⟩, ⟨some 'e', some "eof", .joined⟩]
  match Arguments.ofList known true i.arguments with
  | .error text => misuse i 1 text
  | .ok a => do
    let text := match a.value? "a" with
      | some path => i.content path
      | none => i.input
    let mark := (a.value? "I").or ((a.value? "i").map fun m => if m.isEmpty then "\x7b\x7d".toList else m)
    let separator : Option Char :=
      if a.has "0" then some '\x00'
      else (a.value? "d").map fun d => match d with
        | ['\\', 'n'] => '\n'
        | ['\\', 't'] => '\t'
        | ['\\', '0'] => '\x00'
        | d => d.head?.getD '\x00'
    let found : Except Octets (List (Octets × Bool)) := match separator, text with
      | _, .error _ => .ok []
      | some c, .ok text =>
        let parts := text.splitOn c
        let parts := if parts.getLast? == some [] then parts.dropLast else parts
        .ok (parts.map fun p => (p, true))
      | none, .ok text => items mark.isSome (text.length + 1) text none true
    let command := a.operands.head?.getD "echo".toList
    let args := a.operands.drop 1
    Session.consume 0 (i.wholeInput.getD 0)
    let input ← Session.openFile ⟨.device .null, true, false⟩
    let before := (← get).descriptors
    if !a.has "a" then Session.setDescriptor 0 (some input)
    let runOne (args : List Octets) : Session (Nat × Bool) := do
      if a.has "t" then
        Session.err (((command :: args).intersperse [' ']).flatten ++ ['\n'])
      match ← start i.environment command args with
      | .error f => do
        complain i (command ++ ": ".toList ++ (launchText f).toList)
        pure (launchStatus f, true)
      | .ok 0 => pure (0, false)
      | .ok status => do
        let killed := (← get).killed
        modify fun m => { m with killed := none }
        match status, killed with
        | _, some signal => do
          complain i (command ++ ": terminated by signal ".toList ++ Octets.ofNat signal)
          pure (125, true)
        | 255, none => do
          complain i (command ++ ": exited with status 255; aborting".toList)
          pure (124, true)
        | _, none => pure (123, false)
    let unfinished := match text with
      | .ok t => firstWords (t.length + 1) t
      | .error _ => []
    let (calls, broken) : List (List Octets) × Option Octets := match found with
      | .error quote =>
        (if unfinished.isEmpty then [] else [args ++ unfinished],
          some ("unmatched ".toList ++ quote ++ (" quote; by default quotes are special to xargs " ++
            "unless you use the -0 option").toList))
      | .ok found =>
        let words := found.map Prod.fst
        match mark with
        | some mark =>
          (words.map fun w => args.map fun t => replaced mark w (t.length + 1) t, none)
        | none =>
          let groups := match a.value? "L" |>.or (a.value? "l"), a.value? "n" with
            | some n, _ => lineGroups (max 1 (natural n)) found
            | none, some n => groupsOf (max 1 (natural n)) words.length words
            | none, none => if words.isEmpty then [] else [words]
          let groups := if groups.isEmpty && !a.has "r" then [[]] else groups
          (groups.map fun g => args ++ g, none)
    let mut status := 0
    let mut stopped := false
    if let some text := broken then
      complain i text
      status := 1
    for call in calls do
      if !stopped then
        let (s, stops) ← runOne call
        if s != 0 then status := s
        stopped := stops
    modify fun m => { m with descriptors := before }
    pure status
where
  firstWords : Nat → Octets → List Octets
    | 0, _ | _, [] => []
    | fuel + 1, text =>
      let text := text.dropWhile Program.isSpaceOctet
      let word := text.takeWhile fun c => !Program.isSpaceOctet c
      if word.isEmpty || word.any (fun c => c == '\'' || c == '"') then []
      else word :: firstWords fuel (text.drop word.length)

end Starting

end MediaPipeline.Shell
