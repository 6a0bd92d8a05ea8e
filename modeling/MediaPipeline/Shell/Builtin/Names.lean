import MediaPipeline.Shell.Builtin.Variables
import MediaPipeline.Shell.Reader

/-!
Commands about names: aliases, what a name stands for, and where a program is.
-/

namespace MediaPipeline.Shell.Builtin

/-- The place of a name in the tables of the standard dialect, which its characters choose. -/
def nameOrder (size : Nat) (name : Octets) : Nat :=
  (((name.head?.map Char.toNat).getD 0) * 16 + (name.map Char.toNat).foldl (· + ·) 0) % size

def withEntry (environment : List (Octets × Octets)) (name value : Octets) :
    List (Octets × Octets) :=
  if environment.any (·.1 == name) then
    environment.map fun e => if e.1 == name then (name, value) else e
  else environment ++ [(name, value)]

/-- The variables that commands are given, in the order in which the shell keeps them. In the
extended dialect those that are set for one command come first, and a program that takes the place
of the shell is given its level. -/
def environment (m : Machine) : List (Octets × Octets) :=
  if m.isStandard then
    m.bindings.environment.mergeSort fun a b => nameOrder 39 a.1 ≤ nameOrder 39 b.1
  else
    let all := m.bindings.environment.mergeSort fun a b => tableOrder a.1 ≤ tableOrder b.1
    let others := all.filter fun e => !m.given.contains e.1
    let own := m.given.reverse.filterMap fun name => all.find? fun e => e.1 == name
    let own := own.mergeSort fun a b => tableOrder a.1 % 4 ≤ tableOrder b.1 % 4
    let functions := m.exportedFunctions.filterMap fun name =>
      (m.functions.lookup name).map fun body =>
        ("BASH_FUNC_".toList ++ name ++ "%%".toList, exportText m.heres body)
    let level := max 0 (((m.text? "SHLVL").bind narrow?).getD 0 - 1)
    let others := if m.final && !m.isStage
      then withEntry others "SHLVL".toList (Octets.ofInt level) else others
    own ++ others ++ functions

/-! ### Aliases -/

def aliasLine (d : Dialect) (name text : Octets) : Octets :=
  match d with
  | .standard => name ++ '=' :: Quoting.standard text ++ ['\n']
  | .extended => "alias ".toList ++ name ++ '=' :: Quoting.single text ++ ['\n']

def aliases : Builtin := fun args => do
  let m ← get
  let d := m.dialect
  let args ← match d with
    | .standard => pure args
    | .extended => do
      let o ← options "p" false " [-p] [name[=value] ... ]" args
      pure o.operands
  Session.setStatus 0
  if args.isEmpty then
    let own := match d with
      | .standard => m.aliases.mergeSort fun a b => nameOrder 39 a.1 ≤ nameOrder 39 b.1
      | .extended => m.aliases.mergeSort fun a b => Files.inOrder a.1 b.1
    Session.out (own.flatMap fun (name, text) => aliasLine d name text)
  else
    for a in args do
      let front := a.take 1
      let name := front ++ (a.drop 1).takeWhile (· != '=')
      if name.length < a.length then
        let text := a.drop (name.length + 1)
        let bad := name.any fun c => " \t\n/$\x60=|&;()<>\"'\\".toList.contains c
        if d == .extended && bad then do
          complain (inMessage name ++ ": invalid alias name".toList)
          Session.setStatus 1
        else modify fun m =>
          let known := m.aliases.any (·.1 == name)
          { m with aliases :=
              if known then m.aliases.map fun e => if e.1 == name then (name, text) else e
              else m.aliases ++ [(name, text)] }
      else match (← get).aliases.lookup a with
        | some text => Session.out (aliasLine d a text)
        | none => do
          match d with
          | .standard => Session.err ("alias: ".toList ++ a ++ " not found\n".toList)
          | .extended => complain (a ++ ": not found".toList)
          Session.setStatus 1

def dropAliases : Builtin := fun args => do
  let d := (← get).dialect
  let usageText := " [-a] name [name ...]"
  let o ← options "a" false usageText args
  Session.setStatus 0
  if o.has 'a' then modify fun m => { m with aliases := [] }
  else if o.operands.isEmpty && d == .extended then usage usageText
  else
    for a in o.operands do
      if ((← get).aliases.lookup a).isSome then
        modify fun m => { m with aliases := m.aliases.filter (·.1 != a) }
      else do
        match d with
        | .standard => Session.err ("unalias: ".toList ++ a ++ " not found\n".toList)
        | .extended => complain (a ++ ": not found".toList)
        Session.setStatus 1

/-! ### What names stand for -/

/-- What a name stands for where a command is called. -/
inductive Meaning where
  | reserved
  | standIn (text : Octets)
  | function
  | special
  | builtin
  | file (path : Octets)
  | unknown
  deriving DecidableEq

/-- The special commands of a shell, which no function may replace in the standard dialect. -/
def specialNames : List String := [
  ".", ":", "break", "continue", "eval", "exec", "exit", "export", "local", "readonly", "return",
  "set", "shift", "times", "trap", "unset"]

def standardNames : List String := [
  "[", "alias", "bg", "cd", "chdir", "command", "echo", "false", "fg", "getopts", "hash", "jobs",
  "kill", "printf", "pwd", "read", "test", "true", "type", "ulimit", "umask", "unalias", "wait"]

def extendedNames : List String := [
  "[", "alias", "bg", "bind", "builtin", "caller", "cd", "command", "compgen", "complete",
  "compopt", "declare", "dirs", "disown", "echo", "enable", "false", "fc", "fg", "getopts", "hash",
  "help", "history", "jobs", "kill", "let", "logout", "mapfile", "popd", "printf", "pushd",
  "pwd", "read", "readarray", "shopt", "source", "suspend", "test", "true", "type", "typeset",
  "ulimit", "umask", "unalias", "wait"]

def allNames : Dialect → List String
  | .standard => specialNames ++ standardNames
  | .extended => specialNames ++ extendedNames

/-- Whether a name is that of a command of the shell itself that is not turned off. -/
def isBuiltin (m : Machine) (name : String) : Bool :=
  (allNames m.dialect).contains name && !m.disabled.contains name

def isProgram (m : Machine) (path : Octets) : Bool :=
  match m.files.find path with
  | .ok (.program _) => true
  | .ok (.document d) => d.executable
  | _ => false

def programPaths (m : Machine) (name : Octets) : List Octets :=
  (Files.candidates ((m.text? "PATH").getD []) name).filter (isProgram m)

def programPath? (m : Machine) (name : Octets) : Option Octets :=
  if name.isEmpty then none
  else if name.contains '/' then
    if m.isStandard then if m.files.pathExists name then some name else none
    else if isProgram m name then some name else none
  else (programPaths m name).head?

def meaning (m : Machine) (name : Octets) : Meaning :=
  let s := String.ofList name
  let expands := m.isStandard || m.hasOption "expand_aliases"
  if !m.isStandard && expands && (m.aliases.lookup name).isSome then
    .standIn ((m.aliases.lookup name).getD [])
  else if Reader.isReserved m.dialect s || (!m.isStandard && s == "]]") then .reserved
  else match if expands then m.aliases.lookup name else none with
    | some text => .standIn text
    | none =>
      let special := specialNames.contains s
      let known := (m.functions.lookup name).isSome
      if special && m.isStandard then .special
      else if known then .function
      else if isBuiltin m s then if special && m.isStandard then .special else .builtin
      else match m.remembered? name, programPath? m name with
        | some r, _ => .file r.path
        | none, some path => .file path
        | none, none => .unknown

def described (m : Machine) (name : Octets) : Meaning → Octets
  | .reserved => name ++ " is a shell keyword".toList
  | .standIn text =>
    if m.isStandard then name ++ " is an alias for ".toList ++ text
    else name ++ " is aliased to ".toList ++ inMessage text
  | .function =>
    if m.isStandard then name ++ " is a shell function".toList
    else name ++ " is a function\n".toList ++
      ((m.functions.lookup name).map (functionText m.heres name)).getD []
  | .special => name ++ " is a special shell builtin".toList
  | .builtin => name ++ " is a shell builtin".toList
  | .file path =>
    if (m.remembered? name).isNone then name ++ " is ".toList ++ path
    else if m.isStandard then name ++ " is a tracked alias for ".toList ++ path
    else name ++ " is hashed (".toList ++ path ++ [')']
  | .unknown => name ++ ": not found".toList

def remember (name path : Octets) : Session Unit :=
  modify fun m =>
    if name.contains '/' || !(m.isStandard || m.hasFlag 'h') then m
    else { m with remembered :=
      m.remembered.filter (fun r => r.name != name) ++ [{ name, path, hits := 0 }] }

def countUse (name : Octets) : Session Unit :=
  modify fun m => { m with remembered := m.remembered.map fun r =>
    if r.name == name then { r with hits := r.hits + 1 } else r }

def Meaning.kind : Meaning → String
  | reserved => "keyword"
  | standIn _ => "alias"
  | function => "function"
  | special | builtin => "builtin"
  | file _ => "file"
  | unknown => ""

def describe : Builtin := fun args => do
  let m ← get
  Session.setStatus 0
  match m.dialect with
  | .standard =>
    for name in args do
      let m ← get
      let found := meaning m name
      Session.out (described m name found ++ ['\n'])
      match found with
      | .unknown => Session.setStatus 127
      | .file path => if (m.remembered? name).isNone then remember name path
      | _ => pure ()
  | .extended => do
    let o ← options "aftpP" false " [-afptP] name [name ...]" args
    for name in o.operands do
      let found := meaning m name
      let paths := programPaths m name
      if o.has 'P' || (o.has 'p' && (found matches .file _)) then
        let known : List Octets := match found with
          | .file path => [path]
          | _ => paths.take 1
        let shown := if o.has 'a' then paths else known
        Session.out (unlines shown)
        if shown.isEmpty then Session.setStatus 1
      else if o.has 'p' then
        if found == .unknown then Session.setStatus 1
      else if found == .unknown then
        if !o.has 't' then complain (name ++ ": not found".toList)
        Session.setStatus 1
      else if o.has 't' then Session.out (found.kind.toList ++ ['\n'])
      else do
        if !o.has 'a' || !(found matches .file _) then
          Session.out (described m name found ++ ['\n'])
        if o.has 'a' then
          Session.out (paths.flatMap fun p => name ++ " is ".toList ++ p ++ ['\n'])

/-- Says where a command is found; briefly, so that it can be called by that. -/
def locate (brief : Bool) (names : List Octets) : Session Unit := do
  let m ← get
  let names := if m.isStandard then names.take 1 else names
  let mut anyFound := false
  for name in names do
    let m ← get
    let found := meaning m name
    if let .file path := found then
      if m.isStandard && (m.remembered? name).isNone then remember name path
    if found != .unknown then anyFound := true
    if brief then
      match found with
      | .unknown => pure ()
      | .standIn text =>
        Session.out ((if m.isStandard then "alias ".toList ++ name ++ '=' :: Quoting.standard text
          else "alias ".toList ++ name ++ '=' :: Quoting.single text) ++ ['\n'])
      | .file path => Session.out (path ++ ['\n'])
      | _ => Session.out (name ++ ['\n'])
    else if found == .unknown then
      if m.isStandard then Session.out (name ++ ": not found\n".toList)
      else complain (name ++ ": not found".toList)
    else Session.out (described m name found ++ ['\n'])
  Session.setStatus (if anyFound || names.isEmpty then 0 else if m.isStandard then 127 else 1)

def hashStandard : Builtin := fun args => do
  let o ← options "r" false "" args
  Session.setStatus 0
  if o.has 'r' then modify fun m => { m with remembered := [] }
  else if o.operands.isEmpty then
    let own := (← get).remembered.mergeSort fun a b => nameOrder 31 a.name ≤ nameOrder 31 b.name
    Session.out (own.flatMap fun r => r.path ++ ['\n'])
  else
    for name in o.operands do
      let m ← get
      if isBuiltin m (String.ofList name) || (m.functions.lookup name).isSome then pure ()
      else match programPath? m name with
        | some path => remember name path
        | none => do
          complain (name ++ ": not found".toList)
          Session.setStatus 1

def rememberLine (r : Remembered) : Octets :=
  "builtin hash -p ".toList ++ r.path ++ ' ' :: r.name ++ ['\n']

/-- Remembers where programs are in the extended dialect, shows it, or forgets it. -/
def hashExtended : Builtin := fun args => do
  let o ← options "lrp:dt" false " [-lr] [-p pathname] [-dt] [name ...]" args
  Session.setStatus 0
  if !(← get).hasFlag 'h' then abort "hashing disabled".toList
  let letter := if o.has 't' then some 't' else if o.has 'd' then some 'd' else none
  match letter, o.operands with
  | some c, [] => abort ('-' :: c :: ": option requires an argument".toList)
  | _, _ => pure ()
  if o.has 'r' then modify fun m => { m with remembered := [] }
  else if o.operands.isEmpty then
    let m ← get
    let place (r : Remembered) : Nat := tableOrder r.name % 256
    let own := m.remembered.mergeSort fun a b => place a ≤ place b
    if o.has 'l' then Session.out (own.flatMap rememberLine)
    else if own.isEmpty then Session.out "hash: hash table empty\n".toList
    else
      Session.out ("hits\tcommand\n".toList ++ own.flatMap fun r =>
        padLeft 4 (Octets.ofNat r.hits) ++ '\t' :: r.path ++ ['\n'])
  for name in o.operands do
    let m ← get
    match letter, o.value? 'p' with
    | some 't', _ =>
      match m.remembered? name with
      | some r => do
        countUse name
        Session.out (if o.has 'l' then rememberLine r
          else (if o.operands.length > 1 then name ++ ['\t'] else []) ++ r.path ++ ['\n'])
      | none => do
        complain (name ++ ": not found".toList)
        Session.setStatus 1
    | some _, _ => modify fun m =>
      { m with remembered := m.remembered.filter fun r => r.name != name }
    | none, some path =>
      if m.files.find path matches .ok .directory then do
        complain (path ++ ": Is a directory".toList)
        Session.setStatus 1
      else remember name path
    | none, none =>
      if name.contains '/' || isBuiltin m (String.ofList name) ||
          (m.functions.lookup name).isSome then pure ()
      else match programPath? m name with
        | some path => remember name path
        | none => do
          complain (name ++ ": not found".toList)
          Session.setStatus 1

def hash : Builtin := fun args => do
  if (← get).isStandard then hashStandard args else hashExtended args

/-- Turns commands of the shell itself off or on, or shows them. -/
def enable : Builtin := fun args => do
  let o ← options "adf:nps" false " [-a] [-dnps] [-f filename] [name ...]" args
  Session.setStatus 0
  let m ← get
  if o.operands.isEmpty || o.has 'p' then
    let known := if o.has 's' then specialNames.filter (· != "local") ++ ["source"]
      else allNames .extended
    let shown := known.filter fun n => o.has 'a' || m.disabled.contains n == o.has 'n'
    let sorted := (shown.map String.toList).mergeSort Files.inOrder
    Session.out (sorted.flatMap fun n =>
      (if m.disabled.contains (String.ofList n) then "enable -n " else "enable ").toList ++
        n ++ ['\n'])
  else if let some file := o.value? 'f' then
    abort ("cannot open shared object ".toList ++ file ++ ": ".toList ++ file ++
      ": cannot open shared object file: No such file or directory".toList)
  else
    for name in o.operands do
      let n := String.ofList name
      if !(allNames .extended).contains n then
        complain (name ++ ": not a shell builtin".toList)
        Session.setStatus 1
      else if o.has 'd' then
        complain (name ++ ": not dynamically loaded".toList)
        Session.setStatus 1
      else modify fun m =>
        let others := m.disabled.filter (· != n)
        { m with disabled := if o.has 'n' then n :: others else others }

end MediaPipeline.Shell.Builtin
