import MediaPipeline.Shell.Builtin.Variables

/-!
Commands that change and show where relative paths start.
-/

namespace MediaPipeline.Shell.Builtin

/-- Whether exactly two slashes stand in front of a path. -/
def startsDoubled : Octets → Bool
  | '/' :: '/' :: rest => rest.head? != some '/'
  | _ => false

/-- A path followed from a directory by its names alone: a double dot takes the last name away. Two
slashes in front stay. -/
def logicalPath (here path : Octets) : Octets :=
  let absolute := path.head? == some '/'
  let start := if absolute then [] else Files.names here
  let two := startsDoubled (if absolute then path else here)
  let place := (Files.names path).foldl (fun (place : Place) step =>
    if step == ['.'] then place
    else if step == ['.', '.'] then place.dropLast
    else place ++ [step]) start
  (if two then ['/'] else []) ++ Files.pathOf place

/-- Moves to a directory. With `physical` links on the way are followed. Gives the fault if there is
no such directory. -/
def moveTo (path : Octets) (physical : Bool) : Session (Option String) := do
  let m ← get
  let logical := logicalPath m.directory path
  let followed : Except PathFault (Place × Option Entry) :=
    if m.isStandard && !physical then m.files.resolve logical true else m.files.resolve path true
  match followed with
  | .error f => pure (some f.message)
  | .ok (place, some .directory) => do
    let place := if physical then place
      else match m.files.resolve logical true with
        | .ok (place, some .directory) => place
        | _ => place
    let directory := if physical then Files.pathOf place else logical
    let old := (m.text? "PWD").getD []
    modify fun m => { m with directory, files := { m.files with directory := place } }
    let setPlace (name : String) (path : Octets) : Session Unit :=
      modify fun m => { m with bindings := m.bindings.update name.toList fun b =>
        { b with value := some (.text path), exported := m.isStandard || b.exported } }
    setPlace "OLDPWD" old
    setPlace "PWD" directory
    pure none
  | .ok (_, some _) => pure (some PathFault.notDirectory.message)
  | .ok (_, none) => pure (some PathFault.missing.message)

def changeDirectory : Builtin := fun args => do
  let m ← get
  let o ← options (if m.isStandard then "LP" else "LPe@") false
    " [-L|[-P [-e]] [-@]] [dir]" args
  let physical := (o.letters.reverse.find? fun l => l.1 == 'L' || l.1 == 'P').any (·.1 == 'P')
  if !m.isStandard && o.operands.length > 1 then abort "too many arguments".toList
  let shows := o.operands.head? == some ['-']
  let target ← match o.operands with
    | [] =>
      match m.text? "HOME" with
      | some home => pure home
      | none => if m.isStandard then pure [] else abort "HOME not set".toList
    | ['-'] :: _ =>
      match m.text? "OLDPWD" with
      | some old => pure old
      | none => if m.isStandard then pure [] else abort "OLDPWD not set".toList
    | path :: _ => pure path
  let relative := match Files.names target with
    | ['.'] :: _ | ['.', '.'] :: _ => false
    | _ => target.head? != some '/' && !target.isEmpty
  let searched := if relative && !shows then ((m.text? "CDPATH").getD []).splitOn ':' else []
  let candidates := searched.filterMap fun d =>
    if d.isEmpty then none
    else
      let path := if d.getLast? == some '/' then d ++ target else d ++ '/' :: target
      if m.files.isDirectory path then some path else none
  let before := searched.takeWhile fun d => !d.isEmpty
  let found := if before.length < searched.length && m.files.isDirectory target &&
      !(before.any fun d => m.files.isDirectory (d ++ '/' :: target)) then none
    else candidates.head?
  let path := found.getD target
  let fault ← if path.isEmpty then pure none else moveTo path physical
  match fault with
  | some text =>
    match m.dialect with
    | .standard => abort ("can't cd to ".toList ++ target)
    | .extended => abort (target ++ ": ".toList ++ text.toList)
  | none => do
    if found.isSome || shows then
      let m ← get
      Session.out ((if path.isEmpty && !m.isStandard then [] else m.directory) ++ ['\n'])
    Session.setStatus 0

def showDirectory : Builtin := fun args => do
  let m ← get
  let o ← options "LP" false " [-LP]" args
  let physical := (o.letters.getLast?).any (·.1 == 'P')
  Session.out ((if physical then Files.pathOf m.files.directory else m.directory) ++ ['\n'])
  Session.setStatus 0

/-! ### The stack of directories -/

def abbreviated (m : Machine) (path : Octets) : Octets :=
  match m.text? "HOME" with
  | some home =>
    if home.length > 1 && path == home then ['~']
    else if home.length > 1 && (home ++ ['/']).isPrefixOf path then '~' :: path.drop home.length
    else path
  | none => path

/-- Writes the directories to go back to, the present one first. -/
def showStack (long perLine numbered : Bool) : Session Unit := do
  let m ← get
  let all := (m.directory :: m.stack).map fun d => if long then d else abbreviated m d
  Session.out (if numbered then
      all.zipIdx.flatMap fun (d, i) => padded i ++ ' ' :: ' ' :: d ++ ['\n']
    else if perLine then all.flatMap fun d => d ++ ['\n']
    else (all.intersperse [' ']).flatten ++ ['\n'])
where
  padded (n : Nat) : Octets :=
    (if n < 10 then [' '] else []) ++ Octets.ofNat n

def stackPosition? (size : Nat) : Octets → Option (Option Nat)
  | '+' :: digits =>
    if !digits.isEmpty && digits.all Char.isDigit then
      some (if value digits < size then some (value digits) else none)
    else none
  | '-' :: digits =>
    if !digits.isEmpty && digits.all Char.isDigit then
      some (if value digits < size then some (size - 1 - value digits) else none)
    else none
  | _ => none

def enter (path : Octets) : Session Unit := do
  if let some text ← moveTo path false then
    abort (path ++ ": ".toList ++ text.toList)

def directories : Builtin := fun args => do
  let m ← get
  let mut long := false
  let mut perLine := false
  let mut numbered := false
  let mut clear := false
  let mut position : Option Nat := none
  let usageText := " [-clpv] [+N] [-N]"
  for a in args do
    match stackPosition? (m.stack.length + 1) a with
    | some (some n) => position := some n
    | some none => abort (a.drop 1 ++ ": directory stack index out of range".toList)
    | none =>
      match a with
      | '-' :: letters =>
        for c in letters do
          match c with
          | 'c' => clear := true
          | 'l' => long := true
          | 'p' => perLine := true
          | 'v' => numbered := true
          | _ => misuse (a ++ ": invalid option".toList) usageText
      | _ => misuse (a ++ ": invalid option".toList) usageText
  if clear then modify fun m => { m with stack := [] }
  else match position with
    | some n =>
      let d := (m.directory :: m.stack)[n]?.getD []
      Session.out ((if long then d else abbreviated m d) ++ ['\n'])
    | none => showStack long perLine numbered
  Session.setStatus 0

def pushDirectory : Builtin := fun args => do
  let m ← get
  let stays := args.contains ['-', 'n']
  let args := args.filter (· != ['-', 'n'])
  let all := m.directory :: m.stack
  match args with
  | [] =>
    match m.stack with
    | [] => abort "no other directory".toList
    | top :: rest => do
      enter top
      modify fun n => { n with stack := m.directory :: rest }
  | [a] =>
    match stackPosition? all.length a with
    | some none =>
      if m.stack.isEmpty then abort "no other directory".toList
      else abort (a ++ ": directory stack index out of range".toList)
    | some (some n) =>
      match all.drop n ++ all.take n with
      | top :: rest => do
        enter top
        modify fun m => { m with stack := rest }
      | [] => pure ()
    | none =>
      if a.head? == some '-' && a.length > 1 then
        misuse (a ++ ": invalid number".toList) " [-n] [+N | -N | dir]"
      else if stays then modify fun m => { m with stack := a :: m.stack }
      else do
        enter a
        modify fun n => { n with stack := m.directory :: m.stack }
  | _ => abort "too many arguments".toList
  showStack false false false
  Session.setStatus 0

def popDirectory : Builtin := fun args => do
  let m ← get
  let stays := args.contains ['-', 'n']
  let args := args.filter (· != ['-', 'n'])
  let all := m.directory :: m.stack
  let position ← match args with
    | [] => pure (some 0)
    | a :: _ =>
      match stackPosition? all.length a with
      | some n => pure n
      | none =>
        let what := if a.head? == some '-' then ": invalid number" else ": invalid argument"
        misuse (a ++ what.toList) " [-n] [+N | -N]"
  match position, m.stack with
  | _, [] => abort "directory stack empty".toList
  | none, _ => abort ((args.head?.getD []) ++ ": directory stack index out of range".toList)
  | some 0, top :: rest => do
    if !stays then enter top
    modify fun m => { m with stack := rest }
  | some n, stack => modify fun m => { m with stack := stack.eraseIdx (n - 1) }
  showStack false false false
  Session.setStatus 0

end MediaPipeline.Shell.Builtin
