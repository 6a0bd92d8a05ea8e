import MediaPipeline.Shell.Finding.Query
import MediaPipeline.Program.Directory
import MediaPipeline.Shell.Starting

/-!
Going through trees of files: each file is asked a query, which may do something with it.
-/

namespace MediaPipeline.Shell.Finding

def lastName (path : Octets) : Octets :=
  if path.all (· == '/') then path
  else (Files.names path).getLast?.getD path

def fitting (anyCase : Bool) (pattern text : Octets) : Bool :=
  let lower (t : Octets) : Octets :=
    if anyCase then Octets.ofCharacters ((Octets.characters t).map Letter.lower) else t
  (Pattern.ofMarked ⟨true, false⟩ ((lower pattern).map fun c => (c, false))).fits (lower text)

structure Trail where
  /-- Paths for commands that are started once, by the words of the command. -/
  collected : List (List Octets × List Octets) := []
  written : List (Octets × Octets) := []
  /-- The files below are left out. -/
  pruned : Bool := false
  stopped : Bool := false
  failed : Bool := false
  warned : List Octets := []

abbrev Walk := StateT Trail Session

/-- A file that is met: its path, how deep it lies below which start, and its entry. -/
structure Met where
  path : Octets
  start : Octets
  depth : Nat
  place : Place
  entry : Entry

def isEmptyEntry (fs : Files) (place : Place) : Entry → Bool
  | .document d => d.content.isEmpty
  | .directory => (fs.namesIn place).isEmpty
  | _ => false

def kindOfEntry (e : Entry) : Char :=
  match Program.kindLetter e with
  | '-' => 'f'
  | c => c

def give (target : Target) (text : Octets) : Walk Unit :=
  match target with
  | none => Session.out text
  | some f => modify fun t => { t with written := t.written.map fun (g, own) =>
      if g == f then (g, own ++ text) else (g, own) }

/-! ### Formats -/

def momentFormat : Octets :=
  "%a %b %e %H:%M:%S.%N0 %Y".toList

/-- What a sign of a format stands for; `none` if it has no meaning. -/
def formatPart? (i : Invocation) (fs : Files) (m : Met) (c : Char) (next : Option Char) :
    Option Octets :=
  let time := fs.timeOf m.place m.entry
  let moment := Program.momentAt i time
  let written (format : String) : Octets := moment.format true format.toList
  match c with
  | 'p' => some m.path
  | 'f' => some (lastName m.path ++ (if m.path.length != 1 && m.path.getLast? == some '/' then ['/'] else []))
  | 'h' =>
    let trimmed := (m.path.reverse.dropWhile (· == '/')).reverse
    match trimmed.reverse.dropWhile (· != '/') with
    | [] => some (if m.path.contains '/' then [] else ['.'])
    | '/' :: rest => some rest.reverse
    | rest => some rest.reverse
  | 'P' =>
    let rest := m.path.drop m.start.length
    some (if rest.head? == some '/' then rest.tail else rest)
  | 'H' => some m.start
  | 'd' => some (Octets.ofNat m.depth)
  | 's' => some (Octets.ofNat (Program.entrySize m.entry))
  | 'm' => some (Nat.toDigits 8 (fs.modeOf m.place m.entry))
  | 'M' => some (Program.entryLetters fs m.place m.entry)
  | 'y' => some [kindOfEntry m.entry]
  | 'Y' => some (match m.entry with
    | .link _ => match fs.find m.path with
      | .ok e => [kindOfEntry e]
      | .error .tooManyLinks => ['L']
      | .error _ => ['N']
    | e => [kindOfEntry e])
  | 'l' => some (match m.entry with
    | .link target => target
    | _ => [])
  | 'n' => some (Octets.ofNat (fs.linkCount m.place m.entry))
  | 'u' | 'g' => some "root".toList
  | 'U' | 'G' => some ['0']
  | 'k' => some (Octets.ofNat (Program.entryBlocks m.entry))
  | 'b' => some (Octets.ofNat (2 * Program.entryBlocks m.entry))
  | 't' | 'a' | 'c' => some (moment.format true momentFormat)
  | 'T' | 'A' | 'C' => match next with
    | some '@' => some (Program.secondsText none time ++ ['0'])
    | some '+' => some (written "%Y-%m-%d+%H:%M:%S.%N0")
    | some 'S' => some (written "%S.%N0")
    | some 'T' | some 'X' => some (written "%H:%M:%S.%N0")
    | some 'k' => some (written "%k")
    | some d => some (written (String.ofList ['%', d]))
    | none => none
  | '%' => some ['%']
  | _ => none

/-- What a format makes of a file, whether it ends the output early, and what is wrong with it. -/
def formatted (i : Invocation) (fs : Files) (m : Met) : Nat → Octets → Octets × List Octets
  | 0, _ | _, [] => ([], [])
  | fuel + 1, '\\' :: rest =>
    match rest with
    | [] => (['\\'], ["escape \x60\\' followed by nothing at all".toList])
    | 'c' :: _ => ([], [])
    | c :: behind =>
      let (text, after) := takeEscape { zero := false, codes := false, quotes := false } rest
      let (more, faults) := formatted i fs m fuel after
      if text == ['\\', c] && c != '\\' then
        let (more, faults) := formatted i fs m fuel behind
        (text ++ more, ("unrecognized escape \x60\\".toList ++ [c, '\'']) :: faults)
      else (text ++ more, faults)
  | fuel + 1, '%' :: rest =>
    let flags := rest.takeWhile fun c => "-+ #0".toList.contains c
    let behind := rest.drop flags.length
    let width := behind.takeWhile Char.isDigit
    let behind := behind.drop width.length
    let (precision, behind) : Option Nat × Octets := match behind with
      | '.' :: more => (some (natural (more.takeWhile Char.isDigit)), more.dropWhile Char.isDigit)
      | more => (none, more)
    match behind with
    | [] => ([], [])
    | c :: after =>
      let timed := c == 'T' || c == 'A' || c == 'C'
      let (next, rest') := if timed then (after.head?, after.tail) else (none, after)
      let (more, faults) := formatted i fs m fuel rest'
      match formatPart? i fs m c next with
      | some text =>
        let text := precision.elim text text.take
        let n := natural width
        ((if flags.contains '-' then padRight n text
          else padLeft n text) ++ more, faults)
      | none =>
        ('%' :: c :: more, ("unrecognized format directive \x60%".toList ++ [c, '\'']) :: faults)
  | fuel + 1, c :: rest =>
    let (more, faults) := formatted i fs m fuel rest
    (c :: more, faults)

/-! ### Asking -/

/-- A query of whose parts a file is asked one after the other, with a bound on their depth; actions that
start commands stand apart. -/
def test (fs : Files) (present : Int) (m : Met) : Query → Option Bool
  | .always b => some b
  | .name pattern anyCase => some (fitting anyCase pattern (lastName m.path))
  | .path pattern anyCase => some (fitting anyCase pattern m.path)
  | .linked pattern anyCase => some (match m.entry with
    | .link target => fitting anyCase pattern target
    | _ => false)
  | .regex r anyCase =>
    let text := (Octets.characters m.path).toArray
    some ((Regex.places { text, anyCase } r ⟨0, []⟩).any fun p => p.position == text.size)
  | .kind letters followed =>
    let entry := if followed then match fs.find m.path with
        | .ok e => e
        | .error _ => m.entry
      else m.entry
    some (letters.contains (kindOfEntry entry))
  | .empty => some (isEmptyEntry fs m.place m.entry)
  | .size unit b => some (b.holds ((Program.entrySize m.entry + unit - 1) / unit))
  | .links b => some (b.holds (fs.linkCount m.place m.entry))
  | .mode kind bits =>
    let own := fs.modeOf m.place m.entry
    some (match kind with
      | .exactly => own == bits
      | .allOf => own &&& bits == bits
      | .anyOf => own &&& bits != 0)
  | .executable => some (m.entry matches .directory || fs.modeOf m.place m.entry &&& 0o111 != 0)
  | .newer time => some (time < fs.timeOf m.place m.entry)
  | .age unit b =>
    let age := present - Int.fdiv (fs.timeOf m.place m.entry) 1000000000
    let units := if unit = 60 then
        (match b.order with
          | .gt => age.toNat / 60
          | _ => (age.toNat + 59) / 60)
      else age.toNat / unit
    some (b.holds units)
  | .same path => some (match fs.resolve path false with
    | .ok (place, some _) => fs.isSame place m.place
    | _ => false)
  | .owned b => some b
  | _ => none

def remove (i : Invocation) (m : Met) : Walk Bool := do
  let machine ← getThe Machine
  match machine.files.at? m.place with
  | none => pure false
  | some e =>
    if e matches .directory && !(machine.files.namesIn m.place).isEmpty then do
      Starting.complain i ("cannot delete ".toList ++ Quoting.plain m.path ++
        ": Directory not empty".toList)
      modify fun t => { t with failed := true }
      pure false
    else do
      if m.path != ['.'] then
        modifyThe Machine fun w => { w with files := w.files.remove m.place }
      pure true

def startFor (start : Starter) (i : Invocation) (words : List Octets) (path : Octets)
    (inside : Bool) : Walk Bool := do
  let shown := if inside then "./".toList ++ lastName path else path
  let own := words.map fun w => Starting.replaced "\x7b\x7d".toList shown (w.length + 1) w
  let before ← getThe Machine
  match own with
  | [] => pure true
  | command :: args => do
    if inside then
      match before.files.resolve (Program.frontPart path) true with
      | .ok (place, some .directory) =>
        modifyThe Machine fun w => { w with files := { w.files with directory := place } }
      | _ => pure ()
    let result ← start i.environment command args
    modifyThe Machine fun w => { w with descriptors := before.descriptors, files :=
      { w.files with directory := before.files.directory } }
    match result with
    | .ok status => pure (status = 0)
    | .error f => do
      Starting.complain i (Quoting.plain command ++ ": ".toList ++ (Starting.launchText f).toList)
      pure false

def ask (start : Starter) (i : Invocation) (m : Met) : Query → Walk Bool
  | .print ending target => do
    give target (m.path ++ [ending])
    pure true
  | .format text target => do
    let fs := (← getThe Machine).files
    let (out, faults) := formatted i fs m (text.length + 1) text
    for f in faults do
      if !(← get).warned.contains f then
        Starting.complain i ("warning: ".toList ++ f)
        modify fun t => { t with warned := f :: t.warned }
    give target out
    pure true
  | .list => do
    let fs := (← getThe Machine).files
    let names : List Program.Listed := [⟨m.path, m.place, m.entry⟩]
    let line := Program.listNames { i with files := fs } { options := [("l", [])] } names
    let number := Program.statField { i with files := fs } m.path m.place m.entry none false 'i'
    Session.out (padLeft 9 number ++ ' ' ::
      padLeft 6 (Octets.ofNat (Program.entryBlocks m.entry)) ++ ' ' :: line)
    pure true
  | .delete => remove i m
  | .prune => do
    modify fun t => { t with pruned := true }
    pure true
  | .quit => do
    modify fun t => { t with stopped := true }
    pure true
  | .start words inside asks => do
    if asks then
      Session.err ("< ".toList ++ (words.headD []) ++ " ... ".toList ++ m.path ++ " > ? ".toList)
      pure false
    else startFor start i words m.path inside
  | .startOnce words => do
    modify fun t => { t with collected := t.collected.map fun (w, paths) =>
      if w == words then (w, paths ++ [m.path]) else (w, paths) }
    pure true
  | .not q => return !(← ask start i m q)
  | .and a b => do
    if ← ask start i m a then
      if (← get).stopped then pure true else ask start i m b
    else pure false
  | .or a b => do
    if ← ask start i m a then pure true
    else if (← get).stopped then pure false else ask start i m b
  | .list2 a b => do
    let _ ← ask start i m a
    if (← get).stopped then pure true else ask start i m b
  | q => do
    let w ← getThe Machine
    let present := Moment.present + (w.clock / 1000000 : Nat) + 1
    pure ((test w.files present m q).getD false)

/-! ### Going through a tree -/

def walk (start : Starter) (i : Invocation) (e : Expression) (q : Query) (root : Octets) :
    Nat → Nat → Octets → Walk Unit
  | 0, _, _ => pure ()
  | fuel + 1, depth, path => do
    let fs := (← getThe Machine).files
    let found : Except PathFault (Place × Option Entry) := match fs.resolve path e.follows with
      | .ok (place, some entry) => .ok (place, some entry)
      | _ => fs.resolve path false
    match found with
    | .ok (place, some entry) => do
      let own : Walk Unit := do
        if e.first ≤ depth && !(← get).stopped then
          let _ ← ask start i ⟨path, root, depth, place, entry⟩ q
      let below : Walk Unit := do
        let t ← get
        if entry matches .directory && !t.pruned && !t.stopped && e.deepest.all (depth < ·) then
          for n in (← getThe Machine).files.namesIn place do
            let front := if path.getLast? == some '/' then path else path ++ ['/']
            if !(← get).stopped then walk start i e q root fuel (depth + 1) (front ++ n)
      modify fun t => { t with pruned := false }
      if e.childrenFirst then
        below
        own
      else
        own
        below
      modify fun t => { t with pruned := false }
    | found => do
      let text := match found with
        | .error f => f.message
        | .ok _ => PathFault.missing.message
      Starting.complain i (Quoting.plain path ++ ": ".toList ++ text.toList)
      modify fun t => { t with failed := true }

def startCollected (start : Starter) (i : Invocation) (collected : List (List Octets × List Octets)) :
    Session Bool := do
  let mut failed := false
  for (words, paths) in collected do
    match words with
    | [] => pure ()
    | command :: args =>
      if !paths.isEmpty then
        match ← start i.environment command (args ++ paths) with
        | .ok status => failed := failed || status != 0
        | .error f => do
          Starting.complain i (Quoting.plain command ++ ": ".toList ++
            (Starting.launchText f).toList)
          failed := true
  pure failed

def writeTargets (i : Invocation) (written : List (Octets × Octets)) : Session Unit := do
  for (path, text) in written do
    let m ← get
    match m.files.resolve path true with
    | .ok (place, none) | .ok (place, some (.document _)) =>
      set { m with files := m.files.write place text (0o666 - (0o666 &&& i.mask)) }
    | .ok (_, some (.device (.descriptor 1))) => Session.out text
    | .ok (_, some (.device (.descriptor 2))) => Session.err text
    | _ => pure ()

def find : StartingProgram := fun start i => do
  let isSetting (a : Octets) : Bool :=
    ["-H", "-L", "-P"].contains (String.ofList a) || a.take 2 == ['-', 'O']
  let settings := i.arguments.takeWhile isSetting
  let args := i.arguments.drop settings.length
  let args := if args.head? == some ['-', '-'] then args.tail else args
  let paths := args.takeWhile fun a => !beginsExpression a
  let words := args.drop paths.length
  let given := match settings.getLast? with
    | some s => s == ['-', 'L']
    | none => false
  let start' : Expression :=
    { rest := words, files := i.files, present := i.present, follows := given, mask := i.mask
      setting := i.environment.lookup "TZ".toList }
  if words.head?.any (fun w => w == "-version".toList || w == "--version".toList) then
    Starting.finish { out := ("find (" ++ i.files.maker.name ++ " findutils) 4.9.0\n").toList }
  else
  let parsed := if words.isEmpty then .ok (Query.always true, start')
    else (listed (4 * words.length + 8) none).run start'
  match parsed with
  | .error text => Starting.finish (i.fail 1 text)
  | .ok (q, e) =>
    if !e.rest.isEmpty then
      Starting.finish (i.fail 1 "invalid expression; you have too many ')'".toList)
    else do
      let bad := q.targets.find? fun f => match i.files.resolve f true with
        | .ok (_, some .directory) | .error _ => true
        | _ => false
      match bad with
      | some f =>
        Starting.finish (i.fail 1 (Quoting.plain f ++ (match i.files.resolve f true with
          | .error fault => ": " ++ fault.message
          | .ok _ => ": Is a directory").toList))
      | none => do
        let q := if q.acts then q else .and q (.print '\n' none)
        let commands := q.commands.eraseReps
        let trail : Trail :=
          { collected := commands.map fun w => (w, []), written := q.targets.eraseReps.map fun f => (f, []) }
        let visit (p : Octets) : Walk Unit := do
          if !(← get).stopped then walk start i e q p 1000 0 p
        let (_, t) ← ((if paths.isEmpty then [['.']] else paths).forM visit).run trail
        writeTargets i t.written
        let failed ← startCollected start i t.collected
        pure (if failed || t.failed then 1 else 0)

end MediaPipeline.Shell.Finding
