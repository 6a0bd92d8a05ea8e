import MediaPipeline.Calendar.Reading
import MediaPipeline.Program.Modes

/-!
Programs that make, link and remove the entries of the tree of files.
-/

namespace MediaPipeline.Program

open Shell (Quoting.plain Quoting.always Quoting.asNeeded)
open ProgramOption (flag value)

/-! ### Making -/

def makeDirectory (i : Invocation) (a : Arguments) (j : Job) (path : Octets) : Job :=
  let verbose := a.has "v"
  let made (path : Octets) : Octets :=
    i.name ++ ": created directory ".toList ++ Quoting.always path
  let refuse (path : Octets) (fault : String) (j : Job) : Job :=
    j.fail i ("cannot create directory ".toList ++ Quoting.plain path ++ ": ".toList ++ fault.toList)
  let usual := freshMode i 0o777
  let wanted := ((a.value? "m").bind fun m => changedMode i.mask true m 0o777).getD usual
  let one (last parents : Bool) (path : Octets) (j : Job) : Job × Bool :=
    match j.files.resolve (trimSlashes path) true with
    | .ok (place, none) =>
      let mode := if last then wanted else Nat.lor usual 0o300
      (({ j with files := j.files.make place .directory mode }).note verbose (made path), true)
    | .ok (_, some .directory) =>
      if parents then (j, true) else (refuse path "File exists" j, false)
    | .ok _ => (refuse path "File exists" j, false)
    | .error f => (refuse path f.message j, false)
  if !a.has "p" then (one true false path j).1
  else
    let rec steps : Octets → List Octets → Job → Job
      | _, [], j => j
      | front, [name], j => (one true true (front ++ name) j).1
      | front, name :: rest, j =>
        let own := front ++ name
        match j.files.find own with
        | .ok .directory => steps (own ++ ['/']) rest j
        | .ok _ => refuse own "Not a directory" j
        | .error _ =>
          let (j, ok) := one false true own j
          if ok then steps (own ++ ['/']) rest j else j
    if path.isEmpty then refuse path "No such file or directory" j
    else steps (if path.head? == some '/' then ['/'] else []) (Files.names path) j

def mkdir (i : Invocation) : Outcome :=
  let known := [value 'm' "mode", flag 'p' "parents", flag 'v' "verbose", ⟨some 'Z', none, .none⟩,
    ⟨none, some "context", .joined⟩]
  i.withOptions known 1 fun a =>
    let badMode := (a.value? "m").filter fun m => (changedMode i.mask true m 0).isNone
    match a.operands, badMode with
    | [], _ => i.missingOperand 1
    | _, some m => i.fail 1 ("invalid mode ".toList ++ Quoting.plain m)
    | paths, none => (paths.foldl (makeDirectory i a) (Job.start i)).finish

/-- The moment that digits stand for: month, day, hour and minute, with a year in front of them and
seconds behind a point if wanted. -/
def stampMoment? (setting : Option Octets) (present : Moment) (text : Octets) : Option Moment :=
  let digits := text.takeWhile Char.isDigit
  let seconds : Option Nat := match text.drop digits.length with
    | [] => some 0
    | ['.', a, b] => if a.isDigit && b.isDigit then some (natural [a, b]) else none
    | _ => none
  let part (n : Nat) : Nat := natural ((digits.drop (digits.length - n)).take 2)
  let year : Option Int := match digits.length with
    | 8 => some present.day.year
    | 10 => some (Moment.Naming.fullYear (digits.take 2))
    | 12 => some (natural (digits.take 4))
    | _ => none
  match year, seconds with
  | some year, some seconds =>
    let naming : Moment.Naming := { year := some year, date := some (part 8, part 6),
                                    time := some (part 4, part 2, seconds, 0) }
    (naming.resolve? present setting).map fun (s, _) => Moment.onClock setting s
  | _, _ => none

def Moment.total (m : Moment) : Int :=
  m.seconds * 1000000000 + m.nanoseconds

/-- Makes plain files that are missing, and gives others another time. -/
def touch (i : Invocation) : Outcome :=
  let known := [⟨some 'a', none, .none⟩, flag 'c' "no-create", value 'd' "date",
    ⟨some 'f', none, .none⟩, flag 'h' "no-dereference", ⟨some 'm', none, .none⟩,
    value 'r' "reference", ⟨some 't', none, .needed⟩] ++ ProgramOption.names .needed ["time"]
  i.withOptions known 1 fun a =>
    let setting := i.environment.lookup "TZ".toList
    let named : Except Octets (Option Int) :=
      match a.value? "r", a.value? "t", a.value? "d" with
      | some f, _, _ => match i.files.resolve f true with
        | .ok (place, some e) => .ok (some (i.files.timeOf place e))
        | .ok (_, none) => .error ("failed to get attributes of ".toList ++ Quoting.always f ++
            ": No such file or directory".toList)
        | .error e => .error ("failed to get attributes of ".toList ++ Quoting.always f ++ ": ".toList ++
            e.message.toList)
      | none, some t, _ => match stampMoment? setting i.present t with
        | some m => .ok (some (Moment.total m))
        | none => .error ("invalid date format ".toList ++ Quoting.plain t)
      | none, none, some t => match Moment.named? setting i.present t with
        | some m => .ok (some (Moment.total m))
        | none => .error ("invalid date format ".toList ++ Quoting.plain t)
      | none, none, none => .ok none
    let onlyAccess := a.has "a" && !a.has "m"
    match named, a.operands with
    | .error text, _ => i.fail 1 text
    | .ok _, [] => i.misuse 1 "missing file operand".toList
    | .ok time, paths =>
      (paths.foldl (fun j path =>
        let set (place : Place) (j : Job) : Job :=
          if onlyAccess then j
          else { j with files := { j.files.setTime place (time.getD j.files.now) with
                                   clock := j.files.clock + 1 } }
        match j.files.resolve path (!a.has "h") with
        | .ok (place, none) =>
          if a.has "c" then j
          else if path.getLast? == some '/' then
            j.fail i ("setting times of ".toList ++ Quoting.always path ++
              ": No such file or directory".toList)
          else set place { j with files := j.files.write place [] (freshMode i 0o666) }
        | .ok (place, some _) => set place j
        | .error f =>
          if a.has "c" && f matches .missing then j
          else j.failAt i "cannot touch" path f.message) (Job.start i)).finish

/-! ### Linking -/

def relativeTo (base place : Place) : Octets :=
  let rec shared : Place → Place → Nat
    | a :: as, b :: bs => if a == b then shared as bs + 1 else 0
    | _, _ => 0
  let n := shared base place
  let up := List.replicate (base.length - n) ['.', '.']
  let all := up ++ place.drop n
  if all.isEmpty then ['.'] else joinOctets ['/'] all

def linkPath (i : Invocation) (a : Arguments) (j : Job) (source target : Octets) : Job :=
  let symbolic := a.has "s"
  let kind := "failed to create ".toList ++
    (if symbolic then "symbolic link " else "hard link ").toList
  let arrow := (if symbolic then " -> " else " => ").toList
  let done (j : Job) (shown : Octets) (backup : Option Octets) : Job :=
    j.note (a.has "v") (Quoting.always target ++ arrow ++ Quoting.always shown ++ backupNote backup)
  let put (j : Job) (place : Place) (backup : Option Octets) : Job :=
    if symbolic then
      let text := if a.has "r" then
          match j.files.resolve source true with
          | .ok (own, _) => relativeTo place.dropLast own
          | .error _ => source
        else source
      done { j with files := j.files.make place (.link text) 0o777 } text backup
    else match j.files.resolve source (a.has "L") with
      | .ok (own, some (.document d)) => done { j with files := j.files.join d own place } source backup
      | .ok (_, some e) => done { j with files := j.files.put place e } source backup
      | _ => j
  let fault : Option Job :=
    if symbolic then none
    else match j.files.resolve source (a.has "L") with
      | .error f => some (j.failAt i "failed to access" source f.message)
      | .ok (_, none) => some (j.failAt i "failed to access" source "No such file or directory")
      | .ok (_, some .directory) => some (j.fail i
          (Quoting.asNeeded source ++ ": hard link not allowed for directory".toList))
      | .ok _ => none
  match fault, j.files.resolve target false with
  | some j, _ => j
  | none, .error f =>
    j.fail i (kind ++ Quoting.always target ++
      (if symbolic then [] else " => ".toList ++ Quoting.always source) ++ ": ".toList ++
      f.message.toList)
  | none, .ok (place, none) => put j place none
  | none, .ok (place, some there) =>
    let same := match j.files.resolve source (a.has "L") with
      | .ok (own, some _) => j.files.isSame own place
      | _ => false
    let backs := a.has "b" || a.has "S" || a.has "backup"
    if there matches .directory then
      j.fail i (if a.has "f" || a.has "i" || backs then
        Quoting.asNeeded target ++ ": cannot overwrite directory".toList
        else kind ++ Quoting.always target ++ ": File exists".toList)
    else if a.has "i" && !a.has "f" then
      let (agreed, j) := j.ask (i.name ++ ": replace ".toList ++ Quoting.always target ++ "? ".toList)
      if agreed then put { j with files := j.files.remove place } place none else j
    else if backs then
      let (j, backup) := j.backUp a target place
      put j place (some backup)
    else if a.has "f" then
      if same && (!symbolic || source == target) then
        j.fail i (Quoting.always source ++ " and ".toList ++ Quoting.always target ++
          " are the same file".toList)
      else put { j with files := j.files.remove place } place none
    else j.fail i (kind ++ Quoting.always target ++ ": File exists".toList)

def ln (i : Invocation) : Outcome :=
  let known := [flag 's' "symbolic", flag 'f' "force", flag 'v' "verbose", flag 'n' "no-dereference",
    flag 'r' "relative", flag 'T' "no-target-directory", value 't' "target-directory",
    flag 'i' "interactive", ⟨some 'b', none, .none⟩, flag 'L' "logical", flag 'P' "physical",
    value 'S' "suffix", flag 'd' "directory", ⟨some 'F', none, .none⟩, ⟨none, some "backup", .joined⟩]
  i.withOptions known 1 fun a =>
    let link := linkPath i a
    let inside (directory source : Octets) : Octets := below directory (lastPart source)
    let j := Job.start i
    match a.value? "t", a.operands with
    | _, [] => i.misuse 1 "missing file operand".toList
    | some d, sources =>
      if !j.files.isDirectory d then
        i.fail 1 ("target directory ".toList ++ Quoting.always d ++
          (if j.files.pathExists d then ": Not a directory"
            else ": No such file or directory").toList)
      else (sources.foldl (fun j s => link j s (inside d s)) j).finish
    | none, [source] =>
      if a.has "T" then
        i.misuse 1 ("missing destination file operand after ".toList ++ Quoting.always source)
      else (link j source (below ['.'] (lastPart source))).finish
    | none, operands =>
      let target := operands.getLast?.getD []
      let sources := operands.dropLast
      let isLink := j.files.findLink target matches .ok (.link _)
      if a.has "T" then match sources with
        | [source] => (link j source target).finish
        | _ => i.extraOperand 1 (operands[2]?.getD [])
      else if j.files.isDirectory target && !(a.has "n" && isLink) then
        (sources.foldl (fun j s => link j s (inside target s)) j).finish
      else match sources with
        | [source] => (link j source target).finish
        | _ => i.fail 1 ("target ".toList ++ Quoting.always target ++
            (if j.files.pathExists target then ": Not a directory"
              else ": No such file or directory").toList)

/-- Makes one file have a further name. -/
def link (i : Invocation) : Outcome :=
  i.withOptions [] 1 fun a =>
    match a.operands with
    | [] => i.missingOperand 1
    | [f] => i.misuse 1 ("missing operand after ".toList ++ Quoting.plain f)
    | [f, g] =>
      let refuse (text : String) : Outcome :=
        i.fail 1 ("cannot create link ".toList ++ Quoting.always g ++ " to ".toList ++
          Quoting.always f ++ ": ".toList ++ text.toList)
      match i.files.resolve f false, i.files.resolve g false with
      | .ok (own, some (.document d)), .ok (place, none) => { files := some (i.files.join d own place) }
      | .ok (_, some .directory), .ok (_, none) => refuse "Operation not permitted"
      | .ok (_, some e), .ok (place, none) => { files := some (i.files.put place e) }
      | .ok (_, some _), .ok (_, some _) => refuse "File exists"
      | .ok (_, none), _ => refuse "No such file or directory"
      | .error e, _ | .ok _, .error e => refuse e.message
    | _ :: _ :: extra :: _ => i.extraOperand 1 extra

/-! ### Pipes -/

def makePipe (i : Invocation) (mode : Nat) (refusal : Octets → Octets) (j : Job) (path : Octets) :
    Job :=
  let refuse (fault : String) : Job := j.fail i (refusal path ++ ": ".toList ++ fault.toList)
  match j.files.resolve path false with
  | .ok (place, none) => { j with files := j.files.make place (.device (.pipe [])) mode }
  | .ok (_, some _) => refuse "File exists"
  | .error f => refuse f.message

def mkfifo (i : Invocation) : Outcome :=
  let known := [value 'm' "mode", ⟨some 'Z', none, .none⟩, ⟨none, some "context", .joined⟩]
  i.withOptions known 1 fun a =>
    let mode := match a.value? "m" with
      | some m => changedMode i.mask false m 0o666
      | none => some (freshMode i 0o666)
    match a.operands, mode with
    | [], _ => i.missingOperand 1
    | _, none => i.fail 1 "invalid mode".toList
    | paths, some mode =>
      let refusal (path : Octets) : Octets := "cannot create fifo ".toList ++ Quoting.always path
      (paths.foldl (makePipe i mode refusal) (Job.start i)).finish

def mknod (i : Invocation) : Outcome :=
  let known := [value 'm' "mode", ⟨some 'Z', none, .none⟩, ⟨none, some "context", .joined⟩]
  i.withOptions known 1 fun a =>
    let mode := match a.value? "m" with
      | some m => changedMode i.mask false m 0o666
      | none => some (freshMode i 0o666)
    let isPipe := a.operands.isEmpty || ((a.operands.drop 1).head?.bind List.head?) == some 'p'
    let wanted := if isPipe then 2 else 4
    let count := a.operands.length
    match a.operands, mode with
    | _, none => i.fail 1 "invalid mode".toList
    | [], _ => i.missingOperand 1
    | path :: kind, some mode =>
      if count < wanted then
        let last := (a.operands.getLast?).getD []
        { status := 1
          err := i.complaint ("missing operand after ".toList ++ Quoting.plain last) ++
            (if wanted = 4 && count = 2
              then "Special files require major and minor device numbers.\n".toList else []) ++ i.hint }
      else if wanted < count then
        let extra := ((a.operands.drop wanted).head?).getD []
        { status := 1
          err := i.complaint ("extra operand ".toList ++ Quoting.plain extra) ++
            (if wanted = 2 && count = 4
              then "Fifos do not have major and minor device numbers.\n".toList else []) ++ i.hint }
      else match (kind.head?.bind List.head?) with
        | some 'p' => (makePipe i mode Quoting.asNeeded (Job.start i) path).finish
        | some c =>
          if !(['b', 'c', 'u'].contains c) then
            i.misuse 1 ("invalid device type ".toList ++ Quoting.plain ((kind.head?).getD []))
          else match i.files.resolve path false with
            | .ok (place, none) => { files := some (i.files.make place (.device .other) mode) }
            | .ok (_, some _) => i.fail 1 (Quoting.asNeeded path ++ ": File exists".toList)
            | .error f => i.fail 1 (Quoting.asNeeded path ++ ": ".toList ++ f.message.toList)
        | none => i.misuse 1 ("invalid device type ".toList ++ Quoting.plain [])

/-! ### Removing -/

def placesBelow (fs : Files) : Nat → Place → List Place
  | 0, place => [place]
  | fuel + 1, place =>
    match fs.at? place with
    | some .directory =>
      ((fs.namesIn place).flatMap fun n => placesBelow fs fuel (place ++ [n])) ++ [place]
    | _ => [place]

/-- Removes an entry and all below it, each of them only if that is agreed to. -/
def removeAsking (i : Invocation) (a : Arguments) : Nat → Job → Octets → Place → Job
  | 0, j, _, _ => j
  | fuel + 1, j, path, place =>
    let question (what : String) : Octets :=
      i.name ++ ": ".toList ++ what.toList ++ Quoting.always path ++ "? ".toList
    let remove (kind : String) (j : Job) : Job :=
      ({ j with files := j.files.remove place }).note (a.has "v")
        (kind.toList ++ Quoting.always path)
    match j.files.at? place with
    | none => j
    | some .directory =>
      let names := j.files.namesIn place
      let (agreed, j) := if names.isEmpty then (true, j)
        else j.ask (question "descend into directory ")
      if !agreed then j
      else
        let j := names.foldl (fun j n => removeAsking i a fuel j (below path n) (place ++ [n])) j
        let (agreed, j) := j.ask (question "remove directory ")
        if !agreed then j
        else if (j.files.namesIn place).isEmpty then remove "removed directory " j
        else j.failAt i "cannot remove" path "Directory not empty"
    | some e =>
      let kind := match e with
        | .document d => if d.content.isEmpty then "regular empty file " else "regular file "
        | .link _ => "symbolic link "
        | .device (.pipe _) => "fifo "
        | _ => "character special file "
      let (agreed, j) := j.ask (question ("remove " ++ kind))
      if agreed then remove "removed " j else j

def rm (i : Invocation) : Outcome :=
  let known := [flag 'f' "force", ⟨some 'i', none, .none⟩, ⟨some 'I', none, .none⟩,
    flag 'r' "recursive", ⟨some 'R', none, .none⟩, flag 'd' "dir", flag 'v' "verbose"] ++
    ProgramOption.names .none ["one-file-system", "no-preserve-root"] ++
    ProgramOption.names .joined ["interactive", "preserve-root"]
  i.withOptions known 1 fun a =>
    let recursive := a.has "r" || a.has "R"
    let prompts := a.lastOf? ["f", "i", "I", "interactive"]
    let asks := prompts == some "i" || (prompts == some "interactive" &&
      ["", "always", "yes"].contains (String.ofList ((a.value? "interactive").getD [])))
    let asksOnce := prompts == some "I" || (prompts == some "interactive" &&
      a.value? "interactive" == some "once".toList)
    let removed (j : Job) (path : Octets) (place : Place) : Job :=
      if asks then removeAsking i a 1000 j path place
      else
        let base := place.length
        let lines := (placesBelow j.files 1000 place).flatMap fun p =>
          let own := (p.drop base).foldl below path
          let kind := if j.files.at? p matches some .directory then "removed directory " else "removed "
          kind.toList ++ Quoting.always own ++ ['\n']
        { j with files := j.files.remove place, out := j.out ++ if a.has "v" then lines else [] }
    let count := a.operands.length
    let (agreed, start) := if asksOnce && (recursive || 3 < count) then
        (Job.start i).ask (i.name ++ ": remove ".toList ++ Octets.ofNat count ++
          (if count = 1 then " argument" else " arguments").toList ++
          (if recursive then " recursively? " else "? ").toList)
      else (true, Job.start i)
    if a.operands.isEmpty then if a.has "f" then {} else i.missingOperand 1
    else if !agreed then start.finish
    else (a.operands.foldl (fun j path =>
      let last := lastPart path
      if recursive && (last == ['.'] || last == ['.', '.']) then
        j.fail i ("refusing to remove '.' or '..' directory: skipping ".toList ++
          Quoting.always path)
      else if recursive && last == ['/'] then
        (j.fail i "it is dangerous to operate recursively on '/'".toList).fail i
          "use --no-preserve-root to override this failsafe".toList
      else match j.files.resolve path false with
        | .ok (place, some .directory) =>
          if recursive then removed j path place
          else if a.has "d" then
            if (j.files.namesIn place).isEmpty then removed j path place
            else j.failAt i "cannot remove" path "Directory not empty"
          else j.failAt i "cannot remove" path "Is a directory"
        | .ok (place, some _) =>
          if path.getLast? == some '/' then j.failAt i "cannot remove" path "Not a directory"
          else removed j path place
        | .ok (_, none) | .error .missing =>
          if a.has "f" then j else j.failAt i "cannot remove" path "No such file or directory"
        | .error f =>
          if a.has "f" && f matches .notDirectory then j
          else j.failAt i "cannot remove" path f.message) start).finish

def rmdir (i : Invocation) : Outcome :=
  let known := [flag 'p' "parents", flag 'v' "verbose"] ++
    ProgramOption.names .none ["ignore-fail-on-non-empty"]
  i.withOptions known 1 fun a =>
    let one (parent : Bool) (j : Job) (path : Octets) : Job × Bool :=
      let what := if parent then "failed to remove directory" else "failed to remove"
      let j := j.note (a.has "v") (i.name ++ ": removing directory, ".toList ++ Quoting.always path)
      match j.files.resolve path false with
      | .ok (place, some .directory) =>
        if lastPart path == ['.'] then (j.failAt i what path "Invalid argument", false)
        else if (j.files.namesIn place).isEmpty then
          ({ j with files := j.files.remove place }, true)
        else if a.has "ignore-fail-on-non-empty" then (j, false)
        else (j.failAt i what path "Directory not empty", false)
      | .ok (_, some _) => (j.failAt i what path "Not a directory", false)
      | .ok (_, none) => (j.failAt i what path "No such file or directory", false)
      | .error f => (j.failAt i what path f.message, false)
    let rec climb : Nat → Bool → Job → Octets → Job
      | 0, _, j, _ => j
      | fuel + 1, parent, j, path =>
        let (j, ok) := one parent j path
        let up := frontPart path
        if ok && a.has "p" && up != ['.'] && up != ['/'] then climb fuel true j up else j
    if a.operands.isEmpty then i.missingOperand 1
    else (a.operands.foldl (fun j path => climb (path.length + 1) false j path)
      (Job.start i)).finish

def unlink (i : Invocation) : Outcome :=
  i.withOptions [] 1 fun a =>
    match a.operands with
    | [] => i.missingOperand 1
    | [path] =>
      let j := Job.start i
      (match j.files.resolve path false with
      | .ok (_, some .directory) => j.failAt i "cannot unlink" path "Is a directory"
      | .ok (place, some _) => { j with files := j.files.remove place }
      | .ok (_, none) => j.failAt i "cannot unlink" path "No such file or directory"
      | .error f => j.failAt i "cannot unlink" path f.message).finish
    | _ :: extra :: _ => i.extraOperand 1 extra

/-- The programs that make, link and remove entries. -/
def changes : List (String × Program) := [
  ("mkfifo", mkfifo), ("mknod", mknod),
  ("mkdir", mkdir), ("touch", touch), ("ln", ln), ("link", link), ("rm", rm), ("rmdir", rmdir),
  ("unlink", unlink)]

end MediaPipeline.Program
