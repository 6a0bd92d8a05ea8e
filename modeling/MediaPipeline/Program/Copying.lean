import MediaPipeline.Program.Tree

/-!
Programs that copy and move files and trees of files.
-/

namespace MediaPipeline.Program

open Shell (Quoting.plain Quoting.always Quoting.asNeeded)
open ProgramOption (flag value)

/-! ### Copying -/

structure Keeping where
  mode : Bool
  time : Bool

def Keeping.ofOptions (a : Arguments) : Keeping :=
  let words (key : String) : List Octets :=
    (a.options.filter (·.1 == key)).flatMap fun o =>
      if o.2.isEmpty then ["mode".toList, "timestamps".toList] else o.2.splitOn ','
  let has (word : String) : Bool :=
    let listed (key : String) := (words key).any fun w => w == word.toList || w == "all".toList
    listed "preserve" && !listed "no-preserve"
  let usual := a.has "p" || a.has "a"
  { mode := usual || has "mode", time := usual || has "timestamps" }

/-- Whether the target of a copy stays as it is, because of what the options say of files that are there;
a question may be asked. -/
def declines (i : Invocation) (a : Arguments) (j : Job) (source target : Octets) : Bool × Job :=
  let time (path : Octets) : Int := match j.files.resolve path true with
    | .ok (place, some e) => j.files.timeOf place e
    | _ => 0
  match a.lastOf? ["n", "i", "f"] with
  | some "n" => (true, j)
  | some "i" =>
    if a.has "u" && time source ≤ time target then (true, j)
    else
      let (agreed, j) := j.ask (i.name ++ ": overwrite ".toList ++ Quoting.always target ++ "? ".toList)
      (!agreed, j)
  | _ => (a.has "u" && time source ≤ time target, j)

def copyEntry (i : Invocation) (a : Arguments) : Nat → Job → Octets → Octets → Job
  | 0, j, _, _ => j
  | fuel + 1, j, source, target =>
    let recursive := a.has "r" || a.has "R" || a.has "a"
    let keeping := Keeping.ofOptions a
    let keepsLinks := match a.lastOf? ["P", "d", "a", "L"] with
      | some "L" => false
      | some _ => true
      | none => recursive
    let arrow := Quoting.always source ++ " -> ".toList ++ Quoting.always target
    let found := if keepsLinks then j.files.resolve source false else j.files.resolve source true
    let regular := "cannot create regular file"
    match found with
    | .error f => j.failAt i "cannot stat" source f.message
    | .ok (_, none) => j.failAt i "cannot stat" source "No such file or directory"
    | .ok (own, some .directory) =>
      if !recursive then
        j.fail i ("-r not specified; omitting directory ".toList ++ Quoting.always source)
      else match j.files.resolve (trimSlashes target) true with
        | .error f => j.failAt i "cannot create directory" target f.message
        | .ok (place, there) =>
          match there with
          | some (.document _) | some (.program _) | some (.device _) =>
            j.fail i ("cannot overwrite non-directory ".toList ++ Quoting.always target ++
              " with directory ".toList ++ Quoting.always source)
          | there =>
            if own.isPrefixOf place then
              j.fail i ("cannot copy a directory, ".toList ++ Quoting.always source ++
                ", into itself, ".toList ++ Quoting.always target)
            else
              let note := j.files.note own
              let mode := if keeping.mode then note.mode else freshMode i note.mode
              let j := if there.isSome then j
                else ({ j with files := j.files.make place .directory mode }).note (a.has "v") arrow
              let j := (j.files.namesIn own).foldl (fun j n =>
                copyEntry i a fuel j (below source n) (below target n)) j
              if keeping.time then { j with files := j.files.setTime place note.time } else j
    | .ok (own, some entry) =>
      let same := match j.files.resolve target (!keepsLinks) with
        | .ok (place, some _) => j.files.isSame own place
        | _ => false
      if same && !(a.has "l") && !(backsUp a) then
        j.fail i (Quoting.always source ++ " and ".toList ++ Quoting.always target ++
          " are the same file".toList)
      else match j.files.resolve target (!(entry matches .link _ || a.has "remove-destination")) with
        | .error f => j.failAt i regular target f.message
        | .ok (_, some .directory) =>
          j.fail i ("cannot overwrite directory ".toList ++ Quoting.always target ++
            " with non-directory".toList)
        | .ok (place, there) =>
          if j.made.contains place then
            j.fail i ("will not overwrite just-created ".toList ++ Quoting.always target ++
              " with ".toList ++ Quoting.always source)
          else if there.isNone && target.getLast? == some '/' then
            j.failAt i regular target "Not a directory"
          else
            let (declined, j) := if there.isSome then declines i a j source target else (false, j)
            if declined then j
            else
              let (j, backup) := if there.isSome && backsUp a then
                  let (j, path) := j.backUp a target place
                  (j, some path)
                else (j, none)
              let j := { j with made := place :: j.made }
              let arrow := arrow ++ backupNote backup
              let files := if a.has "remove-destination" then j.files.remove place else j.files
              if a.has "s" then
                if source.head? != some '/' && target.contains '/' then
                  j.fail i (Quoting.asNeeded target ++
                    ": can make relative symbolic links only in current directory".toList)
                else if there.isSome && backup.isNone && !a.has "f" then
                  j.fail i ("cannot create symbolic link ".toList ++ Quoting.always target ++ " to ".toList ++
                    Quoting.always source ++ ": File exists".toList)
                else { j with files := files.make place (.link source) 0o777 }.note (a.has "v") arrow
              else
                let written : Files := match entry with
                  | .document d =>
                    if a.has "l" then files.join d own place
                    else
                      let mode := if keeping.mode then d.mode else freshMode i d.mode
                      let fs := files.write place d.content mode
                      let fs := if keeping.mode then fs.setMode place d.mode else fs
                      if keeping.time then fs.setTime place d.time else fs
                  | .device _ => files.write place [] (freshMode i 0o666)
                  | .program _ => files.put place entry
                  | e => files.make place e 0o777
                ({ j with files := written }).note (a.has "v") arrow

/-! ### Moving -/

def movePath (i : Invocation) (a : Arguments) (j : Job) (source target : Octets) : Job :=
  let between (text : String) : Job :=
    j.fail i ("cannot move ".toList ++ Quoting.always source ++ " to ".toList ++
      Quoting.always target ++ ": ".toList ++ text.toList)
  match j.files.resolve source false, j.files.resolve (trimSlashes target) false with
  | .error f, _ => j.failAt i "cannot stat" source f.message
  | .ok (_, none), _ => j.failAt i "cannot stat" source "No such file or directory"
  | .ok (_, some _), .error f => between f.message
  | .ok (own, some e), .ok (place, there) =>
    let isDirectory := e matches .directory
    let moved (backup : Option Octets) (j : Job) : Job :=
      ({ j with files := j.files.move own place, made := place :: j.made }).note (a.has "v")
        ("renamed ".toList ++ Quoting.always source ++ " -> ".toList ++ Quoting.always target ++
          backupNote backup)
    if own == place || (!isDirectory && j.files.isSame own place && !backsUp a) then
      j.fail i (Quoting.always source ++ " and ".toList ++ Quoting.always target ++
        " are the same file".toList)
    else if own.isPrefixOf place then
      j.fail i ("cannot move ".toList ++ Quoting.always source ++
        " to a subdirectory of itself, ".toList ++ Quoting.always target)
    else if there.isSome && j.made.contains place then
      j.fail i ("will not overwrite just-created ".toList ++ Quoting.always target ++
        " with ".toList ++ Quoting.always source)
    else match there with
      | some .directory =>
        if !isDirectory then
          j.fail i ("cannot overwrite directory ".toList ++ Quoting.always target ++
            " with non-directory".toList)
        else if !(j.files.namesIn place).isEmpty then between "Directory not empty"
        else moved none j
      | some _ =>
        if isDirectory then
          j.fail i ("cannot overwrite non-directory ".toList ++ Quoting.always target ++
            " with directory ".toList ++ Quoting.always source)
        else
          let (declined, j) := declines i a j source target
          if declined then j
          else if backsUp a then
            if j.backupPath a target == source then
              j.fail i ("backing up ".toList ++ Quoting.always target ++
                " might destroy source;  ".toList ++ Quoting.always source ++ " not moved".toList)
            else
              let (j, path) := j.backUp a target place
              moved (some path) j
          else moved none j
      | none =>
        if !isDirectory && target.getLast? == some '/' then between "Not a directory"
        else moved none j

/-! ### The programs -/

def targetBelow (a : Arguments) (directory source : Octets) : Octets :=
  if a.has "parents" then below directory source else below directory (lastPart source)

/-- Makes the directories in front of the last part of a source also below a target. -/
def makeParents (i : Invocation) (a : Arguments) (directory source : Octets) (j : Job) : Job :=
  if !a.has "parents" then j
  else
    let parts := (Files.names source).dropLast
    (List.range parts.length).foldl (fun j n =>
      let own := (parts.take (n + 1)).foldl below directory
      match j.files.resolve own true with
      | .ok (place, none) => { j with files := j.files.make place .directory (freshMode i 0o777) }
      | _ => j) j

/-- Goes over the sources of a copy or a move with the path that each is to have. -/
def overTargets (i : Invocation) (a : Arguments) (act : Job → Octets → Octets → Job) : Outcome :=
  let j := Job.start i
  let notDirectory (target : Octets) : Outcome :=
    i.fail 1 ((if a.has "t" then "target directory " else "target ").toList ++
      Quoting.always target ++
      (match j.files.find target with
        | .ok _ => ": Not a directory"
        | .error f => ": " ++ f.message).toList)
  let into (d : Octets) (sources : List Octets) : Outcome :=
    (sources.foldl (fun (j, seen) s =>
      if (seen : List Octets).contains s && i.name == "cp".toList && j.files.pathExists s then
        ({ j with err := j.err ++ i.complaint ("warning: source file ".toList ++ Quoting.always s ++
          " specified more than once".toList) }, seen)
      else (act (makeParents i a d s j) s (targetBelow a d s), s :: seen))
      ((j, []) : Job × List Octets)).1.finish
  match a.value? "t", a.operands with
  | _, [] => i.misuse 1 "missing file operand".toList
  | some d, sources => if !j.files.isDirectory d then notDirectory d else into d sources
  | none, [source] =>
    i.misuse 1 ("missing destination file operand after ".toList ++ Quoting.always source)
  | none, operands =>
    let target := operands.getLast?.getD []
    let sources := operands.dropLast
    if a.has "T" then
      match sources with
      | [source] => (act j source target).finish
      | _ => i.extraOperand 1 (operands[2]?.getD [])
    else if j.files.isDirectory target then into target sources
    else if a.has "parents" then
      i.misuse 1 "with --parents, the destination must be a directory".toList
    else match sources with
      | [source] => (act j source target).finish
      | _ => notDirectory target

def cp (i : Invocation) : Outcome :=
  let known := [flag 'a' "archive", ⟨some 'b', none, .none⟩, ⟨some 'd', none, .none⟩,
    flag 'f' "force", flag 'i' "interactive", ⟨some 'H', none, .none⟩, flag 'l' "link",
    flag 'L' "dereference", flag 'n' "no-clobber", flag 'P' "no-dereference", ⟨some 'p', none, .none⟩,
    flag 'r' "recursive", ⟨some 'R', none, .none⟩, flag 's' "symbolic-link",
    value 't' "target-directory", flag 'T' "no-target-directory", flag 'u' "update",
    flag 'v' "verbose", flag 'x' "one-file-system", value 'S' "suffix"] ++
    ProgramOption.names .joined ["preserve", "reflink", "backup"] ++
    ProgramOption.names .needed ["no-preserve", "sparse"] ++
    ProgramOption.names .none ["parents", "remove-destination", "attributes-only",
      "strip-trailing-slashes", "copy-contents"]
  i.withOptions known 1 fun a =>
    if a.has "l" && a.has "s" then i.misuse 1 "cannot make both hard and symbolic links".toList
    else overTargets i a (copyEntry i a 1000)

def mv (i : Invocation) : Outcome :=
  let known := [⟨some 'b', none, .none⟩, flag 'f' "force", flag 'i' "interactive",
    flag 'n' "no-clobber", value 't' "target-directory", flag 'T' "no-target-directory",
    flag 'u' "update", flag 'v' "verbose", value 'S' "suffix"] ++
    ProgramOption.names .joined ["backup"] ++ ProgramOption.names .none ["strip-trailing-slashes"]
  i.withOptions known 1 fun a => overTargets i a (movePath i a)

/-- Copies files and gives them modes, or makes directories. -/
def install (i : Invocation) : Outcome :=
  let known := [⟨some 'c', none, .none⟩, ⟨some 'C', some "compare", .none⟩, flag 'd' "directory",
    ⟨some 'D', none, .none⟩, value 'g' "group", value 'm' "mode", value 'o' "owner",
    flag 'p' "preserve-timestamps", flag 's' "strip", value 't' "target-directory",
    flag 'T' "no-target-directory", flag 'v' "verbose", ⟨some 'b', none, .none⟩, value 'S' "suffix"] ++
    ProgramOption.names .joined ["backup"]
  i.withOptions known 1 fun a =>
    let mode := (a.value? "m").elim (some 0o755) fun m => changedMode 0 (a.has "d") m 0
    match mode with
    | none => i.fail 1 ("invalid mode ".toList ++ Quoting.plain ((a.value? "m").getD []))
    | some mode =>
      let directories (path : Octets) (last : Nat) (j : Job) : Job :=
        let parts := Files.names path
        let front : Octets := if path.head? == some '/' then ['/'] else []
        (List.range parts.length).foldl (fun j n =>
          let own := front ++ joinOctets ['/'] (parts.take (n + 1))
          match j.files.resolve own true with
          | .ok (place, none) =>
            ({ j with files := j.files.make place .directory
                        (if n + 1 = parts.length then last else 0o755) }).note (a.has "v")
              (i.name ++ ": creating directory ".toList ++ Quoting.always own)
          | .ok (place, some .directory) =>
            if n + 1 = parts.length && a.has "d" then { j with files := j.files.setMode place last } else j
          | .ok _ => j.failAt i "cannot create directory" own "File exists"
          | .error f => j.failAt i "cannot create directory" own f.message) j
      if a.has "d" then
        if a.operands.isEmpty then i.missingOperand 1
        else (a.operands.foldl (fun j p => directories p mode j) (Job.start i)).finish
      else
        let act (j : Job) (source target : Octets) : Job :=
          let j := if a.has "D" then directories (frontPart target) 0o755 j else j
          match j.files.find source with
          | .error f => j.failAt i "cannot stat" source f.message
          | .ok .directory => j.fail i ("omitting directory ".toList ++ Quoting.always source)
          | .ok e =>
            let d : Document := match e with
              | .document d => d
              | _ => { content := [] }
            match j.files.resolve target true with
            | .error f => j.failAt i "cannot create regular file" target f.message
            | .ok (_, some .directory) =>
              j.fail i ("cannot overwrite directory ".toList ++ Quoting.always target ++
                " with non-directory".toList)
            | .ok (place, _) =>
              let fs := ((j.files.remove place).write place d.content mode)
              let fs := if a.has "p" then fs.setTime place d.time else fs
              ({ j with files := fs }).note (a.has "v")
                (Quoting.always source ++ " -> ".toList ++ Quoting.always target)
        overTargets i a act

def copies : List (String × Program) := [("cp", cp), ("mv", mv), ("install", install)]

end MediaPipeline.Program
