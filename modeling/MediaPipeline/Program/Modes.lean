import MediaPipeline.Program.Job

/-!
Modes of files, in digits and in letters, programs that change modes and owners, and programs that make
files with new names or give files another size.
-/

namespace MediaPipeline.Program

open Shell (Quoting.plain Quoting.always Quoting.asNeeded)
open ProgramOption (flag value)

/-! ### Modes -/

def changedMode (mask : Nat) (isDirectory : Bool) (text : Octets) (mode : Nat) : Option Nat :=
  let isOctal (text : Octets) : Bool := !text.isEmpty && text.all fun c => '0' ≤ c && c ≤ '7'
  let octal (text : Octets) : Nat := text.foldl (fun n c => 8 * n + (c.toNat - 48)) 0
  /- Digits leave special bits of a directory alone unless there are five of them. -/
  let kept := if isDirectory && text.length < 5 then mode &&& 0o6000 else 0
  if isOctal text then
    if octal text < 4096 then some (Nat.lor (octal text) kept) else none
  else
    (text.splitOn ',').foldlM clause mode
where
  clause (mode : Nat) (text : Octets) : Option Nat :=
    let who := text.takeWhile fun c => "ugoa".toList.contains c
    operations (text.length + 1) who (text.drop who.length) mode
  operations : Nat → Octets → Octets → Nat → Option Nat
    | 0, _, _, _ => none
    | fuel + 1, who, text, mode =>
      match text with
      | [] => none
      | op :: rest =>
        let digits := rest.takeWhile fun c => '0' ≤ c && c ≤ '7'
        if !"+-=".toList.contains op then none
        else if !digits.isEmpty then
          let n := digits.foldl (fun n c => 8 * n + (c.toNat - 48)) 0
          if !who.isEmpty || digits.length < rest.length || 4096 ≤ n then none
          else some (match op with
            | '+' => Nat.lor mode n
            | '-' => mode - (mode &&& n)
            | _ => n)
        else
          let letters := rest.takeWhile fun c => "rwxXstugo".toList.contains c
          let behind := rest.drop letters.length
          let named (c : Char) : Bool := who.isEmpty || who.contains 'a' || who.contains c
          let share (c : Char) : Nat := match c with
            | 'r' => 4
            | 'w' => 2
            | 'x' => 1
            | 'X' => if isDirectory || mode &&& 0o111 != 0 then 1 else 0
            | 'u' => mode / 64 % 8
            | 'g' => mode / 8 % 8
            | 'o' => mode % 8
            | _ => 0
          let three := letters.foldl (fun n c => Nat.lor n (share c)) 0
          let bits := (if named 'u' then three * 64 else 0) + (if named 'g' then three * 8 else 0) +
            (if named 'o' then three else 0)
          let bits := if who.isEmpty then bits - (bits &&& mask) else bits
          let special := (if letters.contains 's' then
              (if named 'u' then 0o4000 else 0) + (if named 'g' then 0o2000 else 0) else 0) +
            (if letters.contains 't' && named 'o' then 0o1000 else 0)
          let bits := bits + special
          let cleared := (if named 'u' then 0o700 else 0) + (if named 'g' then 0o070 else 0) +
            (if named 'o' then 0o007 else 0)
          let cleared := if who.isEmpty then cleared - (cleared &&& mask) else cleared
          let next := match op with
            | '+' => Nat.lor mode bits
            | '-' => mode - (mode &&& bits)
            | _ => Nat.lor (mode - (mode &&& cleared)) bits
          if behind.isEmpty then some next
          else operations fuel who behind next

def modeLetters (mode : Nat) : Octets :=
  let three (n special : Nat) (low high : Char) : Octets :=
    [if n &&& 4 != 0 then 'r' else '-', if n &&& 2 != 0 then 'w' else '-',
      if special != 0 then (if n &&& 1 != 0 then low else high)
      else if n &&& 1 != 0 then 'x' else '-']
  three (mode / 64 % 8) (mode &&& 0o4000) 's' 'S' ++ three (mode / 8 % 8) (mode &&& 0o2000) 's' 'S' ++
    three (mode % 8) (mode &&& 0o1000) 't' 'T'

def modeDigits (mode : Nat) : Octets :=
  let digits := Nat.toDigits 8 mode
  List.replicate (4 - digits.length) '0' ++ digits

def chmod (i : Invocation) : Outcome :=
  let known := [flag 'c' "changes", flag 'f' "silent", flag 'R' "recursive", flag 'v' "verbose"] ++
    ProgramOption.names .none ["quiet", "preserve-root", "no-preserve-root"] ++
    ProgramOption.names .needed ["reference"]
  let isMode (arg : Octets) : Bool :=
    1 < arg.length && arg.head? == some '-' && "rwxXstugoa,+=-".toList.contains (arg[1]?.getD ' ')
  let given := i.arguments.takeWhile (· != ['-', '-'])
  let modeArgs := given.filter fun a => isMode a && a != ['-', '-']
  let i' := if modeArgs.isEmpty then i else
    { i with arguments := ['-', '-'] :: modeArgs.take 1 ++ i.arguments.filter (fun a =>
        !modeArgs.contains a && a != ['-', '-']) }
  i'.withOptions known 1 fun a =>
    match a.operands with
    | [] => i.missingOperand 1
    | [mode] => i.misuse 1 ("missing operand after ".toList ++ Quoting.plain mode)
    | mode :: paths =>
      if (changedMode i.mask false mode 0).isNone then
        i.misuse 1 ("invalid mode: ".toList ++ Quoting.plain mode)
      else
        let rec change : Nat → Job → Octets → Job
          | 0, j, _ => j
          | fuel + 1, j, path =>
            match j.files.resolve path true with
            | .ok (place, some e) =>
              let own := j.files.modeOf place e
              let isDirectory := e matches .directory
              let next := (changedMode i.mask isDirectory mode own).getD own
              let shown (mode : Nat) : Octets := modeDigits mode ++ " (".toList ++ modeLetters mode ++ [')']
              let line := "mode of ".toList ++ Quoting.always path ++
                (if next == own then " retained as ".toList ++ shown next
                else " changed from ".toList ++ shown own ++ " to ".toList ++ shown next)
              let j := { j with files := j.files.setMode place next }.note
                (a.has "v" || (a.has "c" && next != own)) line
              /- A mode that the mask keeps from being taken away is complained of. -/
              let asked := (changedMode 0 isDirectory mode own).getD own
              let j := if modeArgs.isEmpty || next == asked then j
                else j.fail i (path ++ ": new permissions are ".toList ++ modeLetters next ++ ", not ".toList ++
                  modeLetters asked)
              if isDirectory && a.has "R" then
                (j.files.namesIn place).foldl (fun j n =>
                  if j.files.at? (place ++ [n]) matches some (.link _) then j
                  else change fuel j (below path n)) j
              else j
            | .ok (_, none) =>
              if a.has "f" then { j with status := 1 }
              else if j.files.findLink path matches .ok (.link _) then
                j.fail i ("cannot operate on dangling symlink ".toList ++ Quoting.always path)
              else j.failAt i "cannot access" path "No such file or directory"
            | .error f =>
              if a.has "f" then { j with status := 1 }
              else j.failAt i "cannot access" path f.message
        (paths.foldl (change 1000) (Job.start i)).finish

def isKnownOwner (group : Bool) (name : Octets) : Bool :=
  name.isEmpty || name.all Char.isDigit ||
    (if group then Account.groups.any fun g => g.1.toList == name
      else Account.all.any fun u => u.name.toList == name)

/-- Changes owners, or groups, of files; all files stay those of one user. -/
def chown (group : Bool) (i : Invocation) : Outcome :=
  let known := [flag 'c' "changes", flag 'f' "silent", flag 'R' "recursive", flag 'v' "verbose",
    flag 'h' "no-dereference", ⟨some 'H', none, .none⟩, ⟨some 'L', none, .none⟩,
    ⟨some 'P', none, .none⟩] ++ ProgramOption.names .none ["quiet", "dereference"] ++
    ProgramOption.names .needed ["reference", "from"]
  i.withOptions known 1 fun a =>
    match a.operands with
    | [] => i.missingOperand 1
    | [owner] => i.misuse 1 ("missing operand after ".toList ++ Quoting.plain owner)
    | owner :: paths =>
      let user := owner.takeWhile fun c => c != ':' && c != '.'
      let own := (owner.drop user.length).drop 1
      let bad := if group then !isKnownOwner true owner
        else !isKnownOwner false user || !isKnownOwner true own
      if bad then
        i.fail 1 ((if group then "invalid group: " else if isKnownOwner false user then
          "invalid group: " else "invalid user: ").toList ++ Quoting.plain owner)
      else
        (paths.foldl (fun j path => match j.files.find path with
          | .ok _ => j
          | .error f =>
            if a.has "f" then { j with status := 1 }
            else j.failAt i "cannot access" path f.message) (Job.start i)).finish

/-! ### New names -/

/-- Makes a file or a directory with a name of its own. -/
def mktemp (i : Invocation) : Outcome :=
  let known := [flag 'd' "directory", flag 'q' "quiet", ⟨some 't', none, .none⟩,
    flag 'u' "dry-run", ⟨some 'p', some "tmpdir", .needed⟩] ++ ProgramOption.names .needed ["suffix"]
  i.withOptions known 1 fun a =>
    match a.operands with
    | _ :: _ :: _ => i.misuse 1 "too many templates".toList
    | operands =>
      let template := operands.head?.getD "tmp.XXXXXXXXXX".toList
      let suffix := (a.value? "suffix").getD
        (template.reverse.takeWhile (· != 'X')).reverse
      let body := if (a.value? "suffix").isSome then template
        else template.take (template.length - suffix.length)
      let marks := (body.reverse.takeWhile (· == 'X')).length
      if marks < 3 then
        i.fail 1 ("too few X's in template ".toList ++ Quoting.always template)
      else
        let front := body.take (body.length - marks)
        let directory := if operands.isEmpty || a.has "t" || a.has "p" then
            some ((a.value? "p").getD ((i.environment.lookup "TMPDIR".toList).getD "/tmp".toList))
          else none
        let path (n : Nat) : Octets :=
          let digits := (Nat.toDigits 36 (1000000 + 7919 * n)).take marks
          let own := front ++ digits ++ List.replicate (marks - digits.length) 'k' ++ suffix
          match directory with
          | some d => below d own
          | none => own
        let free := (List.range 1000).find? fun n => !i.files.pathExists (path n)
        let own := path (free.getD 0)
        let j := Job.start i
        let kind := if a.has "d" then "failed to create directory via template"
          else "failed to create file via template"
        match j.files.resolve own true with
        | .ok (place, none) =>
          let files := if a.has "u" then j.files
            else if a.has "d" then j.files.make place .directory 0o700
            else j.files.write place [] 0o600
          (({ j with files }).note true own).finish
        | .ok _ => (j.failAt i kind template "File exists").finish
        | .error f =>
          (j.failAt i kind (match directory with
            | some d => below d template
            | none => template) f.message).finish

/-- Gives files another size. -/
def truncate (i : Invocation) : Outcome :=
  let known := [flag 'c' "no-create", flag 'o' "io-blocks", value 'r' "reference", value 's' "size"]
  i.withOptions known 1 fun a =>
    match a.value? "s", a.operands with
    | none, _ => i.misuse 1 "you must specify either '--size' or '--reference'".toList
    | some _, [] => i.misuse 1 "missing file operand".toList
    | some text, paths =>
      let (sign, digits) := match text with
        | c :: rest => if "+-<>/%".toList.contains c then (some c, rest) else (none, text)
        | [] => (none, [])
      match sized? digits with
      | none => i.fail 1 ("Invalid number: ".toList ++ Quoting.plain text)
      | some n =>
        (paths.foldl (fun j path =>
          match j.files.resolve path true with
          | .ok (place, there) =>
            match there with
            | some .directory => j.failAt i "cannot open" path "Is a directory"
            | some (.document _) | none =>
              let own := match there with
                | some (.document d) => d.content
                | _ => []
              let size := match sign with
                | some '+' => own.length + n
                | some '-' => own.length - n
                | some '<' => min own.length n
                | some '>' => max own.length n
                | _ => n
              if there.isNone && a.has "c" then j
              else
                let content := own.take size ++ List.replicate (size - own.length) '\x00'
                { j with files := j.files.write place content (freshMode i 0o666) }
            | some _ => j
          | .error f => j.failAt i "cannot open" path f.message) (Job.start i)).finish

def modes : List (String × Program) := [
  ("chmod", chmod), ("chown", chown false), ("chgrp", chown true), ("mktemp", mktemp),
  ("truncate", truncate)]

end MediaPipeline.Program
