import MediaPipeline.Program.Interval
import MediaPipeline.Program.Invocation
import MediaPipeline.Shell.Condition

/-!
Programs that work on their arguments: they echo them, fill in formats, test conditions, take paths
apart, and say what is known of the system.
-/

namespace MediaPipeline.Program

open Shell (Quoting.plain)
open ProgramOption (flag value letters)

/-! ### Output -/

def fixed (status : Nat) (_ : Invocation) : Outcome :=
  { status }

/-- Echoes the arguments. Escapes are replaced only if asked for. -/
def echo (i : Invocation) : Outcome :=
  { out := Shell.echoText .program i.arguments }

def printf (i : Invocation) : Outcome :=
  let operands := if i.arguments.head? == some ['-', '-'] then i.arguments.tail else i.arguments
  match operands with
  | [] => i.missingOperand 1
  | format :: args =>
    let f := Shell.formatText .program none format args
    { out := f.out, err := f.complaints.flatMap i.complaint, status := f.status }

def yes (i : Invocation) : Outcome :=
  match Arguments.ofList [] false i.arguments with
  | .error text => i.misuse 1 text
  | .ok a =>
    let words := if a.operands.isEmpty then [['y']] else a.operands
    let line := joinOctets [' '] words ++ ['\n']
    { out := (List.replicate (i.reach / line.length + 1) line).flatten }

/-! ### Conditions -/

def test (brackets : Bool) (i : Invocation) : Outcome :=
  let c : Shell.Counted := ⟨.program, { files := i.files }, none⟩
  let outcome (words : List Octets) : Outcome :=
    match c.evaluate words with
    | .ok b => { status := if b then 0 else 1 }
    | .error text => i.fail 2 text
  if !brackets then outcome i.arguments
  else if i.arguments.getLast? == some [']'] then outcome i.arguments.dropLast
  else i.fail 2 "missing ']'".toList

/-! ### Paths -/

def trimSlashes (path : Octets) : Octets :=
  let trimmed := (path.reverse.dropWhile (· == '/')).reverse
  if trimmed.isEmpty && !path.isEmpty then ['/'] else trimmed

def lastPart (path : Octets) : Octets :=
  let p := trimSlashes path
  if p == ['/'] then p else (p.reverse.takeWhile (· != '/')).reverse

def frontPart (path : Octets) : Octets :=
  let p := trimSlashes path
  if p == ['/'] then p
  else match p.reverse.dropWhile (· != '/') with
    | [] => ['.']
    | up => trimSlashes up.reverse

/-- Writes the last parts of paths, without an ending that is given. -/
def basename (i : Invocation) : Outcome :=
  let known := [flag 'a' "multiple", value 's' "suffix", flag 'z' "zero"]
  match Arguments.ofList known true i.arguments with
  | .error text => i.misuse 1 text
  | .ok a =>
    let ending := if a.has "z" then ['\x00'] else ['\n']
    let line (suffix path : Octets) : Octets :=
      let b := lastPart path
      let cut := suffix.isSuffixOf b && suffix != b
      (if cut then b.take (b.length - suffix.length) else b) ++ ending
    let several := a.has "a" || a.has "s"
    match several, a.operands with
    | _, [] => i.missingOperand 1
    | true, paths => { out := paths.flatMap (line ((a.value? "s").getD [])) }
    | false, [path] => { out := line [] path }
    | false, [path, suffix] => { out := line suffix path }
    | false, _ :: _ :: extra :: _ => i.extraOperand 1 extra

/-- Writes paths without their last part. -/
def dirname (i : Invocation) : Outcome :=
  match Arguments.ofList [flag 'z' "zero"] true i.arguments with
  | .error text => i.misuse 1 text
  | .ok a =>
    let ending := if a.has "z" then ['\x00'] else ['\n']
    if a.operands.isEmpty then i.missingOperand 1
    else { out := a.operands.flatMap fun p => frontPart p ++ ending }

/-- Writes the path of the directory. The environment may name another way to it. -/
def pwd (i : Invocation) : Outcome :=
  i.withOptions [flag 'L' "logical", flag 'P' "physical"] 1 fun a =>
    let own := Files.pathOf i.files.directory
    let path := match a.lastOf? ["L", "P"], i.environment.lookup "PWD".toList with
      | some "L", some p =>
        let plain := p.head? == some '/' && (Files.names p).all fun n => n != ['.'] && n != ['.', '.']
        match i.files.placeAt p with
        | .ok place => if plain && place == i.files.directory then p else own
        | .error _ => own
      | _, _ => own
    let note := if a.operands.isEmpty then [] else i.complaint "ignoring non-option arguments".toList
    { out := path ++ ['\n'], err := note }

/-- The signs that may stand in the names of files everywhere. -/
def isPortable (c : Char) : Bool :=
  c.isAlphanum || c == '.' || c == '_' || c == '-'

/-- Checks whether paths are valid, and with options whether they are so everywhere. -/
def pathchk (i : Invocation) : Outcome :=
  let known := [⟨some 'p', none, .none⟩, ⟨some 'P', none, .none⟩] ++
    ProgramOption.names .none ["portability"]
  i.withOptions known 1 fun a =>
    let basic := a.has "p" || a.has "portability"
    let more := a.has "P" || a.has "portability"
    let portable := basic || more
    let fault (path : Octets) : Option Octets :=
      let parts := Files.names path
      let limit := if basic then 14 else 255
      let whole := if basic then 256 else 4096
      if more && parts.any fun p => p.head? == some '-' then
        some ("leading '-' in a component of file name ".toList ++ Shell.Quoting.always path)
      else if portable && path.isEmpty then some "empty file name".toList
      else match if basic then path.find? fun c => !isPortable c && c != '/' else none with
        | some c =>
          some ("non-portable character ".toList ++ Quoting.plain [c] ++ " in file name ".toList ++
            Shell.Quoting.always path)
        | none =>
          let there := if basic then none else match i.files.findLink path with
            | .ok _ => some none
            | .error .missing => if path.isEmpty then some (some PathFault.missing) else none
            | .error f => some (some f)
          match there with
          | some none => none
          | some (some f) => some (Shell.Quoting.asNeeded path ++ ": ".toList ++ f.message.toList)
          | none =>
            if whole ≤ path.length then
              some ("limit ".toList ++ Octets.ofNat (whole - 1) ++ " exceeded by length ".toList ++
                Octets.ofNat path.length ++ " of file name ".toList ++ Shell.Quoting.always path)
            else match parts.find? fun p => limit < p.length with
              | some p =>
                some ("limit ".toList ++ Octets.ofNat limit ++ " exceeded by length ".toList ++
                  Octets.ofNat p.length ++ " of file name component ".toList ++
                  Shell.Quoting.always p)
              | none => none
    let faults := a.operands.filterMap fault
    if a.operands.isEmpty then i.missingOperand 1
    else { err := faults.flatMap i.complaint, status := if faults.isEmpty then 0 else 1 }

/-! ### Time -/

def sleep (i : Invocation) : Outcome :=
  match Arguments.ofList [] true i.arguments with
  | .error text => i.misuse 1 text
  | .ok a =>
    if a.operands.isEmpty then i.missingOperand 1
    else
      match a.operands.filter fun t => (Interval.microseconds? t).isNone with
      | [] => { duration := (a.operands.filterMap Interval.microseconds?).foldl (· + ·) 0 }
      | bad =>
        { err := (bad.flatMap fun t =>
            i.complaint ("invalid time interval ".toList ++ Quoting.plain t)) ++ i.hint
          status := 1 }

/-! ### The system -/

def printenv (i : Invocation) : Outcome :=
  match Arguments.ofList [flag '0' "null"] true i.arguments with
  | .error text => i.misuse 2 text
  | .ok a =>
    let ending := if a.has "0" then ['\x00'] else ['\n']
    if a.operands.isEmpty then
      { out := i.environment.flatMap fun (name, text) => name ++ '=' :: text ++ ending }
    else
      let found := a.operands.filterMap fun name => i.environment.lookup name
      { out := found.flatMap fun text => text ++ ending
        status := if found.length = a.operands.length then 0 else 1 }

def plainLine (text : String) (i : Invocation) : Outcome :=
  i.withOptions [] 1 fun a =>
    match a.operands with
    | [] => { out := text.toList ++ ['\n'] }
    | extra :: _ => i.extraOperand 1 extra

def uname (i : Invocation) : Outcome :=
  let known := [flag 'a' "all", flag 's' "kernel-name", flag 'n' "nodename",
    flag 'r' "kernel-release", flag 'v' "kernel-version", flag 'm' "machine",
    flag 'p' "processor", flag 'i' "hardware-platform", flag 'o' "operating-system"]
  i.withOptions known 1 fun a =>
    match a.operands with
    | extra :: _ => i.extraOperand 1 extra
    | [] =>
      let parts := [("s", "Linux"), ("m", "x86_64"), ("p", "x86_64"), ("i", "x86_64"),
        ("o", i.files.maker.name ++ "/Linux")]
      let wanted := parts.filter fun p => a.has p.1 || (a.options.isEmpty && p.1 == "s")
      { out := joinOctets [' '] (wanted.map fun p => p.2.toList) ++ ['\n'] }

def tty (i : Invocation) : Outcome :=
  i.withOptions [flag 's' "silent", ⟨none, some "quiet", .none⟩] 2 fun a =>
    match a.operands with
    | extra :: _ => i.extraOperand 2 extra
    | [] => { out := if a.options.isEmpty then "not a tty\n".toList else [], status := 1 }

def words : List (String × Program) := [
  ("true", fixed 0), ("false", fixed 1), ("echo", echo), ("printf", printf), ("yes", yes),
  ("test", test false), ("[", test true), ("basename", basename), ("dirname", dirname),
  ("pwd", pwd), ("sleep", sleep), ("printenv", printenv), ("arch", plainLine "x86_64"),
  ("uname", uname), ("tty", tty), ("sync", fixed 0), ("pathchk", pathchk)]

end MediaPipeline.Program
