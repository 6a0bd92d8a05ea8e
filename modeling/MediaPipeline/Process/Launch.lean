import MediaPipeline.Process.Files
import MediaPipeline.Process.Output

/-!
From a command to the installed program that runs it. A command without a slash is looked for in the
directories of a search path; a file with an interpreter line is handed to its interpreter, together
with the arguments.
-/

namespace MediaPipeline

structure Launch where
  program : Octets
  name : Octets
  arguments : List Octets

inductive LaunchFault where
  | missing
  | notDirectory
  | tooManyLinks
  | forbidden
  /-- The file is no program and names no interpreter. -/
  | plainText (path content : Octets)

def LaunchFault.failure : LaunchFault → IoFailure
  | missing => .notFound
  | notDirectory => .other "Not a directory (os error 20)"
  | tooManyLinks => .other "Too many levels of symbolic links (os error 40)"
  | forbidden => .permissionDenied
  | plainText .. => .other "Exec format error (os error 8)"

namespace Files

/-- The interpreter that the first line of a file names, with one argument at most. -/
def interpreter? (content : Octets) : Option (Octets × List Octets) :=
  match content with
  | '#' :: '!' :: rest =>
    let isSpace (c : Char) : Bool := c == ' ' || c == '\t'
    let line := (rest.takeWhile (· != '\n')).dropWhile isSpace
    let path := line.takeWhile fun c => !isSpace c
    let argument := (line.drop path.length).dropWhile isSpace
    let argument := (argument.reverse.dropWhile isSpace).reverse
    if path.isEmpty then none else some (path, if argument.isEmpty then [] else [argument])
  | _ => none

def launchFault : PathFault → LaunchFault
  | .missing => .missing
  | .notDirectory => .notDirectory
  | .tooManyLinks => .tooManyLinks

def interpreterBound : Nat := 5

/-- The launch of the file at a path under a name; interpreters may be interpreted themselves. -/
def launchFrom (fs : Files) : Nat → Octets → Octets → List Octets → Except LaunchFault Launch
  | 0, _, _, _ => .error .tooManyLinks
  | bound + 1, path, name, arguments =>
    match fs.find path with
    | .error f => .error (launchFault f)
    | .ok (.program program) => .ok ⟨program, name, arguments⟩
    | .ok (.document d) =>
      if !d.executable then .error .forbidden
      else match interpreter? d.content with
        | none => .error (.plainText path d.content)
        | some (interpreter, first) =>
          match fs.launchFrom bound interpreter interpreter (first ++ path :: arguments) with
          | .error (.plainText ..) => .error (.plainText path d.content)
          | launch => launch
    | .ok _ => .error .forbidden

def launchAt (fs : Files) (path : Octets) (arguments : List Octets) : Except LaunchFault Launch :=
  fs.launchFrom interpreterBound path path arguments

def standardPath : Octets :=
  "/usr/local/sbin:/usr/local/bin:/usr/sbin:/usr/bin:/sbin:/bin".toList

def candidates (searchPath command : Octets) : List Octets :=
  (searchPath.splitOn ':').map fun d => if d.isEmpty then command else d ++ '/' :: command

def launch (fs : Files) (searchPath command : Octets) (arguments : List Octets) :
    Except LaunchFault Launch :=
  if command.contains '/' then fs.launchAt command arguments
  else if command.isEmpty then .error .missing
  else
    (candidates searchPath command).foldr (fun path rest =>
      match fs.launchFrom interpreterBound path command arguments with
      | .error .missing | .error .notDirectory => rest
      | .error .forbidden =>
        match rest with
        | .error .missing => .error .forbidden
        | found => found
      | found => found) (.error .missing)

end Files

end MediaPipeline
