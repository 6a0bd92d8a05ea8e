import MediaPipeline.Program.Lines
import MediaPipeline.Program.Words

/-!
A job on files: what a program has done so far to the tree of files, what it has said, and what it has
been answered.
-/

namespace MediaPipeline.Program

open Shell (Quoting.always)

structure Job where
  files : Files
  out : Octets := []
  err : Octets := []
  status : Nat := 0
  answers : Octets := []
  consumed : Option Nat := none
  made : List Place := []

namespace Job

def start (i : Invocation) : Job :=
  { files := i.files, answers := i.input.toOption.getD [] }

def finish (j : Job) : Outcome :=
  { out := j.out, err := j.err, status := j.status, files := some j.files, consumed := j.consumed }

def fail (i : Invocation) (text : Octets) (j : Job) : Job :=
  { j with err := j.err ++ i.complaint text, status := 1 }

def failAt (i : Invocation) (what : String) (path : Octets) (fault : String) (j : Job) : Job :=
  j.fail i (what.toList ++ ' ' :: Quoting.always path ++ ": ".toList ++ fault.toList)

def note (wanted : Bool) (text : Octets) (j : Job) : Job :=
  if wanted then { j with out := j.out ++ text ++ ['\n'] } else j

/-- Asks a question; a line that begins with the letter of yes agrees. -/
def ask (question : Octets) (j : Job) : Bool × Job :=
  let line := ((linesOf j.answers).head?).getD []
  let agrees := line.head? == some 'y' || line.head? == some 'Y'
  (agrees, { j with err := j.err ++ question, answers := j.answers.drop line.length
                    consumed := some (j.consumed.getD 0 + line.length) })

/-- The path to which the file at a path is moved before another one takes its place. -/
def backupPath (a : Arguments) (j : Job) (path : Octets) : Octets :=
  let suffix := (a.value? "S").getD ['~']
  let numbered (n : Nat) : Octets := path ++ ".~".toList ++ Octets.ofNat n ++ ['~']
  let count := (List.range 1000).find? fun n => !j.files.pathExists (numbered (n + 1))
  let next := numbered (count.getD 0 + 1)
  match ((a.value? "backup").map String.ofList).getD "" with
  | "numbered" | "t" => next
  | "simple" | "never" => path ++ suffix
  | _ => if count.getD 0 = 0 then path ++ suffix else next

def backUp (a : Arguments) (path : Octets) (place : Place) (j : Job) : Job × Octets :=
  let target := j.backupPath a path
  match j.files.resolve target false with
  | .ok (other, _) => ({ j with files := j.files.move place other }, target)
  | .error _ => (j, target)

end Job

/-- What is said of a file that was moved out of the way. -/
def backupNote : Option Octets → Octets
  | some path => " (backup: ".toList ++ Quoting.always path ++ [')']
  | none => []

/-- Whether files that would be overwritten are moved out of the way. -/
def backsUp (a : Arguments) : Bool :=
  let off := match a.value? "backup" with
    | some t => t == "none".toList || t == "off".toList
    | none => false
  (a.has "b" || a.has "S" || a.has "backup") && !off

def below (directory name : Octets) : Octets :=
  if directory.getLast? == some '/' then directory ++ name else directory ++ '/' :: name

def freshMode (i : Invocation) (mode : Nat) : Nat :=
  mode - (mode &&& i.mask)

end MediaPipeline.Program
