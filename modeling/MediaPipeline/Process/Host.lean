import MediaPipeline.Probe.Run
import MediaPipeline.Shell.Evaluation

/-!
A system to run commands on: a program is looked up, started with its arguments and an empty input,
and its output is captured when it has ended.

`Pipeline.run` and `ProbeConfig.run` take whatever runs their commands as an argument, and what is
proved of pipelines and reports holds for all of it. The shell, the programs, the files and the
calendar are one such system, so that both can be run to their end. No other module needs any of them.
-/

namespace MediaPipeline

namespace Files

/-- A system on which the programs that scripts call are installed, with some plain files. -/
def standard (documents : List (String × Document)) : Files :=
  ofPrograms Shell.installedPrograms documents

def startEnvironment : List (Octets × Octets) :=
  [("PATH".toList, standardPath), ("HOME".toList, "/root".toList),
    ("LC_CTYPE".toList, "C.UTF-8".toList)]

/-- What a program leaves behind when it runs alone. One that reaches the bounds of its shell has no
exit code. -/
def outputOf (files : Files) (l : Launch) : ProcessOutput :=
  let start : Shell.Machine := {
    dialect := .standard, name := l.name, files
    streams := #[⟨.device .null, true, false⟩, ⟨.sink #[] 0, false, true⟩, ⟨.sink #[] 0, false, true⟩]
    descriptors := [(0, 0), (1, 1), (2, 2)] }
  let run := Shell.run Shell.nestingBound
  let e := Shell.engine run
  let (result, m) :=
    (Shell.Session.observe (Shell.runLaunch e run Shell.launchBound startEnvironment l)).run start
  let written (index : Nat) : List UInt8 :=
    match m.streams[index]? with
    | some o => Octets.toBytes o.grown
    | none => []
  let code : Option Int32 := match result with
    | .ok (.ok status) => if m.killed.isSome then none else some (Int32.ofNat status)
    | _ => none
  ⟨written 1, written 2, code, code == some 0⟩

/-- Runs a command with its arguments, none of which may hold a null character. -/
def spawn (files : Files) (command : String) (arguments : List String) :
    Except IoFailure ProcessOutput :=
  if (command :: arguments).any fun s => s.contains '\x00' then .error .nulByte
  else
    match files.launch standardPath (Octets.ofString command)
      (arguments.map Octets.ofString) with
    | .ok l => .ok (files.outputOf l)
    | .error f => .error f.failure

def shell (files : Files) (shell : String) (command : String) : Except IoFailure ProcessOutput :=
  files.spawn shell ["-c", command]

end Files

/-- Probes a file of the system. -/
def ProbeConfig.probe (c : ProbeConfig) (files : Files) (path : String) :
    Except ProbeError MediaMetadata :=
  let pathExists (path : String) : Id Bool :=
    !path.contains '\x00' && files.pathExists (Octets.ofString path)
  let spawn (command : String) (arguments : List String) :
      Id (Except IoFailure ProcessOutput) := files.spawn command arguments
  (c.run pathExists spawn path).run

end MediaPipeline
