import MediaPipeline.Shell.Builtin.Basic
import MediaPipeline.Shell.Reader

/-!
Running scripts: one complete command is read, it runs, and the next one is read.
-/

namespace MediaPipeline.Shell

structure Script where
  text : Octets
  line : Nat := 1
  resumes : Bool := false
  shown : Bool := true
  isInput : Bool := false
  isLast : Bool := false
  isWord : Bool := false

def scriptFront (m : Machine) (line : Nat) : Octets :=
  let kind := if m.reading.isEmpty then [] else m.reading ++ ": ".toList
  m.source ++ ": ".toList ++ kind ++ "line ".toList ++ Octets.ofNat line ++ ": ".toList

def refuseScript (f : FaultAt) : Session Unit := do
  let m ← get
  match m.dialect with
  | .standard => do
    set { m with line := f.line }
    Session.abort ("Syntax error: ".toList ++ f.fault.standardMessage)
  | .extended => do
    for (line, text) in f.fault.extendedMessages f.line do
      Session.err (scriptFront m line ++ text ++ ['\n'])
    throw (.fault (if f.inList || f.fault matches .unclosed .list then 1 else 2))

def runCommands (run : Runner) (script : Script) : Nat → Source → Bool → Session Bool
  | 0, _, any => pure any
  | fuel + 1, s, any => do
    let m ← get
    let aliases := if m.isStandard || m.hasOption "expand_aliases" then m.aliases else []
    let s := { s with heres := m.heres, aliases, warnings := [] }
    if s.rest.isEmpty then pure any
    else
      let (result, after) := Reader.nextCommand.run s
      set { m with heres := after.heres }
      if script.isInput then Session.consume 0 (s.rest.length - after.rest.length)
      if m.hasFlag 'v' && script.shown then
        Session.err (s.rest.take (s.rest.length - after.rest.length))
      if !m.isStandard then
        for (line, start, delimiter) in after.warnings do
          Session.err (m.source ++ ": line ".toList ++ Octets.ofNat line ++
            ": warning: here-document at line ".toList ++ Octets.ofNat start ++
            " delimited by end-of-file (wanted ".toList ++ inMessage delimiter ++ ")\n".toList)
      match result with
      | .error f => do
        refuseScript f
        pure true
      | .ok none => runCommands run script fuel after any
      | .ok (some command) => do
        let ends := after.rest.isEmpty
        let command := if script.isWord && ends then command.answer else command
        if script.isLast && ends then modify fun m => { m with final := true }
        if script.resumes && m.depth = 0 then
          match ← Session.observe (run command) with
          | .error (.fault n) => Session.setStatus n
          | .error flow => throw flow
          | .ok () => pure ()
        else run command
        runCommands run script fuel (← behind script after) true
where
  behind (script : Script) (s : Source) : Session Source := do
    if !script.isInput then pure s
    else match ← Session.peekAll 0 with
      | .error _ => pure s
      | .ok rest =>
        if s.rest.length ≤ rest.length + 1 then pure s
        else pure { s with rest, left := rest.length, lineStart := rest }

def runScript (run : Runner) (script : Script) : Session Unit := do
  let m ← get
  let s := Source.ofText m.dialect [] script.text
  let any ← runCommands run script (script.text.length + 2) { s with line := script.line } false
  if !any then Session.setStatus 0

/-- Runs a step that reads another script than the shell's own. -/
def reading {α : Type} (kind : Octets) (body : Session α) : Session α := do
  let m ← get
  set { m with reading := kind, level := m.level + 1 }
  tryFinally body (modify fun n => { n with reading := m.reading, level := m.level })

/-- What runs scripts in words and other texts, over what runs commands. -/
def engine (run : Runner) : Engine where
  run := run
  text text := do
    let m ← get
    let line := if m.isStandard then 1 else m.line
    reading "command substitution".toList do
      runScript run { text, line, shown := !m.isStandard, isWord := !m.isStandard }

end MediaPipeline.Shell
