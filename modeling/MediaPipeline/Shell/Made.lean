import MediaPipeline.Calendar
import MediaPipeline.Shell.Listing
import MediaPipeline.Shell.Options

/-!
Variables that a shell of the extended dialect makes itself when they are asked for.
-/

namespace MediaPipeline.Shell

def Value.ofTexts (texts : List Octets) : Value :=
  .items (texts.zipIdx.map fun (t, i) => (i, t))

def Value.ofPairs (pairs : List (Octets × Octets)) : Value :=
  .table (pairs.foldl (fun es (key, t) => Value.putEntry es key t) [])

/-- A command as it is shown where it runs: of one that repeats or chooses only the front. -/
def Machine.shownCommand (m : Machine) : Command → Octets
  | .each _ name _ written _ => "for ".toList ++ name ++ " in ".toList ++ written
  | .select _ name _ written _ => "select ".toList ++ name ++ " in ".toList ++ written
  | .choose _ _ written _ => "case ".toList ++ written ++ " in ".toList
  | c => commandText m.heres c

/-- How many microseconds have passed since the moment from which the shell counts. -/
def Machine.elapsed (m : Machine) : Int :=
  m.clock + m.counted

def madeTexts : List String := [
  "LINENO", "SECONDS", "BASHPID", "BASH_SUBSHELL", "SRANDOM", "EPOCHSECONDS", "EPOCHREALTIME",
  "BASH_COMMAND", "SHELLOPTS", "BASHOPTS", "HISTCMD", "BASH_ARGV0"]

def Machine.made? (m : Machine) (name : String) : Option Value :=
  let number (n : Nat) : Option Value := some (.text (Octets.ofNat n))
  let script (base : Octets) : List Octets := if m.script.isSome then [base] else []
  let time : Int := Moment.present * 1000000 + m.clock
  if m.isStandard then none
  else match name with
    | "LINENO" => number m.line
    | "RANDOM" =>
      (m.bindings.get name.toList).chance.map fun c => .text (Octets.ofNat c.number)
    | "SRANDOM" => number ((m.drawn * 1103515245 + 12345) % 4294967296)
    | "SECONDS" => some (.text (Octets.ofInt (Int.fdiv m.elapsed 1000000)))
    | "EPOCHSECONDS" => some (.text (Octets.ofInt (Int.fdiv time 1000000)))
    | "EPOCHREALTIME" =>
      let rest := Octets.ofNat (Int.fmod time 1000000).toNat
      some (.text (Octets.ofInt (Int.fdiv time 1000000) ++ '.' ::
        List.replicate (6 - rest.length) '0' ++ rest))
    | "BASHPID" => number m.own
    | "BASH_SUBSHELL" => number m.depth
    | "BASH_COMMAND" => some (.text (m.shownCommand m.current))
    | "BASH_ARGV0" => some (.text m.name)
    | "HISTCMD" => number 0
    | "SHELLOPTS" => some (.text (Builtin.shownOptions m))
    | "BASHOPTS" => some (.text (Builtin.shownNamedOptions m))
    | "FUNCNAME" =>
      if !m.inFunction then none
      else some (.ofTexts (m.calls.map Calling.name ++ script "main".toList))
    | "BASH_SOURCE" => some (.ofTexts (m.calls.map Calling.source ++ script m.name))
    | "BASH_LINENO" =>
      some (.ofTexts (m.calls.map (fun c => Octets.ofNat c.line) ++ script ['0']))
    | "PIPESTATUS" => some (.ofTexts (m.stages.map Octets.ofNat))
    | "DIRSTACK" => some (.ofTexts (Files.pathOf m.files.directory :: m.stack))
    | "GROUPS" => some (.ofTexts [['0']])
    | "BASH_ARGC" => some (.ofTexts [Octets.ofNat m.parameters.length])
    | "BASH_ALIASES" => some (.ofPairs m.aliases)
    | "BASH_CMDS" => some (.ofPairs (m.remembered.map fun r => (r.name, r.path)))
    | _ => none

def Machine.value? (m : Machine) (name : Octets) : Option Value :=
  match m.made? (String.ofList name) with
  | some v => some v
  | none => (m.bindings.get (m.bindings.target 10 name)).value

def Machine.knownBindings (m : Machine) : Bindings :=
  m.bindings.map fun (name, b) => (name, match m.made? (String.ofList name) with
    | some v => { b with value := some v }
    | none => b)

end MediaPipeline.Shell
