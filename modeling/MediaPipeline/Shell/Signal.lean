import MediaPipeline.Shell.Script

/-!
Signals and the other events for which a shell may leave something to run.
-/

namespace MediaPipeline.Shell.Signal

def names : List String := [
  "HUP", "INT", "QUIT", "ILL", "TRAP", "ABRT", "BUS", "FPE", "KILL", "USR1", "SEGV", "USR2",
  "PIPE", "ALRM", "TERM", "STKFLT", "CHLD", "CONT", "STOP", "TSTP", "TTIN", "TTOU", "URG", "XCPU",
  "XFSZ", "VTALRM", "PROF", "WINCH", "IO", "PWR", "SYS", "32", "33", "RTMIN", "RTMIN+1", "RTMIN+2",
  "RTMIN+3", "RTMIN+4", "RTMIN+5", "RTMIN+6", "RTMIN+7", "RTMIN+8", "RTMIN+9", "RTMIN+10",
  "RTMIN+11", "RTMIN+12", "RTMIN+13", "RTMIN+14", "RTMIN+15", "RTMAX-14", "RTMAX-13", "RTMAX-12",
  "RTMAX-11", "RTMAX-10", "RTMAX-9", "RTMAX-8", "RTMAX-7", "RTMAX-6", "RTMAX-5", "RTMAX-4",
  "RTMAX-3", "RTMAX-2", "RTMAX-1", "RTMAX"]

def nameIn (d : Dialect) (event : String) : String :=
  if d == .standard && event == "STKFLT" then "16" else event

/-- Whether a signal is one that has a name, not only a number. -/
def isNamed (event : String) : Bool :=
  names.contains event && !event.toList.all Char.isDigit

/-- What is said of a process that a signal has ended, by the number of the signal. -/
def texts : List String := [
  "Hangup", "Interrupt", "Quit", "Illegal instruction", "Trace/breakpoint trap", "Aborted",
  "Bus error", "Floating point exception", "Killed", "User defined signal 1",
  "Segmentation fault", "User defined signal 2", "Broken pipe", "Alarm clock", "Terminated",
  "Stack fault", "Child exited", "Continued", "Stopped (signal)", "Stopped",
  "Stopped (tty input)", "Stopped (tty output)", "Urgent I/O condition",
  "CPU time limit exceeded", "File size limit exceeded", "Virtual timer expired",
  "Profiling timer expired", "Window changed", "I/O possible", "Power failure",
  "Bad system call"]

def text (number : Nat) : Octets :=
  if number ≥ 34 then "Real-time signal ".toList ++ Octets.ofNat (number - 34)
  else ((texts[number - 1]?).getD ("Unknown signal " ++ toString number)).toList

def event? (d : Dialect) (word : Octets) : Option String :=
  let upper := String.ofList (word.map Char.toUpper)
  let short := if d == .extended && "SIG".toList.isPrefixOf upper.toList
    then String.ofList (upper.toList.drop 3) else upper
  if upper == "EXIT" then some "EXIT"
  else if !word.isEmpty && word.all Char.isDigit then
    match natural word with
    | 0 => some "EXIT"
    | n + 1 => names[n]?
  else if isNamed short && nameIn d short == short then some short
  else if d == .extended && ["ERR", "DEBUG", "RETURN"].contains upper then some upper
  else none

def number (event : String) : Nat :=
  let all := names ++ ["DEBUG", "ERR", "RETURN"]
  if event == "EXIT" then 0 else ((all.idxOf? event).map (· + 1)).getD 100

/-- Whether a signal ends a process that does nothing about it. -/
def isDeadly (event : String) : Bool :=
  !(["CHLD", "CONT", "STOP", "TSTP", "TTIN", "TTOU", "URG", "WINCH"].contains event)

def table : Octets :=
  let cells := (names.zipIdx.filter fun s => isNamed s.1).map fun (name, n) =>
    padLeft 2 (Octets.ofNat (n + 1)) ++ ") SIG".toList ++ name.toList
  let rec rows : Nat → List Octets → Octets
    | 0, _ | _, [] => []
    | fuel + 1, cells =>
      joinOctets ['\t'] (cells.take 5) ++ (if cells.length < 5 then ['\t'] else []) ++
        '\n' :: rows fuel (cells.drop 5)
  rows cells.length cells

end MediaPipeline.Shell.Signal
