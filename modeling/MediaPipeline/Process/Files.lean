import MediaPipeline.Calendar
import MediaPipeline.Process.Account

/-!
The file system that processes see: directories, plain files, devices, symbolic links and installed
programs, each at its place. A path is followed name by name, through links too.
-/

namespace MediaPipeline

/-- The names on the way from the root to an entry. -/
abbrev Place := List Octets

structure Document where
  content : Octets
  mode : Nat := 0o644
  time : Int := Moment.present * 1000000000
  /-- The files that are one and the same have one number here; zero stands alone. -/
  number : Nat := 0

def Document.executable (d : Document) : Bool :=
  d.mode &&& 0o111 != 0

inductive Device where
  | null
  | zeros
  | full
  | descriptor (n : Nat)
  /-- Never ends, and gives bytes in no order. -/
  | noise
  /-- A pipe with a name, and what has been written to it and not yet read. -/
  | pipe (held : Octets)
  | other
  deriving DecidableEq

inductive Entry where
  | directory
  | document (d : Document)
  | device (d : Device)
  | link (target : Octets)
  | program (name : Octets)

inductive PathFault where
  | missing
  | notDirectory
  | tooManyLinks
  deriving DecidableEq

def PathFault.message : PathFault → String
  | missing => "No such file or directory"
  | notDirectory => "Not a directory"
  | tooManyLinks => "Too many levels of symbolic links"

/-- What is known of an entry that is no plain file. -/
structure Note where
  mode : Nat := 0o755
  time : Int := Moment.present * 1000000000

structure Maker where
  name : String := ""
  home : String := ""

structure Files where
  entries : List (Place × Entry)
  directory : Place
  clock : Nat := 0
  notes : List (Place × Note) := []
  maker : Maker := {}

namespace Files

/-! ### The standard system -/

def systemDirectories : List String := [
  "", "/boot", "/dev", "/dev/pts", "/dev/shm", "/etc", "/etc/apt", "/etc/default", "/etc/init.d",
  "/home", "/media", "/mnt", "/opt", "/proc", "/proc/1", "/proc/self", "/proc/self/fd",
  "/proc/sys", "/root", "/run", "/run/lock", "/srv", "/sys", "/tmp", "/usr", "/usr/bin",
  "/usr/games", "/usr/include", "/usr/lib", "/usr/lib64", "/usr/libexec", "/usr/local",
  "/usr/local/bin", "/usr/local/etc", "/usr/local/games", "/usr/local/include", "/usr/local/lib",
  "/usr/local/sbin", "/usr/local/share", "/usr/local/src", "/usr/sbin", "/usr/share", "/usr/src",
  "/var", "/var/backups", "/var/cache", "/var/lib", "/var/local", "/var/log", "/var/mail",
  "/var/opt", "/var/spool", "/var/tmp"]

/-- Plain files that every system has. Only of some it is known what they hold. -/
def systemDocuments : List String := [
  "/etc/bash.bashrc", "/etc/debian_version", "/etc/environment", "/etc/fstab", "/etc/group",
  "/etc/gshadow", "/etc/host.conf", "/etc/hostname", "/etc/hosts", "/etc/issue",
  "/etc/ld.so.cache", "/etc/ld.so.conf", "/etc/nsswitch.conf", "/etc/passwd", "/etc/profile",
  "/etc/resolv.conf", "/etc/shadow", "/etc/shells", "/proc/cmdline", "/proc/cpuinfo",
  "/proc/meminfo", "/proc/mounts", "/proc/self/cmdline", "/proc/self/environ",
  "/proc/self/status", "/proc/stat", "/proc/uptime", "/proc/version", "/root/.bashrc",
  "/root/.profile", "/usr/lib/os-release"]

def systemContent (path : String) : Octets :=
  match path with
  | "/etc/passwd" => Account.usersText
  | "/etc/group" => Account.groupsText
  | "/etc/host.conf" => ("# The \"order\" line is only used by old versions of the C library.\n" ++
      "order hosts,bind\nmulti on\n").toList
  | _ => []

def systemLinks : List (String × String) := [
  ("/bin", "usr/bin"), ("/sbin", "usr/sbin"), ("/lib", "usr/lib"), ("/lib64", "usr/lib64"),
  ("/dev/fd", "/proc/self/fd"), ("/dev/stdin", "/proc/self/fd/0"),
  ("/dev/stdout", "/proc/self/fd/1"), ("/dev/stderr", "/proc/self/fd/2"),
  ("/etc/os-release", "../usr/lib/os-release"), ("/var/run", "/run"),
  ("/var/lock", "/run/lock")]

def systemDevices : List (String × Device) := [
  ("/dev/null", .null), ("/dev/zero", .zeros), ("/dev/full", .full), ("/dev/random", .noise),
  ("/dev/urandom", .noise), ("/dev/tty", .other), ("/dev/ptmx", .other),
  ("/proc/self/fd/0", .descriptor 0), ("/proc/self/fd/1", .descriptor 1),
  ("/proc/self/fd/2", .descriptor 2)]

def names (path : Octets) : Place :=
  (path.splitOn '/').filter (· != [])

def placeOf (path : String) : Place :=
  names path.toList

def programDirectory : Place :=
  placeOf "/usr/bin"

def startDirectory : Place :=
  placeOf "/tmp/work"

/-- A system with some programs, and plain files in the directory in which processes start. -/
def ofPrograms (programs : List String) (documents : List (String × Document)) : Files where
  entries :=
    (documents.map fun (name, d) => (startDirectory ++ [Octets.ofString name], .document d)) ++
    (startDirectory, .directory) :: systemDirectories.map (fun p => (placeOf p, .directory)) ++
    systemDocuments.map (fun p => (placeOf p, .document { content := systemContent p })) ++
    systemLinks.map (fun (p, target) => (placeOf p, .link target.toList)) ++
    systemDevices.map (fun (p, d) => (placeOf p, .device d)) ++
    programs.map fun p => (programDirectory ++ [p.toList], .program p.toList)
  directory := startDirectory
  notes := [("/tmp", 0o1777), ("/var/tmp", 0o1777), ("/dev/shm", 0o1777), ("/root", 0o700)].map
    fun (p, mode) => (placeOf p, { mode })

/-- Bytes in no order, as many as are asked for. -/
def noise (count : Nat) : Octets :=
  go count 88172645463325252
where
  go : Nat → UInt64 → Octets
  | 0, _ => []
  | count + 1, seed =>
    let seed := seed * 6364136223846793005 + 1442695040888963407
    Char.ofNat (seed >>> 56).toNat :: go count seed

/-! ### Paths -/

def pathOf (place : Place) : Octets :=
  if place.isEmpty then ['/'] else place.flatMap fun name => '/' :: name

def at? (fs : Files) (place : Place) : Option Entry :=
  fs.entries.lookup place

def linkBound : Nat := 40

/-- The parts of a path; a slash at its end asks for a directory, as a single dot does. -/
def steps (path : Octets) : List Octets :=
  let own := names path
  if path.getLast? = some '/' then own ++ [['.']] else own

/-- Follows steps from a place. There may be no entry at the last of them. With `last` a link at
the end is followed too. The fuel has to cover the steps and those that links put in. -/
def walk (fs : Files) (last : Bool) : Nat → Nat → Place → List Octets →
    Except PathFault (Place × Option Entry)
  | 0, _, _, _ => .error .tooManyLinks
  | _, _, here, [] => .ok (here, fs.at? here)
  | fuel + 1, links, here, step :: rest =>
    match fs.at? here with
    | none => .error .missing
    | some .directory =>
      if step = ['.'] then fs.walk last fuel links here rest
      else if step = ['.', '.'] then fs.walk last fuel links here.dropLast rest
      else
        let next := here ++ [step]
        match fs.at? next with
        | some (.link target) =>
          if rest.isEmpty && !last then .ok (next, some (.link target))
          else match links with
            | 0 => .error .tooManyLinks
            | links + 1 =>
              let base := if target.head? = some '/' then [] else here
              fs.walk last fuel links base (steps target ++ rest)
        | none => if rest.isEmpty then .ok (next, none) else .error .missing
        | some _ => fs.walk last fuel links next rest
    | some _ => .error .notDirectory

def resolve (fs : Files) (path : Octets) (last : Bool) : Except PathFault (Place × Option Entry) :=
  if path.isEmpty then .error .missing
  else
    let base := if path.head? = some '/' then [] else fs.directory
    fs.walk last (path.length + 10000) linkBound base (steps path)

def find (fs : Files) (path : Octets) : Except PathFault Entry := do
  match ← fs.resolve path true with
  | (_, some e) => pure e
  | (_, none) => throw .missing

def findLink (fs : Files) (path : Octets) : Except PathFault Entry := do
  match ← fs.resolve path false with
  | (_, some e) => pure e
  | (_, none) => throw .missing

def pathExists (fs : Files) (path : Octets) : Bool :=
  (fs.find path).isOk

def isDirectory (fs : Files) (path : Octets) : Bool :=
  fs.find path matches .ok .directory

def placeAt (fs : Files) (path : Octets) : Except PathFault Place := do
  match ← fs.resolve path true with
  | (place, some _) => pure place
  | (_, none) => throw .missing

/-! ### Changes -/

def put (fs : Files) (place : Place) (e : Entry) : Files :=
  let others := fs.entries.filter (·.1 != place)
  let number := match e with
    | .document d => d.number
    | _ => 0
  let others := if number = 0 then others else others.map fun (p, x) => match x with
    | .document o => (p, if o.number = number then e else x)
    | _ => (p, x)
  { fs with entries := (place, e) :: others }

def now (fs : Files) : Int :=
  Moment.present * 1000000000 + fs.clock + 1

def note (fs : Files) (place : Place) : Note :=
  (fs.notes.lookup place).getD {}

/-- Sets down what is known of an entry that is no plain file. -/
def setNote (fs : Files) (place : Place) (n : Note) : Files :=
  { fs with notes := (place, n) :: fs.notes.filter (·.1 != place) }

def renewed (fs : Files) (place : Place) : Files :=
  let up := place.dropLast
  { fs.setNote up { fs.note up with time := fs.now } with clock := fs.clock + 1 }

/-- Writes a plain file; one that is there keeps its mode. What is written to a pipe stands behind what
is in it. -/
def write (fs : Files) (place : Place) (content : Octets) (mode : Nat) : Files :=
  match fs.at? place with
  | some (.device (.pipe held)) => fs.put place (.device (.pipe (held ++ content)))
  | some (.document d) =>
    { fs.put place (.document { d with content, time := fs.now }) with clock := fs.clock + 1 }
  | _ => (fs.put place (.document { content, mode, time := fs.now })).renewed place

def make (fs : Files) (place : Place) (e : Entry) (mode : Nat) : Files :=
  ((fs.put place e).setNote place { mode, time := fs.now }).renewed place

def join (fs : Files) (source : Document) (own target : Place) : Files :=
  let number := if source.number = 0 then fs.clock + 1 else source.number
  let d := Entry.document { source with number }
  ((fs.put own d).put target d).renewed target

/-- Takes an entry away, and everything below it. -/
def remove (fs : Files) (place : Place) : Files :=
  { fs with entries := fs.entries.filter fun e => !place.isPrefixOf e.1
            notes := fs.notes.filter fun e => !place.isPrefixOf e.1 }.renewed place

def move (fs : Files) (source target : Place) : Files :=
  let moved {α : Type} (all : List (Place × α)) : List (Place × α) :=
    all.filterMap fun (place, e) =>
      if source.isPrefixOf place then some (target ++ place.drop source.length, e) else none
  let left := (fs.remove source).remove target
  { left with entries := moved fs.entries ++ left.entries, notes := moved fs.notes ++ left.notes }

def modeOf (fs : Files) (place : Place) : Entry → Nat
  | .document d => d.mode
  | .directory => (fs.note place).mode
  | .link _ => 0o777
  | .device (.pipe _) => (fs.note place).mode
  | .device _ => 0o666
  | .program _ => 0o755

def timeOf (fs : Files) (place : Place) : Entry → Int
  | .document d => d.time
  | _ => (fs.note place).time

/-- How many names an entry has; those of a directory are its own and those of the directories in it. -/
def linkCount (fs : Files) (place : Place) : Entry → Nat
  | .document d =>
    if d.number = 0 then 1
    else (fs.entries.filter fun (_, e) => match e with
      | .document o => o.number = d.number
      | _ => false).length
  | .directory =>
    2 + (fs.entries.filter fun (p, e) => e matches .directory &&
      p.length = place.length + 1 && place.isPrefixOf p).length
  | _ => 1

def setMode (fs : Files) (place : Place) (mode : Nat) : Files :=
  match fs.at? place with
  | some (.document d) => fs.put place (.document { d with mode })
  | some .directory => fs.setNote place { fs.note place with mode }
  | _ => fs

def setTime (fs : Files) (place : Place) (time : Int) : Files :=
  match fs.at? place with
  | some (.document d) => fs.put place (.document { d with time })
  | some _ => fs.setNote place { fs.note place with time }
  | none => fs

def isSame (fs : Files) (a b : Place) : Bool :=
  a == b || match fs.at? a, fs.at? b with
    | some (.document x), some (.document y) => x.number != 0 && x.number == y.number
    | _, _ => false

/-- Whether one text comes before another or is the same, byte by byte. -/
def inOrder (a b : Octets) : Bool :=
  compareOfLessAndEq a b != .gt

def namesIn (fs : Files) (directory : Place) : List Octets :=
  let own := fs.entries.filterMap fun (place, _) =>
    if place.length = directory.length + 1 && directory.isPrefixOf place then place.getLast?
    else none
  own.mergeSort inOrder

end Files

end MediaPipeline
