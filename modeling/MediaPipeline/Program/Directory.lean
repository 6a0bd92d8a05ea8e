import MediaPipeline.Program.Job
import MediaPipeline.Program.Modes
import MediaPipeline.Program.Ranking
import MediaPipeline.Shell.Pattern

/-!
Listing the names in directories, in an order and with what is known of each entry.
-/

namespace MediaPipeline.Program

open Shell (Quoting.plain Quoting.always Quoting.asNeeded)
open ProgramOption (flag value)

/-! ### What is known of an entry -/

/-- A name, and the entry that it leads to with its place. -/
structure Listed where
  name : Octets
  place : Place
  entry : Entry

def kindLetter : Entry → Char
  | .directory => 'd'
  | .link _ => 'l'
  | .device (.pipe _) => 'p'
  | .device _ => 'c'
  | .program _ | .document _ => '-'

def entryLetters (fs : Files) (place : Place) (e : Entry) : Octets :=
  kindLetter e :: modeLetters (fs.modeOf place e)

def entrySize : Entry → Nat
  | .document d => d.content.length
  | .link target => target.length
  | .directory => 4096
  | _ => 0

def entryBlocks : Entry → Nat
  | .document d => (d.content.length + 4095) / 4096 * 4
  | .directory => 4
  | _ => 0

/-- A size in the largest fitting unit, rounded up. -/
def shortSize (base n : Nat) : Octets :=
  if n < base then Octets.ofNat n
  else
    let letters := (if base = 1000 then "kMGTPE" else "KMGTPE").toList
    let rec go : List Char → Nat → Octets
      | [], _ => Octets.ofNat n
      | c :: rest, unit =>
        let tenths := (10 * n + unit - 1) / unit
        let whole := (n + unit - 1) / unit
        if tenths < 100 then Octets.ofNat (tenths / 10) ++ '.' :: Octets.ofNat (tenths % 10) ++ [c]
        else if whole < base then Octets.ofNat whole ++ [c]
        else go rest (unit * base)
    go letters base

/-- How far back times are shown with the time of day, in seconds. -/
def recentSpan : Int := 15778476

def timeFormats (a : Arguments) : Octets × Octets :=
  let both (text : String) : Octets × Octets := (text.toList, text.toList)
  if a.has "full-time" then both "%Y-%m-%d %H:%M:%S.%N %z"
  else match (a.value? "time-style").map String.ofList with
    | some "full-iso" => both "%Y-%m-%d %H:%M:%S.%N %z"
    | some "long-iso" => both "%Y-%m-%d %H:%M"
    | some "iso" => ("%m-%d %H:%M".toList, "%Y-%m-%d ".toList)
    | some other => match other.toList with
      | '+' :: format => match format.splitOn '\n' with
        | [old, recent] => (recent, old)
        | _ => (format, format)
      | _ => ("%b %e %H:%M".toList, "%b %e  %Y".toList)
    | none => ("%b %e %H:%M".toList, "%b %e  %Y".toList)

def momentAt (i : Invocation) (time : Int) : Moment :=
  { Moment.onClock (i.environment.lookup "TZ".toList) (Int.fdiv time 1000000000) with
    nanoseconds := (Int.fmod time 1000000000).toNat }

def secondsText (places : Option Nat) (time : Int) : Octets :=
  match places with
  | some 0 => Octets.ofInt (Int.fdiv time 1000000000)
  | places =>
    let digits := (Octets.ofNat (1000000000 + (Int.fmod time 1000000000).toNat)).drop 1
    let count := places.getD 9
    Octets.ofInt (Int.fdiv time 1000000000) ++ '.' :: digits.take count ++
      List.replicate (count - 9) '0'

/-! ### Order -/

def listingOrder (fs : Files) (a : Arguments) (names : List Listed) : List Listed :=
  let ending (n : Octets) : Octets :=
    if n.contains '.' then '.' :: (n.reverse.takeWhile (· != '.')).reverse else []
  let byName := names.mergeSort fun x y => Files.inOrder x.name y.name
  let bySize := byName.mergeSort fun x y => entrySize y.entry ≤ entrySize x.entry
  let time (x : Listed) : Int := fs.timeOf x.place x.entry
  let byTime := byName.mergeSort fun x y => time y ≤ time x
  let byEnding := byName.mergeSort fun x y => Files.inOrder (ending x.name) (ending y.name)
  let byVersion := byName.mergeSort fun x y => compareVersions x.name y.name != .gt
  let byWidth := byName.mergeSort fun x y => x.name.length ≤ y.name.length
  let sorted := match a.lastOf? ["S", "t", "U", "f", "X", "v", "sort"] with
    | some "S" => bySize
    | some "t" => byTime
    | some "X" => byEnding
    | some "v" => byVersion
    | some "sort" => match ((a.value? "sort").map String.ofList).getD "" with
      | "size" => bySize
      | "time" => byTime
      | "extension" => byEnding
      | "version" => byVersion
      | "width" => byWidth
      | _ => byName
    | _ => byName
  let sorted := if a.has "r" then sorted.reverse else sorted
  if a.has "group-directories-first" then
    let isDirectory (x : Listed) : Bool := x.entry matches .directory
    sorted.filter isDirectory ++ sorted.filter fun x => !isDirectory x
  else sorted

/-! ### Columns -/

def inColumns (across : Bool) (width tab : Nat) (names : List Octets) : Octets :=
  let count := names.length
  let lengths := (names.map List.length).toArray
  let widths (columns : Nat) : List Nat :=
    let rows := (count + columns - 1) / columns
    (List.range columns).map fun c =>
      let own := (List.range count).filter fun n =>
        (if across then n % columns else n / rows) == c
      own.foldl (fun w n => max w (lengths[n]?.getD 0 + 2)) 0
  let fits (columns : Nat) : Bool :=
    let ws := widths columns
    ws.foldl (· + ·) 0 - 2 < width
  let columns := ((List.range (min count (width / 3 + 1))).reverse.find? fun n =>
    n = 0 || fits (n + 1)).map (· + 1) |>.getD 1
  let rows := (count + columns - 1) / columns
  let ws := (widths columns).toArray
  let starts := (List.range columns).map fun c => ((List.range c).map fun k =>
    ws[k]?.getD 0).foldl (· + ·) 0
  let all := names.toArray
  let rec fill : Nat → Nat → Nat → Octets
    | 0, _, _ => []
    | fuel + 1, column, target =>
      if target ≤ column then []
      else if tab != 0 && (column + 1) / tab < target / tab then
        '\t' :: fill fuel ((column / tab + 1) * tab) target
      else ' ' :: fill fuel (column + 1) target
  let line (r : Nat) : Octets :=
    ((List.range columns).foldl (fun (text, column) c =>
      match all[if across then r * columns + c else c * rows + r]? with
      | none => (text, column)
      | some name =>
        let start := starts[c]?.getD 0
        (text ++ fill (width + 10) column start ++ name, start + name.length))
      (([], 0) : Octets × Nat)).1
  (List.range rows).flatMap fun r => line r ++ ['\n']

/-! ### Names -/

/-- Which signs stand behind names: only that of directories, all but that of programs, or all. -/
def signKinds (a : Arguments) : Nat :=
  match a.lastOf? ["F", "p", "file-type", "indicator-style"] with
  | some "F" => if a.value? "F" == some "never".toList then 0 else 3
  | some "p" => 1
  | some "file-type" => 2
  | some "indicator-style" => match ((a.value? "indicator-style").map String.ofList).getD "" with
    | "slash" => 1
    | "file-type" => 2
    | "classify" => 3
    | _ => 0
  | _ => 0

def kindSign (fs : Files) (kinds : Nat) (long : Bool) (x : Listed) : Octets :=
  match x.entry with
  | .directory => if 0 < kinds then ['/'] else []
  | .link _ => if 1 < kinds && !long then ['@'] else []
  | .device (.pipe _) => if 1 < kinds then ['|'] else []
  | .device _ => []
  | e => if kinds = 3 && fs.modeOf x.place e &&& 0o111 != 0 then ['*'] else []

/-- A name as it is written, quoted or with signs for what is not printable. -/
def spelledName (a : Arguments) (n : Octets) : Octets :=
  let style := match a.lastOf? ["Q", "b", "q", "N", "quoting-style"] with
    | some "quoting-style" => ((a.value? "quoting-style").map String.ofList).getD ""
    | some "Q" => "c"
    | some "b" => "escape"
    | some "q" => "?"
    | _ => "literal"
  match style with
  | "c" => '"' :: (n.characters.flatMap fun c =>
      if c == '"' || c == '\\' then ['\\', c] else Shell.Quoting.shown c) ++ ['"']
  | "escape" => n.characters.flatMap fun c =>
      if c == ' ' || c == '\\' then ['\\', c] else Shell.Quoting.shown c
  | "?" => n.characters.flatMap fun c =>
      if Letter.isPrintable c then Octets.ofCharacter c else ['?']
  | "shell" | "shell-escape" => Quoting.asNeeded n
  | "shell-always" | "shell-escape-always" => Quoting.always n
  | "locale" | "clocale" => Quoting.plain n
  | _ => n

def colorOf (fs : Files) (x : Listed) : Option String :=
  let mode := fs.modeOf x.place x.entry
  match x.entry with
  | .directory =>
    if mode &&& 0o1002 = 0o1002 then some "30;42" else if mode &&& 0o0002 != 0 then some "34;42"
    else if mode &&& 0o1000 != 0 then some "37;44" else some "01;34"
  | .link _ => some "01;36"
  | .device (.pipe _) => some "33"
  | .device _ => some "01;33"
  | _ =>
    if mode &&& 0o4000 != 0 then some "37;41" else if mode &&& 0o2000 != 0 then some "30;43"
    else if mode &&& 0o111 != 0 then some "01;32" else none

def listNames (i : Invocation) (a : Arguments) (names : List Listed) : Octets :=
  let fs := i.files
  let long := ["l", "g", "o", "n", "full-time"].any a.has
  let colored := match a.options.reverse.find? fun o => o.1 == "color" || o.1 == "colour" with
    | some (_, v) => v.isEmpty || v == "always".toList
    | none => false
  let kinds := signKinds a
  let painted (x : Listed) : Octets :=
    let text := spelledName a x.name
    match if colored then colorOf fs x else none with
    | some code => "\x1b[".toList ++ code.toList ++ 'm' :: text ++ "\x1b[0m".toList
    | none => text
  let human (n : Nat) : Octets :=
    if a.has "h" then shortSize 1024 n else if a.has "si" then shortSize 1000 n
    else Octets.ofNat n
  let blocks (x : Listed) : Octets :=
    if a.has "h" then shortSize 1024 (1024 * entryBlocks x.entry) else Octets.ofNat (entryBlocks x.entry)
  let widest (f : Listed → Octets) : Nat := names.foldl (fun w x => max w (f x).length) 0
  let blockWidth := widest blocks
  let front (x : Listed) : Octets :=
    if a.has "s" then padLeft blockWidth (blocks x) ++ [' '] else []
  let shown (x : Listed) : Octets := painted x ++ kindSign fs kinds long x
  let ending : Octets := if a.has "zero" then ['\x00'] else ['\n']
  if long then
    let links (x : Listed) : Octets := Octets.ofNat (fs.linkCount x.place x.entry)
    let size (x : Listed) : Octets := human (entrySize x.entry)
    let (linkWidth, sizeWidth) := (widest links, widest size)
    let (recent, old) := timeFormats a
    let owner : Octets := if a.has "n" then ['0'] else "root".toList
    let time (x : Listed) : Octets :=
      let m := momentAt i (fs.timeOf x.place x.entry)
      let age := i.present.seconds + 1 - m.seconds
      m.format true (if -1 ≤ age && age < recentSpan then recent else old)
    names.flatMap fun x =>
      let target := match x.entry with
        | .link t => " -> ".toList ++ spelledName a t ++
            (match fs.resolve (if t.head? == some '/' then t
                else Files.pathOf x.place.dropLast ++ '/' :: t) true with
              | .ok (place, some e) => kindSign fs kinds false ⟨t, place, e⟩
              | _ => [])
        | _ => []
      front x ++ entryLetters fs x.place x.entry ++ ' ' :: padLeft linkWidth (links x) ++
        (if a.has "g" then [] else ' ' :: owner) ++
        (if a.has "o" || a.has "G" then [] else ' ' :: owner) ++
        (if a.has "author" then ' ' :: owner else []) ++
        ' ' :: padLeft sizeWidth (size x) ++ ' ' :: time x ++ ' ' :: shown x ++ target ++ ending
  else
    let texts := names.map fun x => front x ++ shown x
    let width := (a.value? "w").elim 80 natural
    let width := if width = 0 then 100000 else width
    let tab := (a.value? "T").elim 8 natural
    let style := match a.lastOf? ["1", "C", "x", "m", "format", "zero"] with
      | some "format" => match ((a.value? "format").map String.ofList).getD "" with
        | "across" | "horizontal" => "x"
        | "commas" => "m"
        | "vertical" => "C"
        | _ => "1"
      | some other => other
      | none => "1"
    match style with
    | "C" => inColumns false width tab texts
    | "x" => inColumns true width tab texts
    | "m" =>
      let rec commas (column : Nat) : List Octets → Octets
        | [] => []
        | [t] => t ++ ['\n']
        | t :: u :: rest =>
          let next := column + t.length + 2
          if next + u.length + (if rest.isEmpty then 0 else 1) < width then
            t ++ [',', ' '] ++ commas next (u :: rest)
          else t ++ [',', '\n'] ++ commas 0 (u :: rest)
      commas 0 texts
    | _ => texts.flatMap fun t => t ++ ending

/-! ### The program -/

def listingOptions : List ProgramOption := [
  flag 'a' "all", flag 'A' "almost-all", flag 'B' "ignore-backups",
  ⟨some 'F', none, .none⟩, flag 'r' "reverse", flag 'R' "recursive",
  flag 'd' "directory", flag 'h' "human-readable", flag 'i' "inode", value 'I' "ignore",
  flag 'k' "kibibytes", flag 'L' "dereference", flag 'n' "numeric-uid-gid", flag 'N' "literal",
  flag 'G' "no-group", flag 'q' "hide-control-chars", flag 'Q' "quote-name", flag 'b' "escape",
  flag 's' "size", value 'T' "tabsize", value 'w' "width", flag 'Z' "context",
  flag 'H' "dereference-command-line", flag 'D' "dired"] ++
  ProgramOption.letters "cCfglmopStuUvxX1" ++
  ProgramOption.names .none ["group-directories-first", "file-type", "full-time", "author", "si",
    "show-control-chars", "zero"] ++
  ProgramOption.names .joined ["color", "hyperlink", "classify"] ++
  ProgramOption.names .needed ["sort", "time", "format", "indicator-style", "quoting-style",
    "block-size", "hide", "time-style"]

def listingWords : List (String × List String) := [
  ("sort", ["none", "time", "size", "extension", "version", "width"]),
  ("format", ["verbose", "long", "commas", "horizontal", "across", "vertical", "single-column"]),
  ("indicator-style", ["none", "slash", "file-type", "classify"]),
  ("color", ["always", "yes", "force", "never", "no", "none", "auto", "tty", "if-tty"])]

/-- Lists the names of files and of what is in directories: files first, each directory under its
own name where there are several operands. -/
def ls (i : Invocation) : Outcome :=
  i.withOptions listingOptions 2 fun a =>
    let a : Arguments := { a with options := a.options.map fun (o : String × Octets) =>
      if o.1 == "classify" then ("F", o.2) else if o.1 == "format" && (o.2 == "long".toList ||
        o.2 == "verbose".toList) then ("l", []) else o }
    let fs := i.files
    let bad := a.options.findSome? fun (key, v) =>
      (listingWords.lookup key).bind fun ws =>
        if v.isEmpty || ws.contains (String.ofList v) then none
        else some (key, v, if key == "color" then
          [["always", "yes", "force"], ["never", "no", "none"], ["auto", "tty", "if-tty"]]
          else ws.map fun w => [w])
    match bad with
    | some (key, v, words) => { err := i.badWord v key words, status := 2 }
    | none =>
    let operands := if a.operands.isEmpty then [['.']] else a.operands
    let follows := !(["l", "d", "F", "g", "o", "n", "full-time"].any a.has) || a.has "L" || a.has "H"
    let found (o : Octets) : Except PathFault Listed := do
      let (place, e) ← match fs.resolve o follows with
        | .ok (place, some e) => .ok (place, e)
        | _ => match fs.resolve o false with
          | .ok (place, some e) => .ok (place, e)
          | .ok (_, none) => .error .missing
          | .error f => .error f
      pure ⟨o, place, e⟩
    let missing := operands.filterMap fun o => match found o with
      | .error f => some (i.complaint ("cannot access ".toList ++ Quoting.always o ++ ": ".toList ++
          f.message.toList))
      | .ok _ => none
    let isDirectory (x : Listed) : Bool := !a.has "d" && x.entry matches .directory
    let present := operands.filterMap fun o => (found o).toOption
    let files := listingOrder fs a (present.filter fun x => !isDirectory x)
    let fits (pattern name : Octets) : Bool :=
      (Shell.Pattern.ofMarked ⟨true, false⟩ (pattern.map fun c => (c, false))).fits name
    let all := a.has "a" || a.has "f"
    let listed (name : Octets) : Bool :=
      let hidden := name.head? == some '.' && !(all || a.has "A")
      let backup := a.has "B" && name.getLast? == some '~'
      let ignored := a.options.any fun o =>
        (o.1 == "I" || (o.1 == "hide" && !all && !a.has "A")) && fits o.2 name
      !hidden && !backup && !ignored
    let several := 1 < operands.length || a.has "R"
    let rec block : Nat → Octets → List Octets
      | 0, _ => []
      | fuel + 1, path =>
        match fs.placeAt path with
        | .error _ => []
        | .ok place =>
          let own := (fs.namesIn place).filter listed
          let entry (n : Octets) : Option Listed :=
            match if a.has "L" then fs.resolve (below path n) true else .ok (place, none) with
            | .ok (p, some e) => some ⟨n, p, e⟩
            | _ => (fs.at? (place ++ [n])).map fun e => ⟨n, place ++ [n], e⟩
          let names : List Listed := own.filterMap entry
          let names : List Listed := if all then ⟨['.'], place, .directory⟩ ::
            ⟨['.', '.'], place.dropLast, .directory⟩ :: names else names
          let names := listingOrder fs a names
          let blocks := (names.map fun x => entryBlocks x.entry).foldl (· + ·) 0
          let total := if ["l", "g", "o", "n", "s", "full-time"].any a.has then
              "total ".toList ++ (if a.has "h" then shortSize 1024 (1024 * blocks)
                else Octets.ofNat blocks) ++ ['\n']
            else []
          let text := (if several then path ++ [':', '\n'] else []) ++ total ++ listNames i a names
          let inner := if !a.has "R" then [] else
            (names.filter fun x => x.name != ['.'] && x.name != ['.', '.'] &&
              x.entry matches .directory).flatMap fun x => block fuel (below path x.name)
          text :: inner
    let first := listNames i a files
    let directories := listingOrder fs a (present.filter isDirectory)
    let blocks := directories.flatMap fun x => block 1000 x.name
    { out := joinOctets ['\n'] (if files.isEmpty then blocks else first :: blocks)
      err := missing.flatten
      status := if missing.isEmpty then 0 else 2 }

end MediaPipeline.Program
