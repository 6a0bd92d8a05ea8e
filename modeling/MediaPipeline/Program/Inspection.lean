import MediaPipeline.Process.Launch
import MediaPipeline.Program.Copying
import MediaPipeline.Program.Directory

/-!
Programs that look at files: they list directories, follow links, tell what is known of a file, and
compare two of them; and one that copies its input to files.
-/

namespace MediaPipeline.Program

open Shell (Quoting.plain Quoting.always Quoting.asNeeded)
open ProgramOption (flag value)

/-! ### Links -/

def canonical (fs : Files) (mode : Char) (path : Octets) : Except PathFault Place :=
  match fs.resolve path true with
  | .ok (place, some _) => .ok place
  | .ok (place, none) => if mode == 'e' then .error .missing else .ok place
  | .error f =>
    if mode != 'm' then .error f
    else
      let rec climb : Nat → List Octets → List Octets → Except PathFault Place
        | 0, _, _ => .error f
        | fuel + 1, front, behind =>
          let base := (if path.head? == some '/' then ['/'] else ['.', '/']) ++
            joinOctets ['/'] front
          match fs.resolve base true with
          | .ok (place, _) =>
            .ok (behind.foldl (fun (p : Place) n =>
              if n == ['.'] then p else if n == ['.', '.'] then p.dropLast else p ++ [n]) place)
          | .error _ => match front.getLast? with
            | some n => climb fuel front.dropLast (n :: behind)
            | none => .error f
      climb (path.length + 2) (Files.names path) []

def readlink (i : Invocation) : Outcome :=
  let known := [flag 'f' "canonicalize", flag 'e' "canonicalize-existing",
    flag 'm' "canonicalize-missing", flag 'n' "no-newline", flag 'q' "quiet", flag 's' "silent",
    flag 'v' "verbose", flag 'z' "zero"]
  i.withOptions known 1 fun a =>
    if a.operands.isEmpty then i.missingOperand 1
    else
      let ending := if a.has "n" && a.operands.length = 1 then [] else if a.has "z" then ['\x00']
        else ['\n']
      (a.operands.foldl (fun j path =>
        let found : Except String Octets :=
          match a.lastOf? ["f", "e", "m"] with
          | some mode =>
            match canonical i.files (mode.toList.head?.getD 'f') path with
            | .ok place => .ok (Files.pathOf place)
            | .error f => .error f.message
          | none => match i.files.findLink path with
            | .ok (.link target) => .ok target
            | .ok _ => .error "Invalid argument"
            | .error f => .error f.message
        match found with
        | .ok text => { j with out := j.out ++ text ++ ending }
        | .error e =>
          if a.has "v" then j.fail i (Quoting.asNeeded path ++ ": ".toList ++ e.toList)
          else { j with status := 1 }) (Job.start i)).finish

def realpath (i : Invocation) : Outcome :=
  let known := [flag 'e' "canonicalize-existing", flag 'm' "canonicalize-missing",
    flag 'L' "logical", flag 'P' "physical", flag 'q' "quiet", flag 's' "strip", flag 'z' "zero"] ++
    ProgramOption.names .none ["no-symlinks"] ++
    ProgramOption.names .needed ["relative-to", "relative-base"]
  i.withOptions known 1 fun a =>
    if a.operands.isEmpty then i.missingOperand 1
    else
      let mode := ((a.lastOf? ["e", "m"]).getD "f").toList.head?.getD 'f'
      let base := (a.value? "relative-to").bind fun b => (canonical i.files 'm' b).toOption
      (a.operands.foldl (fun j path =>
        match canonical i.files mode path with
        | .ok place =>
          let text := match base with
            | some b => relativeTo b place
            | none => Files.pathOf place
          { j with out := j.out ++ text ++ (if a.has "z" then ['\x00'] else ['\n']) }
        | .error f =>
          if a.has "q" then { j with status := 1 }
          else j.fail i ((if path.isEmpty then ['\'', '\''] else Quoting.asNeeded path) ++
            ": ".toList ++ f.message.toList)) (Job.start i)).finish

/-! ### What is known of a file -/

def kindName : Entry → String
  | .directory => "directory"
  | .document d => if d.content.isEmpty then "regular empty file" else "regular file"
  | .program _ => "regular file"
  | .link _ => "symbolic link"
  | .device (.pipe _) => "fifo"
  | .device _ => "character special file"

def kindBits : Entry → Nat
  | .directory => 0o40000
  | .link _ => 0o120000
  | .device (.pipe _) => 0o10000
  | .device _ => 0o20000
  | _ => 0o100000

def deviceNumbers : Entry → Nat × Nat
  | .device .null => (1, 3)
  | .device .zeros => (1, 5)
  | .device .full => (1, 7)
  | _ => (0, 0)

/-- What a letter of a format stands for; `places` are those of seconds. -/
def statField (i : Invocation) (path : Octets) (place : Place) (e : Entry) (places : Option Nat)
    (alternate : Bool) : Char → Octets
  | 'n' => path
  | 'N' => match e with
    | .link target => Quoting.always path ++ " -> ".toList ++ Quoting.always target
    | _ => Quoting.always path
  | 's' => Octets.ofNat (entrySize e)
  | 'b' => Octets.ofNat (2 * entryBlocks e)
  | 'B' => "512".toList
  | 'o' => "4096".toList
  | 'F' => (kindName e).toList
  | 'a' => (if alternate then ['0'] else []) ++ Nat.toDigits 8 (i.files.modeOf place e)
  | 'A' => entryLetters i.files place e
  | 'U' | 'G' => "root".toList
  | 'u' | 'g' => ['0']
  | 'h' => Octets.ofNat (i.files.linkCount place e)
  | 'f' => Nat.toDigits 16 (i.files.modeOf place e + kindBits e)
  | 'm' => ['/']
  | 't' => Nat.toDigits 16 (deviceNumbers e).1
  | 'T' => Nat.toDigits 16 (deviceNumbers e).2
  | 'i' => Octets.ofNat (1000000 + place.length * 1000 +
      (place.flatten.map Char.toNat).foldl (· + ·) 0)
  | 'd' => "2049".toList
  | 'D' => "801".toList
  | 'x' | 'y' | 'z' | 'w' => (momentAt i (i.files.timeOf place e)).format true
      "%Y-%m-%d %H:%M:%S.%N %z".toList
  | 'X' | 'Y' | 'Z' | 'W' => secondsText places (i.files.timeOf place e)
  | _ => ['?']

def statFormat (e : Entry) : String :=
  "  File: %N\n  Size: %-10s\tBlocks: %-10b IO Block: %-6o %F\n" ++
  (if e matches .device _ then "Device: 8,1\tInode: %-11i Links: %-5h Device type: %t,%T\n"
    else "Device: 8,1\tInode: %-11i Links: %h\n") ++
  "Access: (%04a/%10.10A)  Uid: (%5u/%8U)   Gid: (%5g/%8G)\n" ++
  "Access: %x\nModify: %y\nChange: %z\n Birth: %w"

/-- Tells what is known of files, in a format. -/
def stat (i : Invocation) : Outcome :=
  let known := [value 'c' "format", flag 'L' "dereference", flag 'f' "file-system",
    flag 't' "terse"] ++ ProgramOption.names .needed ["printf", "cached"]
  i.withOptions known 1 fun a =>
    if a.operands.isEmpty then i.missingOperand 1
    else
      let given := a.options.reverse.find? fun o => o.1 == "c" || o.1 == "printf"
      let escapes := given.any fun o => o.1 == "printf"
      let rec fill (path : Octets) (place : Place) (e : Entry) : Nat → Octets → Octets
        | 0, _ | _, [] => []
        | fuel + 1, '%' :: rest =>
          let flags := rest.takeWhile fun c => "-+ #0'".toList.contains c
          let after := rest.drop flags.length
          let width := after.takeWhile Char.isDigit
          let after := after.drop width.length
          let (dot, after) := match after with
            | '.' :: more => (true, more)
            | more => (false, more)
          let digits := if dot then after.takeWhile Char.isDigit else []
          let after := after.drop digits.length
          match after with
          | '%' :: more => '%' :: fill path place e fuel more
          | c :: more =>
            let seconds := "XYZW".toList.contains c
            let places := if !dot then some 0 else if digits.isEmpty then none else some (natural digits)
            let quoted := given.isNone && c == 'N'
            let text := if quoted then match e with
                | .link target => Quoting.asNeeded path ++ " -> ".toList ++ Quoting.asNeeded target
                | _ => Quoting.asNeeded path
              else statField i path place e places (flags.contains '#') c
            let numeric := "aAsbBohiugtTfdDXYZW".toList.contains c && c != 'A'
            let text := if dot && !seconds then
                if numeric then
                  List.replicate (natural digits - text.length) '0' ++ text
                else text.take (natural digits)
              else text
            let width := natural width
            let text := if flags.contains '-' then padRight width text
              else if flags.contains '0' && numeric then
                List.replicate (width - text.length) '0' ++ text
              else padLeft width text
            text ++ fill path place e fuel more
          | [] => ['%']
        | fuel + 1, '\\' :: rest =>
          if !escapes then '\\' :: fill path place e fuel rest
          else
            let (chars, rest) := Shell.takeEscape { zero := false, codes := true, quotes := true } rest
            chars ++ fill path place e fuel rest
        | fuel + 1, c :: rest => c :: fill path place e fuel rest
      (a.operands.foldl (fun j path =>
        match i.files.resolve path (a.has "L" || a.has "f") with
        | .ok (place, some e) =>
          let format := match given with
            | some (_, t) => t
            | none => if a.has "t" then
                "%n %s %b %f %u %g %D %i %h %t %T %X %Y %Z %W %o".toList
              else (statFormat e).toList
          { j with out := j.out ++ fill path place e (2 * format.length + 2) format ++
              (if escapes then [] else ['\n']) }
        | found =>
          let text := match found with
            | .error f => f.message
            | .ok _ => PathFault.missing.message
          j.failAt i (if a.has "f" then "cannot read file system information for"
            else "cannot statx") path text) (Job.start i)).finish

def which (i : Invocation) : Outcome :=
  match Arguments.ofList (ProgramOption.letters "as") true i.arguments with
  | .error text =>
    let c := text.reverse.drop 1 |>.head?.getD ' '
    { err := "Illegal option -".toList ++ [c] ++ "\nUsage: ".toList ++ i.name ++ " [-as] args\n".toList
      status := 2 }
  | .ok a =>
    let searchPath := (i.environment.lookup "PATH".toList).getD []
    let isProgram (p : Octets) : Bool := match i.files.find p with
      | .ok (.program _) => true
      | .ok (.document d) => d.executable
      | _ => false
    let found := a.operands.map fun name =>
      let all := (if name.contains '/' then [name] else Files.candidates searchPath name).filter
        isProgram
      if a.has "a" then all else all.take 1
    { out := if a.has "s" then [] else unlines found.flatten
      status := if a.operands.isEmpty || found.any List.isEmpty then 1 else 0 }

/-! ### Copying the input -/

/-- Writes the input to the output and to files. -/
def tee (i : Invocation) : Outcome :=
  let known := [flag 'a' "append", flag 'i' "ignore-interrupts", ⟨some 'p', none, .none⟩] ++
    ProgramOption.names .joined ["output-error"]
  i.withOptions known 1 fun a =>
    match i.input with
    | .error e =>
      { err := i.complaint ("read error: ".toList ++ e.toList), status := 1 }
    | .ok text =>
      let o : Outcome := { out := text, early := text.length, consumed := some text.length }
      let o := a.operands.foldl (fun (o, files) path =>
        let refuse (f : String) : Outcome × Files :=
          ({ o with err := o.err ++ i.complaint (Quoting.asNeeded path ++ ": ".toList ++ f.toList)
                    status := 1 }, files)
        match (files : Files).resolve path true with
        | .error f => refuse f.message
        | .ok (place, there) =>
          let written (own : Octets) : Outcome × Files :=
            (o, files.write place ((if a.has "a" then own else []) ++ text)
              (freshMode i 0o666))
          match there with
          | none => written []
          | some (.document d) => written d.content
          | some (.device (.pipe _)) => written []
          | some .directory => refuse "Is a directory"
          | some (.device (.descriptor 1)) =>
            ({ o with out := o.out ++ text, early := o.early + text.length }, files)
          | some (.device (.descriptor n)) => ({ o with others := o.others ++ [(n, text)] }, files)
          | some (.device .full) => refuse "No space left on device"
          | some _ => (o, files)) (o, i.files)
      { o.1 with files := some o.2 }

/-! ### Comparing -/

def compared (i : Invocation) (operand : Octets) : Except Octets Octets :=
  (i.content operand).mapError fun e => i.complaint (operand ++ ": ".toList ++ e.toList)

def cmp (i : Invocation) : Outcome :=
  let known := [flag 'b' "print-bytes", value 'i' "ignore-initial", flag 'l' "verbose",
    value 'n' "bytes", flag 's' "quiet"] ++ ProgramOption.names .none ["silent"]
  i.withOptions known 2 fun a =>
    match a.operands with
    | [] => i.misuse 2 ("missing operand after ".toList ++ Quoting.plain i.name)
    | _ :: _ :: _ :: _ :: extra :: _ => i.extraOperand 2 extra
    | f :: others =>
      let g := others.head?.getD ['-']
      let skipped (n : Nat) : Nat := natural ((others[n]?).getD [])
      match compared i f, compared i g with
      | .error text, _ | _, .error text =>
        { err := if a.has "s" then [] else text, status := 2 }
      | .ok x, .ok y =>
        let cut (t : Octets) (skip : Nat) : Octets :=
          let t := t.drop (max skip (natural ((a.value? "i").getD [])))
          match a.value? "n" with
          | some n => t.take (natural n)
          | none => t
        let (x, y) := (cut x (skipped 1), cut y (skipped 2))
        let consumed := if i.isInput f || i.isInput g then i.wholeInput else none
        let differing := (x.zip y).zipIdx.filter fun p => p.1.1 != p.1.2
        let quiet := a.has "s" || a.has "silent"
        let ended : Option Octets :=
          if x.length = y.length then none
          else
            let (shorter, t) := if x.length < y.length then (f, x) else (g, y)
            some (i.complaint ("EOF on ".toList ++ shorter ++
              (if t.isEmpty then " which is empty".toList
              else " after byte ".toList ++ Octets.ofNat t.length ++
                (if a.has "l" then [] else
                  (if t.getLast? == some '\n' then ", line " else ", in line ").toList ++
                  Octets.ofNat (t.count '\n' + if t.getLast? == some '\n' then 0 else 1)))))
        if a.has "l" then
          let width := (Octets.ofNat (max x.length y.length)).length
          let octal (c : Char) : Octets := padLeft 3 (Nat.toDigits 8 c.toNat)
          { out := differing.flatMap fun (p, n) =>
              padLeft width (Octets.ofNat (n + 1)) ++ ' ' :: octal p.1 ++ ' ' :: octal p.2 ++ ['\n']
            err := ended.getD []
            status := if differing.isEmpty && ended.isNone then 0 else 1
            consumed }
        else match differing with
          | (_, n) :: _ =>
            let line := (x.take n).count '\n' + 1
            { out := if quiet then [] else f ++ ' ' :: g ++ " differ: char ".toList ++
                Octets.ofNat (n + 1) ++ ", line ".toList ++ Octets.ofNat line ++ ['\n']
              status := 1, consumed }
          | [] =>
            { err := if quiet then [] else ended.getD [], status := if ended.isSome then 1 else 0
              consumed }

/-- The lengths of the longest common parts of the rest of one list and each rest of another. -/
def commonLengths (a : Octets) (below : List Nat) : List Octets → List Nat
  | [] => [0]
  | b :: bs =>
    let right := commonLengths a below.tail bs
    let n := if a == b then below.tail.head?.getD 0 + 1
      else max (below.head?.getD 0) (right.head?.getD 0)
    n :: right

/-- Which lines of two texts go together: those of a longest common part. -/
def matched (xs ys : List Octets) : List (Nat × Nat) :=
  let table := xs.foldr (fun x rows =>
    commonLengths x ((rows.head?).getD []) ys :: rows)
    [List.replicate (ys.length + 1) 0]
  let rec walk : Nat → Nat → Nat → List Octets → List Octets → List (List Nat) → List (Nat × Nat)
    | 0, _, _, _, _, _ => []
    | fuel + 1, m, n, x :: xs, y :: ys, row :: rows =>
      if x == y then
        (m, n) :: walk fuel (m + 1) (n + 1) xs ys (rows.map List.tail)
      else
        let down := ((rows.head?).bind List.head?).getD 0
        let right := (row.tail.head?).getD 0
        if right ≤ down then walk fuel (m + 1) n xs (y :: ys) rows
        else walk fuel m (n + 1) (x :: xs) ys ((row :: rows).map List.tail)
    | _, _, _, _, _, _ => []
  walk (xs.length + ys.length + 1) 0 0 xs ys table

/-- A change: lines of the first text, from one place to another, for lines of the second. -/
structure Change where
  first : Nat
  last : Nat
  newFirst : Nat
  newLast : Nat

def changesBetween (sizes : Nat × Nat) : Nat → Nat → List (Nat × Nat) → List Change
  | m, n, [] =>
    if m < sizes.1 || n < sizes.2 then [⟨m, sizes.1, n, sizes.2⟩] else []
  | m, n, (p, q) :: rest =>
    (if m < p || n < q then [⟨m, p, n, q⟩] else []) ++ changesBetween sizes (p + 1) (q + 1) rest

def unified (around : Nat) (xs ys : Array Octets) (changes : List Change) : Octets :=
  let rec groups : Nat → List Change → List (List Change)
    | 0, _ => []
    | _, [] => []
    | fuel + 1, c :: rest =>
      match groups fuel rest with
      | (d :: ds) :: gs =>
        if d.first ≤ c.last + 2 * around then (c :: d :: ds) :: gs else [c] :: (d :: ds) :: gs
      | _ => [[c]]
  let lines (sign : Char) (all : Array Octets) (a b : Nat) : Octets :=
    (all.extract a b).toList.flatMap fun l =>
      sign :: l ++ (if l.getLast? == some '\n' then [] else "\n\\ No newline at end of file\n".toList)
  let span (a b : Nat) : Octets :=
    if b - a = 1 then Octets.ofNat (a + 1)
    else Octets.ofNat (if a = b then a else a + 1) ++ ',' :: Octets.ofNat (b - a)
  (groups (changes.length + 1) changes).flatMap fun g =>
    match g.head?, g.getLast? with
    | some c, some d =>
      let first := c.first - around
      let newFirst := c.newFirst - (c.first - first)
      let last := min xs.size (d.last + around)
      let newLast := d.newLast + (last - d.last)
      let body := g.foldl (fun (text, place) c =>
        (text ++ lines ' ' xs place c.first ++ lines '-' xs c.first c.last ++
          lines '+' ys c.newFirst c.newLast, c.last)) (([], first) : Octets × Nat)
      "@@ -".toList ++ span first last ++ " +".toList ++ span newFirst newLast ++ " @@\n".toList ++
        body.1 ++ lines ' ' xs body.2 last
    | _, _ => []

def diff (i : Invocation) : Outcome :=
  let known := [flag 'q' "brief", flag 's' "report-identical-files", flag 'i' "ignore-case",
    flag 'w' "ignore-all-space", flag 'b' "ignore-space-change", flag 'B' "ignore-blank-lines",
    ⟨some 'u', none, .none⟩, value 'U' "unified", flag 'r' "recursive", flag 'N' "new-file",
    flag 'a' "text", value 'L' "label"] ++ ProgramOption.names .none ["normal", "strip-trailing-cr"]
  i.withOptions known 2 fun a =>
    match a.operands with
    | [] => i.misuse 2 ("missing operand after ".toList ++ Quoting.plain i.name)
    | [f] => i.misuse 2 ("missing operand after ".toList ++ Quoting.plain f)
    | _ :: _ :: extra :: _ => i.extraOperand 2 extra
    | [f, g] =>
      let beside (d o : Octets) : Octets := below d (lastPart o)
      let (f, g) := if i.files.isDirectory f && !i.files.isDirectory g && f != ['-'] then
          (beside f g, g)
        else if i.files.isDirectory g && !i.files.isDirectory f && g != ['-'] then (f, beside g f)
        else (f, g)
      match compared i f, compared i g with
      | .error x, .error y => { err := x ++ y, status := 2 }
      | .error text, _ | _, .error text => { err := text, status := 2 }
      | .ok x, .ok y =>
        let fold (l : Octets) : Octets :=
          let l := if a.has "i" then l.map Char.toLower else l
          if a.has "w" then l.filter fun c => c != ' ' && c != '\t'
          else if a.has "b" then
            (l.splitBy fun p q => (p == ' ' || p == '\t') == (q == ' ' || q == '\t')).flatMap fun run =>
              if run.head? == some ' ' || run.head? == some '\t' then [' '] else run
          else l
        let (xs, ys) := (linesOf x, linesOf y)
        let pairs := matched (xs.map fold) (ys.map fold)
        let changes := changesBetween (xs.length, ys.length) 0 0 pairs
        let consumed := if i.isInput f || i.isInput g then i.wholeInput else none
        if changes.isEmpty then
          { out := if a.has "s" then "Files ".toList ++ f ++ " and ".toList ++ g ++
              " are identical\n".toList else [], consumed }
        else if a.has "q" then
          { out := "Files ".toList ++ f ++ " and ".toList ++ g ++ " differ\n".toList, status := 1
            consumed }
        else
          let (xa, ya) := (xs.toArray, ys.toArray)
          let labels := (a.options.filter (·.1 == "L")).map Prod.snd
          if a.has "u" || a.has "U" then
            let title (sign : String) (n : Nat) (name : Octets) : Octets :=
              sign.toList ++ (labels[n]?.getD (name ++ "\t1970-01-01 00:00:00.000000000 +0000".toList)) ++
                ['\n']
            let around := ((a.value? "U").map natural).getD 3
            { out := title "--- " 0 f ++ title "+++ " 1 g ++ unified around xa ya changes
              status := 1, consumed }
          else
            let range (a b : Nat) : Octets :=
              if b - a ≤ 1 then Octets.ofNat (if a = b then a else a + 1)
              else Octets.ofNat (a + 1) ++ ',' :: Octets.ofNat b
            let lines (sign : Char) (all : Array Octets) (a b : Nat) : Octets :=
              (all.extract a b).toList.flatMap fun l =>
                sign :: ' ' :: l ++ (if l.getLast? == some '\n' then []
                  else "\n\\ No newline at end of file\n".toList)
            { out := changes.flatMap fun c =>
                let removes := c.first < c.last
                let adds := c.newFirst < c.newLast
                let letter := if removes && adds then 'c' else if removes then 'd' else 'a'
                range c.first c.last ++ letter :: range c.newFirst c.newLast ++ ['\n'] ++
                  lines '<' xa c.first c.last ++
                  (if removes && adds then "---\n".toList else []) ++
                  lines '>' ya c.newFirst c.newLast
              status := 1, consumed }

def inspections : List (String × Program) := [
  ("ls", ls), ("dir", ls), ("readlink", readlink), ("realpath", realpath), ("stat", stat),
  ("which", which), ("tee", tee), ("cmp", cmp), ("diff", diff)]

end MediaPipeline.Program
