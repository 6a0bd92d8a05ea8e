import MediaPipeline.Program.Job
import MediaPipeline.Program.Lines

/-!
Moving bytes from one place to another in blocks. Blocks are read in one size and written in another;
bytes may be changed on the way, and it is counted how many blocks there were.
-/

namespace MediaPipeline.Program.Transfer

open Shell.Quoting (plain always asNeeded)

structure Extent where
  count : Nat
  inBytes : Bool := false

def Extent.total (e : Extent) (block : Nat) : Nat :=
  if e.inBytes then e.count else e.count * block

structure Plan where
  source : Option Octets := none
  target : Option Octets := none
  readSize : Nat := 512
  writeSize : Nat := 512
  /-- One size for both, which keeps blocks as they are read. -/
  oneSize : Option Nat := none
  lineSize : Nat := 0
  skip : Extent := ⟨0, false⟩
  seek : Extent := ⟨0, false⟩
  count : Option Extent := none
  changes : List String := []
  sourceFlags : List String := []
  targetFlags : List String := []
  report : String := ""

structure Refusal where
  text : Octets
  hint : Bool := false

/-! ### Operands -/

def factor? (suffix : Octets) : Option Nat :=
  match suffix with
  | [] => some 1
  | ['c'] => some 1
  | ['w'] => some 2
  | ['b'] => some 512
  | c :: unit =>
    match ['K', 'M', 'G', 'T', 'P', 'E'].idxOf? c.toUpper, c with
    | _, 'm' | _, 'g' | _, 't' | _, 'p' | _, 'e' | none, _ => none
    | some power, _ =>
      if unit == [] || unit == "iB".toList then some (Nat.pow 1024 (power + 1))
      else if unit == ['B'] then some (Nat.pow 1000 (power + 1))
      else none

/-- The product that a text stands for, with whether it counts bytes. -/
def extent? (text : Octets) : Option Extent :=
  let factors := text.splitOn 'x'
  let lone (factor : Octets) : Option (Nat × Bool) :=
    let digits := factor.takeWhile Char.isDigit
    let suffix := factor.drop digits.length
    if digits.isEmpty then none
    else match factor? suffix with
      | some f => some (natural digits * f, suffix.getLast? == some 'B')
      | none =>
        if suffix.getLast? == some 'B' then
          (factor? suffix.dropLast).map fun f => (natural digits * f, true)
        else none
  (factors.mapM lone).map fun values =>
    ⟨(values.map Prod.fst).foldl (· * ·) 1, values.any Prod.snd⟩

def number (text : Octets) (low : Nat) (high : Nat) : Except Refusal Extent :=
  let bad (more : String) : Except Refusal Extent :=
    .error { text := "invalid number: ".toList ++ always text ++ more.toList }
  match extent? text with
  | none => bad ""
  | some e =>
    if high < e.count then bad ": Value too large for defined data type"
    else if e.count < low then bad ""
    else .ok e

def symbols (what : String) (known : List String) (text : Octets) : Except Refusal (List String) :=
  (text.splitOn ',').mapM fun name =>
    let word := String.ofList name
    if known.contains word then .ok word
    else .error { text := what.toList ++ ": ".toList ++ plain name, hint := true }

def changeNames : List String := [
  "ascii", "ebcdic", "ibm", "block", "unblock", "lcase", "ucase", "sparse", "swab", "noerror",
  "nocreat", "excl", "notrunc", "sync", "fdatasync", "fsync"]

def flagNames : List String := [
  "append", "binary", "direct", "directory", "dsync", "noatime", "nocache", "noctty", "nofollow",
  "nolinks", "nonblock", "sync", "text"]

def Plan.add (p : Plan) (operand : Octets) : Except Refusal Plan := do
  let name := operand.takeWhile (· != '=')
  let value := operand.drop (name.length + 1)
  let unknown : Except Refusal Plan :=
    .error { text := "unrecognized operand ".toList ++ always operand, hint := true }
  let size : Except Refusal Nat := (number value 1 (Nat.pow 2 63 - 2)).map Extent.count
  let length : Except Refusal Extent := number value 0 (Nat.pow 2 63 - 1)
  if name.length = operand.length then unknown
  else match String.ofList name with
    | "if" => pure { p with source := some value }
    | "of" => pure { p with target := some value }
    | "ibs" => pure { p with readSize := ← size }
    | "obs" => pure { p with writeSize := ← size }
    | "bs" => pure { p with oneSize := some (← size) }
    | "cbs" => pure { p with lineSize := ← size }
    | "skip" | "iseek" => pure { p with skip := ← length }
    | "seek" | "oseek" => pure { p with seek := ← length }
    | "count" => pure { p with count := some (← length) }
    | "conv" => pure { p with changes := p.changes ++ (← symbols "invalid conversion" changeNames value) }
    | "iflag" =>
      let known := flagNames ++ ["fullblock", "count_bytes", "skip_bytes"]
      pure { p with sourceFlags := p.sourceFlags ++ (← symbols "invalid input flag" known value) }
    | "oflag" =>
      let known := flagNames ++ ["seek_bytes"]
      pure { p with targetFlags := p.targetFlags ++ (← symbols "invalid output flag" known value) }
    | "status" =>
      let known := ["none", "noxfer", "progress"]
      pure { p with report := ((← symbols "invalid status level" known value).getLast?).getD "" }
    | _ => unknown

/-- Puts sizes and flags in their places, and refuses changes that do not go together. -/
def Plan.settled (p : Plan) : Except Refusal Plan := do
  let both (names : List String) : Bool := 1 < (names.filter p.changes.contains).length
  let refuse (names : String) : Except Refusal Plan :=
    .error { text := "cannot combine ".toList ++ names.toList }
  if both ["ascii", "ebcdic", "ibm"] then refuse "any two of \x7bascii,ebcdic,ibm\x7d"
  else if both ["block", "unblock"] then refuse "block and unblock"
  else if both ["lcase", "ucase"] then refuse "lcase and ucase"
  else if both ["excl", "nocreat"] then refuse "excl and nocreat"
  else
    let bytes (e : Extent) (asked : Bool) : Extent := { e with inBytes := e.inBytes || asked }
    pure { p with
      readSize := p.oneSize.getD p.readSize, writeSize := p.oneSize.getD p.writeSize
      skip := bytes p.skip (p.sourceFlags.contains "skip_bytes")
      seek := bytes p.seek (p.targetFlags.contains "seek_bytes")
      count := p.count.map fun e => bytes e (p.sourceFlags.contains "count_bytes") }

def Plan.has (p : Plan) (change : String) : Bool :=
  p.changes.contains change

def Plan.blocks (p : Plan) : Bool :=
  p.lineSize != 0 && (p.has "block" || p.has "ebcdic" || p.has "ibm")

def Plan.unblocks (p : Plan) : Bool :=
  p.lineSize != 0 && (p.has "unblock" || p.has "ascii")

/-! ### Changes of the bytes -/

def swapped : Octets → Octets
  | a :: b :: rest => b :: a :: swapped rest
  | rest => rest

def chunks (size : Nat) : Nat → Octets → List Octets
  | 0, _ | _, [] => []
  | fuel + 1, text => text.take size :: chunks size fuel (text.drop size)

/-- The bytes as they are written, with how many lines are cut. -/
def Plan.changed (p : Plan) (read : List Octets) : Octets × Nat :=
  let filler := if p.blocks || p.unblocks then ' ' else '\x00'
  let text := if p.has "sync" then (read.map fun b =>
      b ++ List.replicate (p.readSize - b.length) filler).flatten
    else read.flatten
  let text := if p.has "swab" then swapped text else text
  let text := if p.has "lcase" then text.map Char.toLower
    else if p.has "ucase" then text.map Char.toUpper
    else text
  if p.blocks then
    let lines := bareLines text
    ((lines.map fun l => padRight p.lineSize (l.take p.lineSize)).flatten,
      (lines.filter fun l => p.lineSize < l.length).length)
  else if p.unblocks then
    ((chunks p.lineSize text.length text).flatMap fun c =>
      (c.reverse.dropWhile (· == ' ')).reverse ++ ['\n'], 0)
  else (text, 0)

/-! ### The report -/

/-- An amount of bytes with a unit, of one digit behind the point where there is one in front of it. -/
def amount (base : Nat) (n : Nat) : Octets :=
  let units : List String := if base = 1024 then ["B", "KiB", "MiB", "GiB", "TiB"]
    else ["B", "kB", "MB", "GB", "TB"]
  let power := ((List.range 4).filter fun k => Nat.pow base (k + 1) ≤ n).length
  let unit := Nat.pow base power
  let name := (units[power]?).getD ""
  let tenths := (n * 10 * 2 + unit) / (2 * unit)
  let number := if power = 0 then Octets.ofNat n
    else if tenths < 100 then Octets.ofNat (tenths / 10) ++ '.' :: Octets.ofNat (tenths % 10)
    else Octets.ofNat ((n * 2 + unit) / (2 * unit))
  number ++ ' ' :: name.toList

def Plan.summary (p : Plan) (read written : List Nat) (cut : Nat) : Octets :=
  let counted (sizes : List Nat) (size : Nat) (what : String) : Octets :=
    let full := (sizes.filter (· == size)).length
    Octets.ofNat full ++ '+' :: Octets.ofNat (sizes.length - full) ++ what.toList
  let records := counted read p.readSize " records in\n" ++
    counted written p.writeSize " records out\n" ++
    (if cut = 0 then []
      else Octets.ofNat cut ++ (if cut = 1 then " truncated record\n" else " truncated records\n").toList)
  let total := written.foldl (· + ·) 0
  let sizes := if total < 1000 then []
    else if total < 1024 then " (".toList ++ amount 1000 total ++ [')']
    else " (".toList ++ amount 1000 total ++ ", ".toList ++ amount 1024 total ++ [')']
  let unit := if total = 1 then " byte" else " bytes"
  if p.report == "none" then []
  else if p.report == "noxfer" then records
  else records ++ Octets.ofNat total ++ unit.toList ++ sizes ++
    " copied, 0.0001 s, ".toList ++ (if total = 0 then "0.0 kB".toList else amount 1000 (total * 10000)) ++ "/s\n".toList

/-! ### The program -/

/-- The bytes that come from a source, no more than it is asked for. -/
def Plan.given (p : Plan) (i : Invocation) : Except String Octets :=
  let asked := p.skip.total p.readSize + ((p.count.map fun c => c.total p.readSize).getD i.reach)
  let i := { i with reach := asked }
  match p.source with
  | none => i.input
  | some path => i.content (if path == ['-'] then ['.', '/', '-'] else path)

def Plan.read (p : Plan) (text : Octets) : List Octets × Bool :=
  let skipped := p.skip.total p.readSize
  let left := text.drop skipped
  let left := match p.count with
    | some c => left.take (c.total p.readSize)
    | none => left
  (chunks p.readSize left.length left, skipped ≤ text.length)

/-- The content of a target: what was there in front of the place where writing starts, what is
written, and what was there behind it, where that is kept. -/
def Plan.onto (p : Plan) (old new : Octets) : Octets :=
  let start := p.seek.total p.writeSize
  if p.targetFlags.contains "append" then (if p.has "notrunc" then old else old.take start) ++ new
  else
    let front := old.take start
    front ++ List.replicate (start - front.length) '\x00' ++ new ++
      (if p.has "notrunc" then old.drop (start + new.length) else [])

/-- The end where a file cannot be opened. -/
def closedOff (i : Invocation) (path : Octets) (fault : String) : Outcome :=
  i.fail 1 ("failed to open ".toList ++ always path ++ ": ".toList ++ fault.toList)

def Plan.run (p : Plan) (i : Invocation) : Outcome :=
  let name := p.source.getD "standard input".toList
  let given := p.given i
  let (text, fault) : Octets × Octets := match given with
    | .ok text => (text, [])
    | .error f => ([], i.complaint ("error reading ".toList ++ always name ++ ": ".toList ++ f.toList))
  let (blocks, enough) := p.read text
  let (bytes, cut) := p.changed blocks
  let kept := p.oneSize.isSome &&
    !(["block", "unblock", "lcase", "ucase", "swab", "ascii", "ebcdic", "ibm"].any p.has)
  let written := if kept && !p.has "sync" then blocks.map List.length
    else (chunks p.writeSize bytes.length bytes).map List.length
  let short := if enough || p.report == "none" then []
    else i.complaint (asNeeded name ++ ": cannot skip to specified offset".toList)
  let ending : Outcome := {
    err := fault ++ short ++ p.summary (blocks.map List.length) written cut
    status := if fault.isEmpty then 0 else 1
    consumed := match p.source with
      | none => some (min text.length
          (blocks.foldl (fun n block => n + block.length) (p.skip.total p.readSize)))
      | some path => if i.isInput path then some text.length else none
    block := 1 }
  match p.source, given with
  | some path, .error f =>
    if f == "Is a directory" then ending else closedOff i path f
  | _, _ =>
    match p.target with
    | none => { ending with out := bytes, early := bytes.length }
    | some path =>
      match i.files.resolve path true with
      | .error f => closedOff i path f.message
      | .ok (place, there) =>
        let put (old : Octets) : Outcome :=
          { ending with files := some (i.files.write place (p.onto old bytes) (freshMode i 0o666)) }
        match there with
        | none =>
          if p.has "nocreat" then closedOff i path "No such file or directory" else put []
        | some (.document d) =>
          if p.has "excl" then closedOff i path "File exists"
          else
            let emptied := p.seek.total p.writeSize = 0 && !p.has "notrunc"
            let own := emptied && p.source.any fun s => (i.files.placeAt s).toOption == some place
            if own then
              { ending with
                  files := some (i.files.write place [] d.mode)
                  err := ({ p with } : Plan).summary [] [] 0 }
            else put d.content
        | some .directory => closedOff i path "Is a directory"
        | some (.device (.descriptor 1)) => { ending with out := bytes, early := bytes.length }
        | some (.device (.descriptor n)) => { ending with others := [(n, bytes)] }
        | some (.device .full) =>
          if bytes.isEmpty then ending
          else
            { ending with
                status := 1
                err := i.complaint ("error writing ".toList ++ always path ++
                  ": No space left on device".toList) ++
                  p.summary ((blocks.take 1).map List.length) [] 0 }
        | some _ => ending

def dd (i : Invocation) : Outcome :=
  match Arguments.ofList [] false i.arguments with
  | .error text => i.misuse 1 text
  | .ok a =>
    match a.operands.foldlM Plan.add {} >>= Plan.settled with
    | .error f => if f.hint then i.misuse 1 f.text else i.fail 1 f.text
    | .ok p => p.run i

end MediaPipeline.Program.Transfer
