import MediaPipeline.Program.Job
import MediaPipeline.Program.Lines

/-!
Cutting a file into pieces of so many lines or bytes, or into so many pieces, each of which becomes a
file of its own. The files have names that follow each other.
-/

namespace MediaPipeline.Program.Pieces

open Shell.Quoting (plain always asNeeded)
open ProgramOption (flag value)

/-! ### Names that follow each other -/

structure Naming where
  stem : Octets := ['x']
  signs : Octets := "abcdefghijklmnopqrstuvwxyz".toList
  length : Nat := 2
  /-- Names become longer where there would be too few. -/
  grows : Bool := true
  first : Nat := 0
  ending : Octets := []

def counted (signs : Octets) : Nat → Nat → Octets
  | 0, _ => []
  | places + 1, n =>
    counted signs places (n / signs.length) ++ (signs[n % signs.length]?).toList

/-- The signs in the name of a piece; none where the names are used up. -/
def Naming.mark? (n : Naming) (index : Nat) : Option Octets :=
  let base := n.signs.length
  if !n.grows then
    if n.first + index < Nat.pow base n.length then
      some (counted n.signs n.length (n.first + index))
    else none
  else grown base index index.succ 0
where
  /-- Looks for the length at which there are enough names. The last sign in front says that more
  follow. -/
  grown (base index : Nat) : Nat → Nat → Option Octets
  | 0, _ => none
  | fuel + 1, level =>
    let places := n.length + level
    let room := (base - 1) * Nat.pow base (places - 1)
    if index < room then
      some (List.replicate level (n.signs.getLast?.getD 'z') ++ counted n.signs places index)
    else grown base (index - room) fuel (level + 1)

/-! ### Ways to cut -/

inductive Cut where
  | lines (count : Nat)
  | bytes (count : Nat)
  | lineBytes (count : Nat)
  | parts (count : Nat)
  | lineParts (count : Nat)
  | turns (count : Nat)

def groups {α : Type} (size : Nat) : Nat → List α → List (List α)
  | 0, _ | _, [] => []
  | fuel + 1, xs => xs.take size :: groups size fuel (xs.drop size)

/-- Puts lines together up to so many bytes; one that is too long is broken. -/
def packed (size : Nat) : Nat → Octets → List Octets → List Octets
  | 0, held, _ | _, held, [] => if held.isEmpty then [] else [held]
  | fuel + 1, held, line :: rest =>
    if held.length + line.length ≤ size then packed size fuel (held ++ line) rest
    else if !held.isEmpty then held :: packed size fuel [] (line :: rest)
    else line.take size :: packed size fuel [] (line.drop size :: rest)

def Cut.pieces (c : Cut) (stop : Char) (text : Octets) : List Octets :=
  let lines := linesBy stop text
  let size (count : Nat) : Nat := max text.length count / max count 1
  match c with
  | .lines count => (groups count lines.length lines).map List.flatten
  | .bytes count => groups count text.length text
  | .lineBytes count => packed count (2 * text.length + 1) [] lines
  | .parts count =>
    (List.range count).map fun k =>
      if k + 1 = count then text.drop (k * size count)
      else (text.drop (k * size count)).take (size count)
  | .lineParts count =>
    let starts := lines.foldl (fun ((p, all) : Nat × List (Nat × Octets)) l =>
      (p + l.length, (p, l) :: all)) (0, [])
    (List.range count).map fun k =>
      (starts.2.reverse.filterMap fun (p, l) =>
        if min (p / size count) (count - 1) = k then some l else none).flatten
  | .turns count =>
    (List.range count).map fun k =>
      (lines.zipIdx.filterMap fun (l, n) => if n % count = k then some l else none).flatten
where
  linesBy (stop : Char) (text : Octets) : List Octets :=
    let pieces := text.splitOn stop
    pieces.dropLast.map (· ++ [stop]) ++ (pieces.getLast?.toList.filter fun l => !l.isEmpty)

def Cut.fixed? : Cut → Option Nat
  | .parts n | .lineParts n | .turns n => some n
  | _ => none

/-! ### The program -/

structure Task where
  cut : Option Cut := none
  /-- The only piece that is wanted, which is written and makes no file. -/
  only : Option Nat := none
  stop : Char := '\n'
  naming : Naming := {}
  asked : Nat := 0
  start : Option Octets := none

inductive Refusal where
  | wrong (text : Octets)
  | misused (text : Octets)

def numberIn (what : String) (low high : Nat) (sizes : Bool) (text : Octets) :
    Except Refusal Nat :=
  let bad (more : String) : Except Refusal Nat :=
    .error (.wrong (what.toList ++ ": ".toList ++ plain text ++ more.toList))
  let number? : Option Nat := if sizes then sized? text
    else if text.isEmpty || !text.all Char.isDigit then none
    else some (natural text)
  match number? with
  | none => bad ""
  | some n =>
    if Nat.pow 2 64 ≤ n then bad ": Value too large for defined data type"
    else if n < low || high < n then
      bad (if n < Nat.pow 2 30 then ": Numerical result out of range"
        else ": Value too large for defined data type")
    else .ok n

def share (text : Octets) : Except Refusal (Cut × Option Nat) := do
  let (make, rest) : (Nat → Cut) × Octets := match text with
    | 'l' :: '/' :: rest => (.lineParts, rest)
    | 'r' :: '/' :: rest => (.turns, rest)
    | _ => (.parts, text)
  let front := rest.takeWhile (· != '/')
  let high := Nat.pow 2 64 - 1
  if front.length = rest.length then
    pure (make (← numberIn "invalid number of chunks" 1 high false rest), none)
  else
    let n ← numberIn "invalid number of chunks" 1 high false (rest.drop (front.length + 1))
    let k ← numberIn "invalid chunk number" 1 n false front
    pure (make n, some k)

def Task.add (t : Task) (key : String) (text : Octets) : Except Refusal Task := do
  let once (c : Cut) (only : Option Nat := none) : Except Refusal Task :=
    if t.cut.isSome then .error (.misused "cannot split in more than one way".toList)
    else .ok { t with cut := some c, only }
  let high := Nat.pow 2 63 - 1
  let counting (signs : String) : Except Refusal Task :=
    let t := { t with naming := { t.naming with signs := signs.toList } }
    if text.isEmpty then .ok t
    else if !text.all fun c => signs.toList.contains c then
      .error (.wrong (plain text ++ (if signs.length = 10
        then ": invalid start value for numerical suffix"
        else ": invalid start value for hexadecimal suffix").toList))
    else .ok { t with start := some text }
  match key with
  | "l" => once (.lines (← numberIn "invalid number of lines" 1 (Nat.pow 2 64 - 1) false text))
  | "b" => once (.bytes (← numberIn "invalid number of bytes" 1 high true text))
  | "C" => once (.lineBytes (← numberIn "invalid number of bytes" 1 high true text))
  | "n" => do
    let (c, only) ← share text
    once c only
  | "a" => pure { t with asked := ← numberIn "invalid suffix length" 0 (Nat.pow 2 60) false text }
  | "d" | "numeric-suffixes" => counting "0123456789"
  | "x" | "hex-suffixes" => counting "0123456789abcdef"
  | "additional-suffix" =>
    if text.contains '/' then
      throw (.misused ("invalid suffix ".toList ++ plain text ++
        ", contains directory separator".toList))
    else pure { t with naming := { t.naming with ending := text } }
  | "t" =>
    match text with
    | [] => throw (.wrong "empty record separator".toList)
    | [c] => pure { t with stop := c }
    | ['\\', '0'] => pure { t with stop := '\x00' }
    | _ => throw (.wrong ("multi-character separator ".toList ++ plain text))
  | _ => pure t

def Task.settled (t : Task) (stem : Octets) : Except Refusal Task := do
  let cut := t.cut.getD (.lines 1000)
  let base := t.naming.signs.length
  let first := ((t.start.getD []).map fun c => (t.naming.signs.idxOf? c).getD 0).foldl
    (fun n d => n * base + d) 0
  let needed := match cut.fixed? with
    | none => 0
    | some n =>
      let last := n - 1 + if first < n then first else 0
      (((List.range 64).find? fun k => last < Nat.pow base (k + 1)).getD 63) + 1
  if t.asked != 0 && t.asked < needed then
    throw (.wrong ("the suffix length needs to be at least ".toList ++ Octets.ofNat needed))
  let length := if t.asked != 0 then t.asked else max 2 needed
  if length < (t.start.getD []).length then
    throw (.misused ("numerical suffix start value is too large for the suffix length".toList))
  pure { t with
    cut := some cut
    naming := { t.naming with
      stem, length, first
      grows := t.asked = 0 && t.start.isNone && cut.fixed?.isNone } }

def written (i : Invocation) (a : Arguments) (n : Naming) (pieces : List Octets) : Job :=
  let place (j : Job) (piece : Octets) (index : Nat) : Except Octets Job :=
    match n.mark? index with
    | none => .error "output file suffixes exhausted".toList
    | some mark =>
      let path := n.stem ++ mark ++ n.ending
      let told := j.note (a.has "verbose") ("creating file ".toList ++ always path)
      match told.files.resolve path true with
      | .ok (_, some .directory) => .error (asNeeded path ++ ": Is a directory".toList)
      | .ok (there, _) =>
        .ok { told with files := told.files.write there piece (freshMode i 0o666) }
      | .error f => .error (asNeeded path ++ ": ".toList ++ f.message.toList)
  let (j, fault) := pieces.zipIdx.foldl (fun ((j, fault) : Job × Option Octets) (piece, index) =>
    match fault with
    | some _ => (j, fault)
    | none => match place j piece index with
      | .ok j => (j, none)
      | .error text => (j, some text)) (Job.start i, none)
  match fault with
  | some text => j.fail i text
  | none => j

def splitOptions : List ProgramOption := [
  value 'a' "suffix-length", value 'b' "bytes", value 'C' "line-bytes", flag 'e' "elide-empty-files",
  value 'l' "lines", value 'n' "number", value 't' "separator", flag 'u' "unbuffered",
  ⟨some 'd', none, .none⟩, ⟨some 'x', none, .none⟩] ++
  ProgramOption.names .joined ["numeric-suffixes", "hex-suffixes"] ++
  ProgramOption.names .needed ["additional-suffix", "filter"] ++
  ProgramOption.names .none ["verbose"]

def split (i : Invocation) : Outcome :=
  let i := { i with arguments := i.arguments.map fun
    | '-' :: c :: cs => if c.isDigit && cs.all Char.isDigit then '-' :: 'l' :: c :: cs else '-' :: c :: cs
    | w => w }
  i.withOptions splitOptions 1 fun a =>
    match a.operands with
    | _ :: _ :: extra :: _ => i.extraOperand 1 extra
    | operands =>
      let file := operands.head?.getD ['-']
      let stem := (operands.drop 1).head?.getD ['x']
      match (a.options.foldlM (fun t (key, text) => t.add key text) ({} : Task)) >>=
          fun t => t.settled stem with
      | .error (.wrong text) => i.fail 1 text
      | .error (.misused text) => i.misuse 1 text
      | .ok t =>
        match i.content file with
        | .error f =>
          i.fail 1 (if f == "Is a directory" then asNeeded file ++ ": ".toList ++ f.toList
            else "cannot open ".toList ++ always file ++ " for reading: ".toList ++ f.toList)
        | .ok text =>
          let pieces := (t.cut.getD (.lines 1000)).pieces t.stop text
          let consumed := if i.isInput file then some text.length else none
          match t.only with
          | some k => { out := (pieces.drop (k - 1)).head?.getD [], consumed }
          | none =>
            let kept := if a.has "e" then pieces.filter fun p => !p.isEmpty else pieces
            { (written i a t.naming kept).finish with consumed }

end MediaPipeline.Program.Pieces
