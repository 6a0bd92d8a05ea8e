import MediaPipeline.Program.Digest

/-!
Other ways to write bytes: dumps of numbers and characters, and texts in base 64 and base 32.
-/

namespace MediaPipeline.Program

open Shell (Quoting.plain)
open ProgramOption (flag value)

/-! ### Dumps -/

inductive DumpKind where
  | names
  | characters
  | octal
  | signed
  | unsigned
  | hexadecimal
  deriving DecidableEq

/-- A row of a dump: how its numbers are shown, and of how many bytes each is. -/
structure DumpType where
  kind : DumpKind
  size : Nat
  /-- The characters stand at the end of the row too. -/
  text : Bool := false

/-- How many characters a number takes at most. -/
def DumpType.width (t : DumpType) : Nat :=
  match t.kind, t.size with
  | .names, _ | .characters, _ => 3
  | .octal, 1 => 3
  | .octal, 2 => 6
  | .octal, 4 => 11
  | .octal, _ => 22
  | .signed, 1 => 4
  | .signed, 2 => 6
  | .signed, 4 => 11
  | .signed, _ => 20
  | .unsigned, 1 => 3
  | .unsigned, 2 => 5
  | .unsigned, 4 => 10
  | .unsigned, _ => 20
  | .hexadecimal, n => 2 * n

def controlNames : List String := [
  "nul", "soh", "stx", "etx", "eot", "enq", "ack", "bel", "bs", "ht", "nl", "vt", "ff", "cr", "so",
  "si", "dle", "dc1", "dc2", "dc3", "dc4", "nak", "syn", "etb", "can", "em", "sub", "esc", "fs",
  "gs", "rs", "us", "sp"]

def DumpType.show (t : DumpType) (bytes : List Nat) : Octets :=
  let n := Digest.wordOf bytes.reverse
  match t.kind with
  | .names =>
    let c := n % 128
    if c = 127 then "del".toList
    else ((controlNames[c]?).map String.toList).getD [Char.ofNat c]
  | .characters =>
    let c := Char.ofNat n
    if n = 0 then ['\\', '0']
    else if Shell.Quoting.isPrintable c then [c]
    else match Shell.Quoting.controlLetter? c with
      | some letter => ['\\', letter]
      | none => (Shell.Quoting.octal c).tail
  | .octal =>
    let digits := Nat.toDigits 8 n
    List.replicate (t.width - digits.length) '0' ++ digits
  | .hexadecimal => Digest.hexText t.width n
  | .unsigned => Octets.ofNat n
  | .signed =>
    let half := Nat.pow 2 (8 * t.size - 1)
    Octets.ofInt (if n < half then n else (n : Int) - 2 * half)

def dumpTypes (whole : Octets) : Nat → Octets → Except Octets (List DumpType)
  | 0, _ | _, [] => .ok []
  | fuel + 1, c :: rest => do
    let tail (rest : Octets) : Bool × Octets :=
      if rest.head? == some 'z' then (true, rest.tail) else (false, rest)
    let simple (kind : DumpKind) : Except Octets (List DumpType) := do
      let (text, rest) := tail rest
      return { kind, size := 1, text } :: (← dumpTypes whole fuel rest)
    let sized (kind : DumpKind) : Except Octets (List DumpType) := do
      let digits := rest.takeWhile Char.isDigit
      let (size, rest) := match rest with
        | 'C' :: rest => (1, rest)
        | 'S' :: rest => (2, rest)
        | 'I' :: rest => (4, rest)
        | 'L' :: rest => (8, rest)
        | rest => if digits.isEmpty then (4, rest) else (natural digits, rest.drop digits.length)
      if !([1, 2, 4, 8].contains size) then
        throw ("invalid type string ".toList ++ Quoting.plain whole ++
          ";\nthis system doesn't provide a ".toList ++ Octets.ofNat size ++
          "-byte integral type".toList)
      let (text, rest) := tail rest
      return { kind, size, text } :: (← dumpTypes whole fuel rest)
    match c with
    | 'a' => simple .names
    | 'c' => simple .characters
    | 'o' => sized .octal
    | 'd' => sized .signed
    | 'u' => sized .unsigned
    | 'x' => sized .hexadecimal
    | c => throw ("invalid character '".toList ++ c :: "' in type string ".toList ++
        Quoting.plain whole)

/-- The numbers of a block as one row. The padding of a row that is narrower than the widest is
spread over its numbers. -/
def DumpType.row (t : DumpType) (widest perBlock : Nat) (block : List Nat) : Octets :=
  let fields := perBlock / t.size
  let used := (block.length + t.size - 1) / t.size
  let pad := widest - fields * (t.width + 1)
  let cells := (Digest.pieces t.size (block.length + 1) block).zipIdx.map fun (bytes, n) =>
    let before := pad * (fields - n) / fields
    let after := pad * (fields - n - 1) / fields
    let bytes := bytes ++ List.replicate (t.size - bytes.length) 0
    padLeft (t.width + 1 + before - after) (t.show bytes)
  let text := if !t.text then [] else
    let missing := (fields - used) * (t.width + 1) + pad * (fields - used) / fields
    List.replicate missing ' ' ++ "  >".toList ++
      (block.map fun n =>
        if Shell.Quoting.isPrintable (Char.ofNat n) then Char.ofNat n else '.') ++ ['<']
  cells.flatten ++ text

def dumpBlocks (types : List DumpType) (address : Nat → Octets) (perBlock : Nat) (all : Bool) :
    Nat → Option (List Nat) → Bool → List (List Nat) → Octets
  | _, _, _, [] => []
  | place, before, skipped, block :: rest =>
    let next (skipped : Bool) : Octets :=
      dumpBlocks types address perBlock all (place + block.length) (some block) skipped rest
    if !all && before == some block && block.length = perBlock then
      (if skipped then [] else ['*', '\n']) ++ next true
    else
      let widest := types.foldl (fun w t => max w (perBlock / t.size * (t.width + 1))) 0
      let lines := types.zipIdx.flatMap fun (t, n) =>
        let front := address place
        (if n = 0 then front else List.replicate front.length ' ') ++
          t.row widest perBlock block ++ ['\n']
      lines ++ next false

def olderTypes : List (String × DumpType) := [
  ("a", ⟨.names, 1, false⟩), ("b", ⟨.octal, 1, false⟩), ("c", ⟨.characters, 1, false⟩),
  ("d", ⟨.unsigned, 2, false⟩), ("i", ⟨.signed, 4, false⟩), ("l", ⟨.signed, 8, false⟩),
  ("o", ⟨.octal, 2, false⟩), ("s", ⟨.signed, 2, false⟩), ("x", ⟨.hexadecimal, 2, false⟩),
  ("h", ⟨.hexadecimal, 2, false⟩), ("H", ⟨.hexadecimal, 4, false⟩), ("X", ⟨.hexadecimal, 4, false⟩),
  ("B", ⟨.octal, 2, false⟩), ("D", ⟨.unsigned, 4, false⟩), ("I", ⟨.signed, 8, false⟩),
  ("L", ⟨.signed, 8, false⟩), ("O", ⟨.octal, 4, false⟩)]

/-- Writes the bytes of files as numbers or characters. -/
def od (i : Invocation) : Outcome :=
  let known := [value 'A' "address-radix", value 'j' "skip-bytes", value 'N' "read-bytes",
    value 't' "format", flag 'v' "output-duplicates", ⟨some 'w', some "width", .joined⟩] ++
    olderTypes.map fun t => ⟨t.1.toList.head?, none, .none⟩
  i.withOptions known 1 fun a =>
    let types : Except Octets (List DumpType) := do
      let found ← a.options.mapM fun (key, text) =>
        if key == "t" then dumpTypes text (text.length + 1) text
        else .ok (olderTypes.lookup key).toList
      pure (if found.flatten.isEmpty then [⟨.octal, 2, false⟩] else found.flatten)
    let counted (key : String) : Except Octets (Option Nat) :=
      match a.value? key with
      | none => .ok none
      | some text => match sized? text with
        | some n => .ok (some n)
        | none => .error ("invalid -".toList ++ key.toList ++ " argument ".toList ++
          Quoting.plain text)
    match types, counted "j", counted "N" with
    | .error text, _, _ | _, .error text, _ | _, _, .error text => i.fail 1 text
    | .ok types, .ok skip, .ok limit =>
      let o := i.overOperands a.operands (fun _ text => text) Invocation.fileFault
      let skip := skip.getD 0
      let bytes := (o.out.drop skip).map Char.toNat
      let bytes := match limit with
        | some n => bytes.take n
        | none => bytes
      let unit := types.foldl (fun n t => max n t.size) 1
      let perBlock := match a.value? "w" with
        | some [] => 32
        | some text => natural text
        | none => 16 / unit * unit
      let radix := (a.value? "A").getD ['o']
      let address (n : Nat) : Octets :=
        let filled (width base : Nat) : Octets :=
          let digits := Nat.toDigits base n
          List.replicate (width - digits.length) '0' ++ digits
        match radix with
        | 'n' :: _ => []
        | 'd' :: _ => filled 7 10
        | 'x' :: _ => filled 6 16
        | _ => filled 7 8
      if o.out.length < skip then
        { i.fail 1 "cannot skip past end of combined input".toList with consumed := o.consumed }
      else
        let blocks := Digest.pieces perBlock (bytes.length + 1) bytes
        let last := if radix.head? == some 'n' then [] else address (skip + bytes.length) ++ ['\n']
        { o with out := dumpBlocks types address perBlock (a.has "v") skip none false blocks ++ last }

/-! ### Bases -/

/-- A way to write bytes with fewer signs. -/
structure Base where
  alphabet : Octets
  bits : Nat
  bytes : Nat
  signs : Nat

def base64Alphabet : Base where
  alphabet := "ABCDEFGHIJKLMNOPQRSTUVWXYZabcdefghijklmnopqrstuvwxyz0123456789+/".toList
  bits := 6
  bytes := 3
  signs := 4

def base32Alphabet : Base where
  alphabet := "ABCDEFGHIJKLMNOPQRSTUVWXYZ234567".toList
  bits := 5
  bytes := 5
  signs := 8

def basesByName : List (String × Base) := [
  ("base64", base64Alphabet),
  ("base64url", { base64Alphabet with alphabet := base64Alphabet.alphabet.map fun c =>
    if c = '+' then '-' else if c = '/' then '_' else c }),
  ("base32", base32Alphabet),
  ("base32hex", { base32Alphabet with alphabet := "0123456789ABCDEFGHIJKLMNOPQRSTUV".toList }),
  ("base16", ⟨"0123456789ABCDEF".toList, 4, 1, 2⟩), ("base2msbf", ⟨['0', '1'], 1, 1, 8⟩)]

namespace Base

def encodeGroup (b : Base) (group : List Nat) : Octets :=
  let n := Digest.wordOf (group ++ List.replicate (b.bytes - group.length) 0)
  let used := (8 * group.length + b.bits - 1) / b.bits
  let all := (List.range b.signs).map fun k =>
    b.alphabet[n / Nat.pow 2 (b.bits * (b.signs - 1 - k)) % Nat.pow 2 b.bits]?.getD '='
  all.take used ++ List.replicate (b.signs - used) '='

def decodeGroup (b : Base) (group : Octets) : List Nat × Bool :=
  let own := group.takeWhile (· != '=')
  let places := own.filterMap fun c => b.alphabet.idxOf? c
  let n := (places ++ List.replicate (b.signs - places.length) 0).foldl
    (fun n p => n * Nat.pow 2 b.bits + p) 0
  let count := b.bits * places.length / 8
  let bytes := (List.range b.bytes).map fun k => n / Nat.pow 256 (b.bytes - 1 - k) % 256
  let rest := group.drop own.length
  let fits := (8 * count + b.bits - 1) / b.bits = places.length
  (bytes.take count, group.length = b.signs && rest.all (· == '=') && fits && 0 < count)

/-- The bytes that signs stand for, up to the first group that is none. -/
def decode (b : Base) : List Octets → List Nat × Bool
  | [] => ([], true)
  | group :: rest =>
    let (bytes, whole) := b.decodeGroup group
    if !whole then (bytes, false)
    else
      let (more, ok) := decode b rest
      (bytes ++ more, ok)

def options : List ProgramOption := [
  flag 'd' "decode", flag 'i' "ignore-garbage", value 'w' "wrap"]

def convert (b : Base) (i : Invocation) (a : Arguments) : Outcome :=
  match a.operands with
  | _ :: extra :: _ => i.extraOperand 1 extra
  | operands =>
    let width := (a.value? "w").getD "76".toList
    if !width.all Char.isDigit || width.isEmpty then
      i.fail 1 ("invalid wrap size: ".toList ++ Quoting.plain width)
    else
      let operand := operands.head?.getD ['-']
      match i.content operand with
      | .error e =>
        i.fail 1 (if operand == ['-'] || e == "Is a directory" then "read error: ".toList ++ e.toList
          else Invocation.fileFault operand e)
      | .ok text =>
        let consumed := if i.isInput operand then i.wholeInput else none
        if a.has "d" then
          let garbage (c : Char) : Bool := a.has "i" && !b.alphabet.contains c && c != '='
          let signs := text.filter fun c => c != '\n' && !garbage c
          let stop := (signs.span fun c => b.alphabet.contains c || c == '=').1
          let (bytes, ok) := b.decode (Digest.pieces b.signs (stop.length + 1) stop)
          let ok := ok && stop.length = signs.length
          { out := bytes.map Char.ofNat, consumed
            err := if ok then [] else i.complaint "invalid input".toList
            status := if ok then 0 else 1 }
        else
          let groups := Digest.pieces b.bytes (text.length + 1) (text.map Char.toNat)
          let signs := groups.flatMap b.encodeGroup
          let width := natural width
          { out := if width = 0 then signs
              else unlines (Digest.pieces width (signs.length + 1) signs)
            consumed }

def program (b : Base) (i : Invocation) : Outcome :=
  i.withOptions options 1 (b.convert i)

end Base

def basenc (i : Invocation) : Outcome :=
  let names := basesByName.map Prod.fst
  i.withOptions (Base.options ++ ProgramOption.names .none names) 1 fun a =>
    match (a.lastOf? names).bind fun n => basesByName.lookup n with
    | some b => b.convert i a
    | none => i.misuse 1 "missing encoding type".toList

def dumps : List (String × Program) := [
  ("od", od), ("base64", base64Alphabet.program), ("base32", base32Alphabet.program),
  ("basenc", basenc)]

end MediaPipeline.Program
