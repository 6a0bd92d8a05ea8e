import MediaPipeline.Program.Digest

/-!
Programs that write the digests of files, and that compare files with digests written before.
-/

namespace MediaPipeline.Program.Checksum

open Shell.Quoting (plain asNeeded)
open ProgramOption (flag value)

/-- A kind of digest, with a name and the number of its digits. -/
structure Kind where
  tag : String
  width : Nat
  digest : List Nat → Octets

def Kind.of (k : Kind) (text : Octets) : Octets :=
  k.digest (text.map Char.toNat)

/-- The kind whose digests have a number of bytes. -/
def blakeKind (size : Nat) : Kind where
  tag := if size = 64 then "BLAKE2b" else "BLAKE2b-" ++ toString (8 * size)
  width := 2 * size
  digest := Digest.blake size

def kinds : List (String × Kind) := [
  ("md5", ⟨"MD5", 32, Digest.md5⟩), ("sha1", ⟨"SHA1", 40, Digest.sha1⟩),
  ("sha224", ⟨"SHA224", 56, Digest.sha224Of⟩), ("sha256", ⟨"SHA256", 64, Digest.sha256Of⟩),
  ("sha384", ⟨"SHA384", 96, Digest.sha384Of⟩), ("sha512", ⟨"SHA512", 128, Digest.sha512Of⟩),
  ("blake2b", blakeKind 64)]

/-! ### Lists of digests -/

def isHex (c : Char) : Bool :=
  c.isDigit || ('a' ≤ c.toLower && c.toLower ≤ 'f')

def isBlank (c : Char) : Bool :=
  c == ' ' || c == '\t'

def unescaped? : Octets → Option Octets
  | '\\' :: 'n' :: rest => (unescaped? rest).map ('\n' :: ·)
  | '\\' :: 'r' :: rest => (unescaped? rest).map ('\r' :: ·)
  | '\\' :: '\\' :: rest => (unescaped? rest).map ('\\' :: ·)
  | '\\' :: _ => none
  | c :: rest => (unescaped? rest).map (c :: ·)
  | [] => some []

/-- A name as it stands in a list, and whether it has to be escaped. -/
def escaped (name : Octets) : Octets × Bool :=
  let one (c : Char) : Octets := match c with
    | '\n' => ['\\', 'n']
    | '\r' => ['\\', 'r']
    | '\\' => ['\\', '\\']
    | c => [c]
  let text := name.flatMap one
  (text, text.length != name.length)

structure Entry where
  kind : Kind
  digest : Octets
  name : Octets

def tagged? (known : List Kind) (line : Octets) : Option (Kind × Octets) :=
  let fits := known.filter fun k => k.tag.toList.isPrefixOf line
  match fits with
  | [] => none
  | k :: _ =>
    let rest := line.drop k.tag.length
    match k.tag, rest with
    | "BLAKE2b", '-' :: rest =>
      let digits := rest.takeWhile Char.isDigit
      let bits := natural digits
      if bits % 8 = 0 && 0 < bits && bits ≤ 512 then
        some (blakeKind (bits / 8), rest.drop digits.length)
      else none
    | _, rest => some (k, rest)

/-- What a line of a list says, where only some kinds are meant; one of them stands for lines that
name none. -/
def Entry.ofLine? (known : List Kind) (untagged : Option Kind) (line : Octets) : Option Entry := do
  let line := line.dropWhile isBlank
  let (escapes, line) := match line with
    | '\\' :: rest => (true, rest)
    | rest => (false, rest)
  let name? (text : Octets) : Option Octets := if escapes then unescaped? text else some text
  match tagged? known line with
  | some (kind, rest) =>
    let rest := if rest.head? == some ' ' then rest.tail else rest
    if rest.head? != some '(' then none
    else
      let back := rest.tail.reverse
      let behind := (back.takeWhile (· != ')')).reverse
      let name := (back.drop (behind.length + 1)).reverse
      let value := behind.dropWhile isBlank
      if back.length = behind.length || value.head? != some '=' then none
      else
        let digest := value.tail.dropWhile isBlank
        if digest.length = kind.width && digest.all isHex then
          return ⟨kind, digest.map Char.toLower, ← name? name⟩
        else none
  | none =>
    let own := line.takeWhile isHex
    let rest := line.drop own.length
    let kind ← untagged
    let kind := if kind.tag == "BLAKE2b" && own.length % 2 = 0 && 0 < own.length && own.length ≤ 128
      then blakeKind (own.length / 2) else kind
    if own.length != kind.width || !rest.head?.any isBlank then none
    else match rest.tail with
      | [] => none
      | c :: name =>
        let name := if (c == ' ' || c == '*') && !name.isEmpty then name else c :: name
        return ⟨kind, own.map Char.toLower, ← name? name⟩

structure Tally where
  out : Octets := []
  err : Octets := []
  proper : Nat := 0
  improper : Nat := 0
  unread : Nat := 0
  different : Nat := 0
  matching : Nat := 0

/-- Compares the file of a line with its digest. -/
def Tally.add (i : Invocation) (a : Arguments) (list : Octets) (found : Option Entry) (n : Nat)
    (general : String) (t : Tally) : Tally :=
  let loud := a.lastOf? ["w", "quiet", "status"]
  let tell (name : Octets) (result : String) : Octets :=
    let (text, escapes) := escaped name
    if loud == some "status" then []
    else (if escapes then ['\\'] else []) ++ text ++ ": ".toList ++ result.toList ++ ['\n']
  match found with
  | none =>
    let warning := if loud != some "w" then []
      else i.complaint (list ++ ": ".toList ++ Octets.ofNat n ++ ": improperly formatted ".toList ++
        general.toList ++ " checksum line".toList)
    { t with improper := t.improper + 1, err := t.err ++ warning }
  | some e =>
    let t := { t with proper := t.proper + 1 }
    match i.content e.name with
    | .error f =>
      if a.has "ignore-missing" && f == "No such file or directory" then t
      else
        { t with
          unread := t.unread + 1, out := t.out ++ tell e.name "FAILED open or read"
          err := t.err ++ i.complaint (Invocation.fileFault e.name f) }
    | .ok text =>
      if e.kind.of text == e.digest then
        { t with
          matching := t.matching + 1
          out := t.out ++ if loud == some "quiet" then [] else tell e.name "OK" }
      else { t with different := t.different + 1, out := t.out ++ tell e.name "FAILED" }

def check (i : Invocation) (a : Arguments) (known : List Kind) (untagged : Option Kind)
    (general : String) : Outcome :=
  (if a.operands.isEmpty then [['-']] else a.operands).foldl (fun o operand =>
    match i.content operand with
    | .error e => { o with err := o.err ++ i.complaint (Invocation.fileFault operand e), status := 1 }
    | .ok text =>
      let list := if operand == ['-'] then "'standard input'".toList else asNeeded operand
      let t := (bareLines text).zipIdx.foldl (fun (t : Tally) (l, n) =>
        let l := if l.getLast? == some '\r' then l.dropLast else l
        if l.isEmpty || l.head? == some '#' then t
        else t.add i a list (Entry.ofLine? known untagged l) (n + 1) general) {}
      let warning (n : Nat) (one many : String) : Octets :=
        if n = 0 then [] else i.complaint ("WARNING: ".toList ++ Octets.ofNat n ++
          (if n = 1 then one else many).toList)
      let summary :=
        if t.proper = 0 then
          i.complaint (list ++ ": no properly formatted checksum lines found".toList)
        else if a.lastOf? ["w", "quiet", "status"] == some "status" then []
        else
          warning t.improper " line is improperly formatted" " lines are improperly formatted" ++
          warning t.unread " listed file could not be read" " listed files could not be read" ++
          warning t.different " computed checksum did NOT match" " computed checksums did NOT match" ++
          (if a.has "ignore-missing" && t.matching = 0
            then i.complaint (list ++ ": no file was verified".toList) else [])
      let good := 0 < t.matching && t.different = 0 && t.unread = 0 &&
        !(a.has "strict" && 0 < t.improper)
      { o with
        out := o.out ++ t.out, err := o.err ++ t.err ++ summary
        status := if good then o.status else 1
        consumed := if i.isInput operand then i.wholeInput else o.consumed }) {}

/-! ### Programs -/

def Kind.line (k : Kind) (a : Arguments) (tags : Bool) (name text : Octets) : Octets :=
  let ending := if a.has "z" then ['\x00'] else ['\n']
  let (shown, escapes) := if a.has "z" then (name, false) else escaped name
  let own := k.of text
  (if escapes then ['\\'] else []) ++
    (if tags then k.tag.toList ++ " (".toList ++ shown ++ ") = ".toList ++ own
    else own ++ ' ' :: (if a.lastOf? ["b", "t"] == some "b" then '*' else ' ') :: shown) ++ ending

def misuse? (a : Arguments) (tags : Bool) : Option String :=
  let checks := a.has "c"
  let only (key name : String) : Option String :=
    if a.has key && !checks then
      some ("the --" ++ name ++ " option is meaningful only when verifying checksums")
    else none
  if tags && a.lastOf? ["b", "t"] == some "t" then some "--tag does not support --text mode"
  else if checks && a.has "z" then
    some "the --zero option is not supported when verifying checksums"
  else if checks && tags then some "the --tag option is meaningless when verifying checksums"
  else if checks && (a.has "b" || a.has "t") then
    some "the --binary and --text options are meaningless when verifying checksums"
  else
    (only "ignore-missing" "ignore-missing").or <| (only "status" "status").or <|
      (only "w" "warn").or <| (only "quiet" "quiet").or (only "strict" "strict")

def options : List ProgramOption := [
  flag 'b' "binary", flag 'c' "check", flag 't' "text", flag 'w' "warn", flag 'z' "zero"] ++
  ProgramOption.names .none ["tag", "quiet", "status", "strict", "ignore-missing"]

def sizeOf (a : Arguments) : Except (List Octets) (Option Nat) :=
  match a.value? "l" with
  | none => .ok none
  | some text =>
    let bad := "invalid length: ".toList ++ plain text
    let bits := natural text
    if text.isEmpty || !text.all Char.isDigit then .error [bad]
    else if 512 < bits then
      .error [bad, "maximum digest length for ".toList ++ plain "BLAKE2b".toList ++
        " is 512 bits".toList]
    else if bits % 8 != 0 then .error [bad, "length is not a multiple of 8".toList]
    else .ok (if bits = 0 then none else some (bits / 8))

def program (algorithm : String) (i : Invocation) : Outcome :=
  let sized := algorithm == "blake2b"
  let known := if sized then value 'l' "length" :: options else options
  i.withOptions known 1 fun a =>
    match sizeOf a with
    | .error texts => { err := texts.flatMap i.complaint, status := 1 }
    | .ok size =>
      let usual := (kinds.lookup algorithm).getD (blakeKind 64)
      let kind := match size with
        | some n => blakeKind n
        | none => usual
      match misuse? a (a.has "tag") with
      | some text => i.misuse 1 text.toList
      | none =>
        if a.has "c" then check i a [usual] (some usual) usual.tag
        else i.overOperands a.operands (kind.line a (a.has "tag")) Invocation.fileFault

/-- A sum of a file with its size in blocks. -/
def summed (folded : Bool) (named : Bool) (ending : Octets) (f text : Octets) : Octets :=
  let bytes := text.map Char.toNat
  let unit := if folded then 512 else 1024
  let blocks := Octets.ofNat ((text.length + unit - 1) / unit)
  let digits := Octets.ofNat (if folded then Digest.foldedSum bytes else Digest.rotatingSum bytes)
  (if folded then digits ++ ' ' :: blocks
    else List.replicate (5 - digits.length) '0' ++ digits ++ ' ' :: padLeft 5 blocks) ++
    (if named then ' ' :: f else []) ++ ending

def sum (i : Invocation) : Outcome :=
  i.withOptions [⟨some 'r', none, .none⟩, flag 's' "sysv"] 1 fun a =>
    i.overOperands a.operands (summed (a.lastOf? ["r", "s"] == some "s") (!a.operands.isEmpty) ['\n'])
      Invocation.fileFault

/-- Writes a checksum of any kind for each file. -/
def cksum (i : Invocation) : Outcome :=
  let known := value 'a' "algorithm" :: value 'l' "length" :: options ++
    ProgramOption.names .none ["untagged", "debug"]
  let names := [["bsd"], ["sysv"], ["crc"]] ++ kinds.map (fun k => [k.1]) ++ [["sm3"]]
  i.withOptions known 1 fun a =>
    let chosen : Except Octets (Option String) := match a.value? "a" with
      | none => .ok none
      | some text => (i.choose text "algorithm" names).map fun n => (names[n]?).bind List.head?
    match chosen, sizeOf a with
    | .error text, _ => { err := text, status := 1 }
    | _, .error texts => { err := texts.flatMap i.complaint, status := 1 }
    | .ok algorithm, .ok size =>
      let simple := ["bsd", "sysv", "crc"].contains (algorithm.getD "crc")
      let tags := a.lastOf? ["untagged", "tag"] != some "untagged"
      if simple && algorithm.isSome && a.has "c" then
        i.fail 1 "--check is not supported with --algorithm=\x7bbsd,sysv,crc\x7d".toList
      else if size.isSome && algorithm != some "blake2b" then
        i.fail 1 "--length is only supported with --algorithm=blake2b".toList
      else match misuse? a (tags && a.has "tag") with
        | some text => i.misuse 1 text.toList
        | none =>
          let kind? := algorithm.bind fun n => kinds.lookup n
          if a.has "c" then
            check i a (kind?.elim (kinds.map Prod.snd) fun k => [k]) kind?
              ((kind?.map Kind.tag).getD "CRC")
          else
            let named := !a.operands.isEmpty
            let ending := if a.has "z" then ['\x00'] else ['\n']
            let line : Octets → Octets → Octets := match algorithm, kind? with
              | some "bsd", _ => summed false named ending
              | some "sysv", _ => summed true named ending
              | _, some k => (size.elim k blakeKind).line a tags
              | _, none => fun f text =>
                Octets.ofNat (Digest.checksum (text.map Char.toNat)).toNat ++ ' ' ::
                  Octets.ofNat text.length ++ (if named then ' ' :: f else []) ++ ending
            i.overOperands a.operands line Invocation.fileFault

def programs : List (String × Program) := [
  ("md5sum", program "md5"), ("sha1sum", program "sha1"), ("sha224sum", program "sha224"),
  ("sha256sum", program "sha256"), ("sha384sum", program "sha384"),
  ("sha512sum", program "sha512"), ("b2sum", program "blake2b"), ("cksum", cksum), ("sum", sum)]

end MediaPipeline.Program.Checksum
