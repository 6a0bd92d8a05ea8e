import MediaPipeline.Program.Invocation

/-!
Programs that copy lines: all of them, the first, the last, turned around, folded; and one that counts
them.
-/

namespace MediaPipeline.Program

open ProgramOption (flag value)

/-! ### Copying -/

/-- Blank, tab, line feed, vertical tab, form feed and carriage return. -/
def isSpaceOctet (c : Char) : Bool :=
  c == ' ' || (9 ≤ c.toNat && c.toNat ≤ 13)

def visible (c : Char) : Octets :=
  let low (n : Nat) : Octets :=
    if n < 32 then ['^', Char.ofNat (n + 64)]
    else if n = 127 then ['^', '?']
    else [Char.ofNat n]
  if c = '\n' ∨ c = '\t' then [c]
  else if c.toNat < 128 then low c.toNat
  else 'M' :: '-' :: low (c.toNat - 128)

def squeezeBlank : List Octets → List Octets
  | a :: b :: rest =>
    if a = ['\n'] ∧ b = ['\n'] then squeezeBlank (b :: rest) else a :: squeezeBlank (b :: rest)
  | lines => lines

def numberLines (filled : Bool) : Nat → List Octets → List Octets
  | _, [] => []
  | n, l :: rest =>
    if filled && l == ['\n'] then l :: numberLines filled n rest
    else (padLeft 6 (Octets.ofNat n) ++ '\t' :: l) :: numberLines filled (n + 1) rest

/-- Copies files one after another, with numbered lines and visible characters if asked to. -/
def cat (i : Invocation) : Outcome :=
  let known := [
    flag 'b' "number-nonblank", flag 'n' "number", flag 's' "squeeze-blank",
    flag 'v' "show-nonprinting", flag 'E' "show-ends", flag 'T' "show-tabs", flag 'A' "show-all"] ++
    ProgramOption.letters "etu"
  i.withOptions known 1 fun a =>
    let asked (letters : String) : Bool := letters.toList.any fun c => a.has (String.ofList [c])
    let isOutput (operand : Octets) : Bool := match i.outputPlace with
      | some (place, position) =>
        if operand == ['-'] then i.inputPlace.any fun p => p.1 == place && p.2 < position
        else match i.files.resolve operand true with
          | .ok (own, some (.document _)) => own == place && 0 < position
          | _ => false
      | none => false
    let own := if a.operands.isEmpty then [['-']] else a.operands
    let refused := own.filter isOutput
    let o := i.overOperands (own.filter fun f => !isOutput f) (fun _ text => text)
      Invocation.fileFault
    let o := if refused.isEmpty then o
      else if refused.length = own.length then
        { err := refused.flatMap fun f => i.complaint (f ++ ": input file is output file".toList),
          status := 1 }
      else
        let more := refused.flatMap fun f => i.complaint (f ++ ": input file is output file".toList)
        { o with err := o.err ++ more, status := 1 }
    let whole := own.takeWhile fun f => (i.content f).isOk
    let o := { o with early := (whole.map fun f => match i.content f with
      | .ok t => t.length
      | .error _ => 0).foldl (· + ·) 0 }
    let o := if i.input matches .error "Bad file descriptor" && o.consumed.isSome then
      { o with err := o.err ++ i.complaint "closing standard input: Bad file descriptor".toList }
      else o
    let spell (c : Char) : Octets :=
      if c = '\n' ∧ asked "AeE" then ['$', '\n']
      else if c = '\t' ∧ asked "AtT" then ['^', 'I']
      else if asked "Aetv" then visible c
      else [c]
    let lines := linesOf o.out
    let lines := if asked "s" then squeezeBlank lines else lines
    let lines := if asked "bn" then numberLines (asked "b") 1 lines else lines
    if a.options.isEmpty then o else { o with out := lines.flatten.flatMap spell }

/-! ### First and last lines -/

def sizeFactor? (suffix : Octets) : Option Nat :=
  match String.ofList suffix with
  | "" => some 1
  | "b" => some 512
  | "kB" | "KB" => some 1000
  | "k" | "K" | "KiB" => some 1024
  | "MB" => some 1000000
  | "M" | "MiB" => some 1048576
  | "GB" => some 1000000000
  | "G" | "GiB" => some 1073741824
  | _ => none

def sized? (text : Octets) : Option Nat :=
  let digits := text.takeWhile Char.isDigit
  if digits.isEmpty then none
  else (sizeFactor? (text.drop digits.length)).map (natural digits * ·)

structure Share where
  bytes : Bool := false
  count : Nat := 10
  far : Bool := false

/-- The share that the options ask for; with `mark` in front of a count it is counted from the other
end. -/
def Share.ofOptions (mark : Char) (a : Arguments) : Except Octets Share :=
  match a.options.reverse.find? fun o => o.1 == "n" || o.1 == "c" with
  | none => .ok {}
  | some (key, text) =>
    let bytes := key == "c"
    let far := text.head? == some mark
    let digits := if far || (mark == '+' && text.head? == some '-') then text.tail else text
    match sized? digits with
    | some count => .ok { bytes, count, far }
    | none =>
      let what := if bytes then "invalid number of bytes: " else "invalid number of lines: "
      .error (what.toList ++ Shell.Quoting.plain digits)

/-- Writes the shares of files, with the name above each where there are several. With `exact` the
input is left where the share ends. -/
def shares (i : Invocation) (a : Arguments) (exact : Bool) (part : List Octets → List Octets)
    (s : Share) : Outcome :=
  let zero := a.has "z"
  let operands := if a.operands.isEmpty then [['-']] else a.operands
  let several := match a.lastOf? ["q", "v"] with
    | some "q" => false
    | some _ => true
    | none => operands.length > 1
  let shown (f : Octets) : Octets := if f == ['-'] then "standard input".toList else f
  let pieces (text : Octets) : List Octets :=
    if s.bytes then text.map fun c => [c]
    else if zero then ((text.splitOn '\x00').dropLast.map fun l => l ++ ['\x00']) ++
      (((text.splitOn '\x00').getLast?).toList.filter fun l => !l.isEmpty)
    else linesOf text
  operands.foldl (fun o f =>
    let title (text : Octets) : Octets :=
      if !several then text
      else (if o.out.isEmpty then [] else ['\n']) ++ "==> ".toList ++ shown f ++ " <==\n".toList ++
        text
    match i.content f with
    | .ok text =>
      let kept := (part (pieces text)).flatten
      let seen := if exact && !s.far then some kept.length else i.wholeInput
      let consumed := if i.isInput f then seen else o.consumed
      { o with out := o.out ++ title kept, consumed, block := if s.bytes then 1 else o.block }
    | .error e =>
      let unreadable := f == ['-'] || e == "Is a directory"
      let text :=
        if unreadable then "error reading ".toList ++ Shell.Quoting.always (shown f) ++
          ": ".toList ++ e.toList
        else "cannot open ".toList ++ Shell.Quoting.always f ++ " for reading: ".toList ++ e.toList
      { o with err := o.err ++ i.complaint text, status := 1,
               out := o.out ++ if unreadable && several then title [] else [],
               consumed := if i.isInput f then i.wholeInput else o.consumed }) {}

def shareOptions : List ProgramOption := [
  value 'n' "lines", value 'c' "bytes", ⟨some 'q', some "quiet", .none⟩,
  ⟨some 'q', some "silent", .none⟩, flag 'v' "verbose", flag 'z' "zero-terminated"]

/-- Arguments in which a count stands behind a hyphen, or another sign, alone. -/
def spelledCount (signs : List Char) : List Octets → List Octets
  | (c :: d :: rest) :: more =>
    if signs.contains c && d.isDigit then
      ['-', 'n'] :: ((if c == '+' then ['+'] else []) ++ d :: rest) :: more
    else (c :: d :: rest) :: more
  | args => args

def head (i : Invocation) : Outcome :=
  let i := { i with arguments := spelledCount ['-'] i.arguments }
  i.withOptions shareOptions 1 fun a =>
    match Share.ofOptions '-' a with
    | .error text => i.fail 1 text
    | .ok s => shares i a true (fun ps =>
        if s.far then ps.take (ps.length - s.count) else ps.take s.count) s

def tail (i : Invocation) : Outcome :=
  let i := { i with arguments := spelledCount ['-', '+'] i.arguments }
  let known := shareOptions ++ [⟨some 'F', none, .none⟩, ⟨some 'f', some "follow", .joined⟩,
    value 's' "sleep-interval"] ++ ProgramOption.names .none ["retry"] ++
    ProgramOption.names .needed ["pid", "max-unchanged-stats"]
  i.withOptions known 1 fun a =>
    match Share.ofOptions '+' a with
    | .error text => i.fail 1 text
    | .ok s => shares i a false (fun ps =>
        if s.far then ps.drop (s.count - 1) else ps.drop (ps.length - s.count)) s

/-! ### Counting -/

/-- Number of words between white space; characters that are not seen make no word. -/
def wordCount (text : List Char) : Nat :=
  (text.foldl (fun (n, inside) c =>
    if Letter.isSpace c || [0xA0, 0x2007, 0x202F, 0x2060].contains c.toNat then (n, false)
    else if inside || !Letter.isPrintable c then (n, inside)
    else (n + 1, true))
    ((0, false) : Nat × Bool)).1

def widestLine (text : List Char) : Nat :=
  (text.foldl (fun (best, column) c =>
    if c == '\n' || c == '\r' || c == '\x0c' then (max best column, 0)
    else if c == '\t' then (max best (column / 8 * 8 + 8), column / 8 * 8 + 8)
    else (max best (column + Letter.width c), column + Letter.width c)) ((0, 0) : Nat × Nat)).1

def wc (i : Invocation) : Outcome :=
  let known := [flag 'l' "lines", flag 'w' "words", flag 'c' "bytes", flag 'm' "chars",
    flag 'L' "max-line-length"] ++ ProgramOption.names .needed ["files0-from"]
  i.withOptions known 1 fun a =>
    let asked := (["l", "w", "m", "c", "L"] : List String).filter a.has
    let columns := if asked.isEmpty then ["l", "w", "c"] else asked
    let count (text : Octets) (column : String) : Nat :=
      match column with
      | "l" => text.count '\n'
      | "w" => wordCount text.characters
      | "L" => widestLine text.characters
      | "m" => (text.characters.filter fun c => !Octets.isStray c).length
      | _ => text.length
    let counts (text : Octets) : List Nat := columns.map (count text)
    let operands := if a.operands.isEmpty then [['-']] else a.operands
    let texts := operands.map fun f => (f, i.content f)
    let readable := texts.filterMap fun t => t.2.toOption
    let totals := columns.zipIdx.map fun (column, n) =>
      let each := readable.map fun t => (counts t)[n]?.getD 0
      if column == "L" then each.foldl max 0 else each.foldl (· + ·) 0
    let plain (f : Octets) : Bool :=
      if i.isInput f then i.fromFile
      else match i.files.find f with
        | .ok (.document _) | .error _ => true
        | _ => false
    let size := (readable.map List.length).foldl (· + ·) 0
    let width :=
      if columns.length = 1 && operands.length = 1 then 1
      else if operands.all plain then (Octets.ofNat size).length
      else max 7 (Octets.ofNat size).length
    let row (ns : List Nat) (name : Octets) : Octets :=
      let numbers := ns.map fun n => padLeft width (Octets.ofNat n)
      (numbers.intersperse [' ']).flatten ++ (if name.isEmpty then [] else ' ' :: name) ++ ['\n']
    let shown (f : Octets) : Octets := if a.operands.isEmpty then [] else f
    let o : Outcome := texts.foldl (fun o (f, t) =>
      let o := if i.isInput f then { o with consumed := i.wholeInput } else o
      match t with
      | .ok t => { o with out := o.out ++ row (counts t) (shown f) }
      | .error e =>
        let name := if f == ['-'] then "'standard input'".toList else Shell.Quoting.asNeeded f
        let empty := if e == "Is a directory" then row (counts []) (shown f) else []
        { o with err := o.err ++ i.complaint (name ++ ": ".toList ++ e.toList), status := 1,
                 out := o.out ++ empty }) {}
    if operands.length > 1 then { o with out := o.out ++ row totals "total".toList } else o

/-! ### Other orders and shapes -/

def tac (i : Invocation) : Outcome :=
  let known := [flag 'b' "before", flag 'r' "regex", value 's' "separator"]
  i.withOptions known 1 fun a =>
    i.overOperands a.operands (fun _ text => (linesOf text).reverse.flatten) fun f e =>
      if e == "Is a directory" then Shell.Quoting.asNeeded f ++ ": read error: ".toList ++ e.toList
      else "failed to open ".toList ++ Shell.Quoting.always f ++ " for reading: ".toList ++ e.toList

def rev (i : Invocation) : Outcome :=
  i.overOperands i.arguments (fun _ text =>
    Octets.ofCharacters ((linesOf text.characters).flatMap fun l =>
      if l.getLast? == some '\n' then l.dropLast.reverse ++ ['\n'] else l.reverse)) fun f e =>
      "cannot open ".toList ++ f ++ ": ".toList ++ e.toList

def foldLine (width : Nat) (atBlanks : Bool) : Nat → Octets → Octets
  | 0, l => l
  | fuel + 1, l =>
    if l.length ≤ width then l
    else
      let piece := l.take width
      let blank := piece.reverse.findIdx fun c => c == ' ' || c == '\t'
      let cut := if atBlanks && blank < width then width - blank else width
      l.take cut ++ '\n' :: foldLine width atBlanks fuel (l.drop cut)

def fold (i : Invocation) : Outcome :=
  let known := [flag 'b' "bytes", flag 's' "spaces", value 'w' "width"]
  let arguments := i.arguments.map fun
    | '-' :: c :: rest => if c.isDigit then '-' :: 'w' :: c :: rest else '-' :: c :: rest
    | arg => arg
  { i with arguments }.withOptions known 1 fun a =>
    let given := (a.value? "w").getD "80".toList
    let bad := given.isEmpty || !given.all Char.isDigit
    if bad then
      i.fail 1 ("invalid number of columns: ".toList ++ Shell.Quoting.plain given)
    else if natural given = 0 then
      i.fail 1 ("invalid number of columns: ".toList ++ Shell.Quoting.plain given ++
        ": Numerical result out of range".toList)
    else
      i.overOperands a.operands (fun _ text => (linesOf text).flatMap fun (l : Octets) =>
        let bare : Octets := if l.getLast? == some '\n' then l.dropLast else l
        foldLine (natural given) (a.has "s") bare.length bare ++
          if l.getLast? == some '\n' then ['\n'] else []) Invocation.fileFault

end MediaPipeline.Program
