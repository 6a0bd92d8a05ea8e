import MediaPipeline.Program.Ranking

/-!
Programs that order lines and compare them: by their text, by numbers in them, or by keys.
-/

namespace MediaPipeline.Program

open ProgramOption (flag value)

/-! ### Keys -/

structure KeyOrder where
  /-- Blanks in front of where the key begins do not count. -/
  skips : Bool := false
  skipsAtEnd : Bool := false
  dictionary : Bool := false
  printable : Bool := false
  anyCase : Bool := false
  general : Bool := false
  human : Bool := false
  month : Bool := false
  numeric : Bool := false
  random : Bool := false
  reverse : Bool := false
  version : Bool := false

/-- The order that letters ask for, those behind the beginning of a key and those behind its end. Of the
two letters that leave characters out the last one counts. -/
def KeyOrder.ofLetters (front behind : Octets) : KeyOrder :=
  let letters := front ++ behind
  let leaving := letters.reverse.find? fun c => c == 'd' || c == 'i'
  { skips := front.contains 'b', skipsAtEnd := behind.contains 'b'
    dictionary := leaving == some 'd', printable := leaving == some 'i'
    anyCase := letters.contains 'f', general := letters.contains 'g'
    human := letters.contains 'h', month := letters.contains 'M'
    numeric := letters.contains 'n', random := letters.contains 'R'
    reverse := letters.contains 'r', version := letters.contains 'V' }

def KeyOrder.conflict? (o : KeyOrder) : Option Octets :=
  let ways := [o.numeric, o.general, o.human, o.month,
    o.version || o.random || o.dictionary || o.printable]
  if (ways.filter id).length < 2 then none
  else
    let marks := [(o.dictionary, 'd'), (o.anyCase, 'f'), (o.general, 'g'), (o.human, 'h'),
      (o.printable, 'i'), (o.month, 'M'), (o.numeric, 'n'), (o.random, 'R'), (o.version, 'V')]
    some ((marks.filter Prod.fst).map Prod.snd)

/-- A key: fields and characters, counted from one; a last character of zero is the end of the
field. Without an order of its own it has that of the whole sort. -/
structure SortKey where
  field : Nat
  char : Nat
  last : Option (Nat × Nat)
  order : Option KeyOrder

def KeyOrder.compare (o : KeyOrder) (a b : Octets) : Ordering :=
  let shape (t : Octets) : Octets :=
    let t := if o.dictionary then t.filter fun c => c.isAlphanum || c == ' ' || c == '\t'
      else if o.printable then t.filter fun c => 32 ≤ c.toNat && c.toNat < 127
      else t
    if o.anyCase then t.map Char.toUpper else t
  let result :=
    if o.numeric then Ord.compare (scaledNumber a) (scaledNumber b)
    else if o.general then compareGeneral a b
    else if o.human then
      (Ord.compare (humanRank a) (humanRank b)).then
        (Ord.compare (scaledNumber a) (scaledNumber b))
    else if o.month then Ord.compare (monthNumber a) (monthNumber b)
    else if o.version then compareVersions (shape a) (shape b)
    else compareTexts (shape a) (shape b)
  if o.reverse then result.swap else result

def fieldBounds (separator : Option Char) (line : Octets) : List (Nat × Nat) :=
  match separator with
  | some c =>
    let pieces := line.splitOn c
    (pieces.foldl (fun (done, start) p =>
      ((start, start + p.length) :: done, start + p.length + 1))
      (([] : List (Nat × Nat)), 0)).1.reverse
  | none =>
    let rec go (start position : Nat) (inside : Bool) : Octets → List (Nat × Nat)
      | [] => [(start, position)]
      | c :: rest =>
        let blank := c == ' ' || c == '\t'
        if blank && inside then (start, position) :: go position (position + 1) false rest
        else go start (position + 1) (inside || !blank) rest
    go 0 0 false line

def SortKey.part (k : SortKey) (separator : Option Char) (order : KeyOrder) (line : Octets) :
    Octets :=
  let bounds := fieldBounds separator line
  let skip (asked : Bool) (position : Nat) : Nat :=
    if asked then
      position + ((line.drop position).takeWhile fun c => c == ' ' || c == '\t').length
    else position
  let start := match bounds[k.field - 1]? with
    | some (s, _) => skip order.skips s + (k.char - 1)
    | none => line.length
  let finish := match k.last with
    | none => line.length
    | some (field, char) =>
      match bounds[field - 1]? with
      | some (s, e) => if char = 0 then e else skip order.skipsAtEnd s + char
      | none => line.length
  (line.take finish).drop start

def keyPosition (text : Octets) : Except Octets (Nat × Option Nat × Octets) :=
  let field := text.takeWhile Char.isDigit
  let rest := text.drop field.length
  if field.isEmpty then .error text
  else match rest with
    | '.' :: rest =>
      let char := rest.takeWhile Char.isDigit
      if char.isEmpty then .error rest
      else .ok (natural field, some (natural char), rest.drop char.length)
    | rest => .ok (natural field, none, rest)

def SortKey.ofText (text : Octets) : Except Octets SortKey := do
  let quoted (t : Octets) : Octets := Shell.Quoting.plain t
  let badStart (what : String) (rest : Octets) : Octets :=
    ("invalid number " ++ what ++ ": invalid count at start of ").toList ++ quoted rest
  let isLetter (c : Char) : Bool := "bdfgiMhnRrV".toList.contains c
  let (field, char, rest) ← (keyPosition text).mapError (badStart "at field start")
  if field = 0 then
    throw ("field number is zero: invalid field specification ".toList ++ quoted text)
  if char == some 0 then
    throw ("character offset is zero: invalid field specification ".toList ++ quoted text)
  let letters := rest.takeWhile isLetter
  let order (front behind : Octets) : Option KeyOrder :=
    if front.isEmpty && behind.isEmpty then none else some (.ofLetters front behind)
  match rest.drop letters.length with
  | [] => pure ⟨field, char.getD 1, none, order letters []⟩
  | ',' :: behind => do
    let (lastField, lastChar, rest) ← (keyPosition behind).mapError (badStart "after ','")
    if lastField = 0 then
      throw ("field number is zero: invalid field specification ".toList ++ quoted text)
    let more := rest.takeWhile isLetter
    if more.length < rest.length then
      throw ("stray character in field spec: invalid field specification ".toList ++ quoted text)
    pure ⟨field, char.getD 1, some (lastField, lastChar.getD 0), order letters more⟩
  | _ => throw ("stray character in field spec: invalid field specification ".toList ++ quoted text)

/-! ### Sorting -/

def sortOptions : List ProgramOption := [
  flag 'b' "ignore-leading-blanks", flag 'd' "dictionary-order", flag 'f' "ignore-case",
  flag 'g' "general-numeric-sort", flag 'i' "ignore-nonprinting", flag 'M' "month-sort",
  flag 'h' "human-numeric-sort", flag 'n' "numeric-sort", flag 'R' "random-sort",
  flag 'r' "reverse", flag 'V' "version-sort", flag 'C' "check-silent", value 'k' "key",
  ⟨some 'c', some "check", .joined⟩, flag 'm' "merge", value 'o' "output", flag 's' "stable",
  value 'S' "buffer-size", value 't' "field-separator", value 'T' "temporary-directory",
  flag 'u' "unique", flag 'z' "zero-terminated"] ++
  ProgramOption.names .needed ["sort", "parallel", "files0-from", "batch-size",
    "compress-program", "random-source"] ++ ProgramOption.names .none ["debug"]

def sortCompare (common : KeyOrder) (keys : List SortKey) (separator : Option Char)
    (wholeLine : Bool) (x y : Octets) : Ordering :=
  let byKey (k : SortKey) : Ordering :=
    let order := k.order.getD common
    let part (l : Octets) : Octets := k.part separator order l
    order.compare (part x) (part y)
  let first :=
    if keys.isEmpty then
      let part (l : Octets) : Octets :=
        if common.skips then l.dropWhile fun c => c == ' ' || c == '\t' else l
      common.compare (part x) (part y)
    else keys.foldl (fun o k => o.then (byKey k)) .eq
  let last := if wholeLine then compareTexts x y else .eq
  first.then (if common.reverse then last.swap else last)

/-- Takes the least of the first lines of several texts, as long as there is one; of lines that come in
no order, that of the text in front. -/
def mergeTexts (ordering : Octets → Octets → Ordering) : Nat → List (List Octets) → List Octets
  | 0, _ => []
  | fuel + 1, texts =>
    let texts := texts.filter (!·.isEmpty)
    match texts.filterMap List.head? with
    | [] => []
    | first :: others =>
      let least := others.foldl (fun best l => if ordering l best == .lt then l else best) first
      let n := texts.findIdx fun t => t.head?.any fun l => ordering l least == .eq
      least :: mergeTexts ordering fuel (texts.modify n List.tail)

def sortFault (checking : Bool) (f : Octets) (e : String) : Octets :=
  let shown := Shell.Quoting.asNeeded f
  if e == "Is a directory" then "read failed: ".toList ++ shown ++ ": ".toList ++ e.toList
  else if f == ['-'] then "stat failed: -: ".toList ++ e.toList
  else (if checking then "open failed: " else "cannot read: ").toList ++ shown ++
    ": ".toList ++ e.toList

def checkSorted (i : Invocation) (a : Arguments) (o : Outcome) (ls : List Octets)
    (ordering : Octets → Octets → Ordering) : Outcome :=
  let wrong (x y : Octets) : Bool :=
    ordering x y == .gt || (a.has "u" && ordering x y == .eq)
  match (ls.zip (ls.drop 1)).findIdx? fun (x, y) => wrong x y with
  | none => { o with out := [] }
  | some n =>
    let name := a.operands.head?.getD ['-']
    let text := name ++ ':' :: Octets.ofNat (n + 2) ++ ": disorder: ".toList ++ (ls[n + 1]?).getD []
    let quiet := (a.lastOf? ["c", "C"]).any (· == "C") ||
      a.value? "c" == some "quiet".toList || a.value? "c" == some "silent".toList
    { o with out := [], err := if quiet then [] else i.complaint text, status := 1 }

def sort (i : Invocation) : Outcome :=
  i.withOptions sortOptions 2 fun a =>
    let keys := (a.options.filter (·.1 == "k")).mapM fun o => SortKey.ofText o.2
    let separator : Except Octets (Option Char) := match a.value? "t" with
      | none => .ok none
      | some [c] => .ok (some c)
      | some ['\\', '0'] => .ok (some '\x00')
      | some [] => .error "empty tab".toList
      | some t => .error ("multi-character tab ".toList ++ Shell.Quoting.plain t)
    match keys, separator with
    | .error text, _ | _, .error text => i.fail 2 text
    | .ok keys, .ok separator =>
      let named : List (String × Char) := [("general-numeric", 'g'), ("human-numeric", 'h'),
        ("month", 'M'), ("numeric", 'n'), ("random", 'R'), ("version", 'V')]
      let letters := ("bdfghiMnRrV".toList.filter fun c => a.has (String.ofList [c])) ++
        ((a.value? "sort").bind fun t => named.lookup (String.ofList t)).toList
      let common := KeyOrder.ofLetters letters (letters.filter (· == 'b'))
      let orders := if keys.isEmpty then [common] else keys.map fun k => k.order.getD common
      let checking := a.has "c" || a.has "C"
      match orders.findSome? KeyOrder.conflict?, checking, a.operands with
      | some letters, _, _ => i.fail 2 ("options '-".toList ++ letters ++ "' are incompatible".toList)
      | none, true, _ :: extra :: _ =>
        i.fail 2 ("extra operand ".toList ++ Shell.Quoting.plain extra ++ " not allowed with -".toList ++
          (if a.has "c" then ['c'] else ['C']))
      | none, _, _ =>
        let mark := if a.has "z" then '\x00' else '\n'
        let split (text : Octets) : List Octets :=
          let pieces := text.splitOn mark
          if pieces.getLast? == some [] then pieces.dropLast else pieces
        let join (ls : List Octets) : Octets := ls.flatMap fun l => l ++ [mark]
        let o := i.overOperands a.operands (fun _ text => join (split text)) (sortFault checking)
        let unique := a.has "u"
        let ordering := sortCompare common keys separator (!unique && !a.has "s")
        if o.status != 0 then
          { o with out := [], status := 2, err := (linesOf o.err).head?.getD [] }
        else if checking then checkSorted i a o (split o.out) ordering
        else
          let sorted := if a.has "m" then
              let operands := if a.operands.isEmpty then [['-']] else a.operands
              let texts := operands.map fun f => split ((i.content f).toOption.getD [])
              mergeTexts ordering (o.out.length + 1) texts
            else (split o.out).mergeSort fun x y => ordering x y != .gt
          let kept :=
            if unique then (sorted.splitBy fun x y => ordering x y == .eq).filterMap List.head?
            else sorted
          match a.value? "o" with
          | none => { o with out := join kept }
          | some path =>
            match i.files.resolve path true with
            | .ok (place, none) | .ok (place, some (.document _)) =>
              { o with out := [], files := some (i.files.write place (join kept) 0o644) }
            | .ok (_, some (.device _)) => { o with out := [] }
            | .ok (_, some _) =>
              { i.fail 2 ("open failed: ".toList ++ Shell.Quoting.asNeeded path ++
                  ": Is a directory".toList) with consumed := o.consumed }
            | .error f =>
              { i.fail 2 ("open failed: ".toList ++ Shell.Quoting.asNeeded path ++ ": ".toList ++
                  f.message.toList) with consumed := o.consumed }

end MediaPipeline.Program
