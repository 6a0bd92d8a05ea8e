import MediaPipeline.Program.Columns
import MediaPipeline.Program.Ranking

/-!
Two sorted files side by side. One program tells the lines that both have from those that only one
has, the other joins the lines that have a field in common. Both watch the order of the lines: from
the start where they are asked to, else from the first line on that has no partner.
-/

namespace MediaPipeline.Program.Pairing

open Shell (Quoting.plain)
open ProgramOption (flag value)

/-! ### Common lines -/

def mergeLines : Nat → List Octets → List Octets → List (Nat × Octets)
  | 0, _, _ => []
  | _, [], ys => ys.map fun y => (2, y)
  | _, xs, [] => xs.map fun x => (1, x)
  | fuel + 1, x :: xs, y :: ys =>
    match compareTexts x y with
    | .lt => (1, x) :: mergeLines fuel xs (y :: ys)
    | .gt => (2, y) :: mergeLines fuel (x :: xs) ys
    | .eq => (3, x) :: mergeLines fuel xs ys

/-- The row in which it is found out that the lines of a file are not in order. Two lines are compared
when the second is read, right behind the row of the first, and the last two once more at the end. -/
def disorderRow (strict : Bool) (rows : List (Nat × Octets)) (file : Nat) : Option Nat :=
  let numbered := rows.zipIdx
  let lone := (numbered.find? fun r => r.1.1 != 3).map Prod.snd
  let watched (row : Nat) : Bool := strict || lone.any (· ≤ row)
  let own := numbered.filter fun r => r.1.1 == file || r.1.1 == 3
  let steps := own.zip (own.drop 1)
  let last := steps.length - 1
  (steps.zipIdx.filterMap fun ((x, y), n) =>
    if compareTexts x.1.2 y.1.2 != .gt then none
    else if watched x.2 then some x.2
    else if n = last && watched y.2 then some y.2
    else none).head?

def comm (i : Invocation) : Outcome :=
  let known := ProgramOption.letters "123" ++ [flag 'z' "zero-terminated"] ++
    ProgramOption.names .none ["check-order", "nocheck-order", "total"] ++
    ProgramOption.names .needed ["output-delimiter"]
  i.withOptions known 1 fun a =>
    let separators := (a.options.filter fun o => o.1 == "output-delimiter").map Prod.snd
    match a.operands with
    | [] => i.missingOperand 1
    | [f] => i.misuse 1 ("missing operand after ".toList ++ Quoting.plain f)
    | [f, g] =>
      if separators.any fun s => some s != separators.head? then
        i.fail 1 "multiple output delimiters specified".toList
      else match i.content f, i.content g with
      | .error e, _ => i.fail 1 (Invocation.fileFault f e)
      | _, .error e => i.fail 1 (Invocation.fileFault g e)
      | .ok x, .ok y =>
        let ending := if a.has "z" then '\x00' else '\n'
        let (xs, ys) := (records ending x, records ending y)
        let separator := match separators.head? with
          | some [] => ['\x00']
          | some s => s
          | none => ['\t']
        let front (column : Nat) : Octets :=
          ((([1, 2] : List Nat).filter fun n => n < column && !a.has (toString n)).map fun _ =>
            separator).flatten
        let rows := mergeLines (xs.length + ys.length + 1) xs ys
        let strict := a.lastOf? ["check-order", "nocheck-order"] == some "check-order"
        let lax := a.lastOf? ["check-order", "nocheck-order"] == some "nocheck-order"
        let faults := if lax then [] else
          (([1, 2] : List Nat).filterMap fun n => (disorderRow strict rows n).map fun row => (row, n))
            |>.mergeSort fun p q => p.1 ≤ q.1
        let fault (n : Nat) : Octets :=
          i.complaint ("file ".toList ++ Octets.ofNat n ++ " is not in sorted order".toList)
        let list (rows : List (Nat × Octets)) : Octets :=
          (rows.filter fun r => !a.has (toString r.1)).flatMap fun (n, l) => front n ++ l ++ [ending]
        let consumed := if i.isInput f || i.isInput g then i.wholeInput else none
        match strict, faults with
        | true, (row, n) :: _ =>
          { out := list (rows.take (row + 1)), err := fault n, status := 1, consumed }
        | _, _ =>
          let count (n : Nat) : Octets := Octets.ofNat (rows.filter fun r => r.1 == n).length
          let total := if !a.has "total" then [] else
            joinOctets separator [count 1, count 2, count 3, "total".toList] ++ [ending]
          { out := list rows ++ total
            err := (faults.flatMap fun p => fault p.2) ++ (if faults.isEmpty then []
              else i.complaint "input is not in sorted order".toList)
            status := if faults.isEmpty then 0 else 1
            consumed }
    | _ :: _ :: extra :: _ => i.extraOperand 1 extra

/-! ### Fields in common -/

def fieldsOf (separator : Option Char) (line : Octets) : List Octets :=
  match separator, line with
  | _, [] => []
  | some '\n', l => [l]
  | some c, l => l.splitOn c
  | none, l =>
    let blank (c : Char) : Bool := c == ' ' || c == '\t' || c == '\n'
    let inner := l.dropWhile blank
    if inner.isEmpty then []
    else
      let fields := (inner.map fun c => if blank c then ' ' else c).splitOn ' '
      fields.filter (· != []) ++ (if inner.getLast?.any blank then [[]] else [])

def keyOrder (fold : Bool) (x y : Octets) : Ordering :=
  let f (t : Octets) : Octets := if fold then t.map Char.toUpper else t
  compareOfLessAndEq (f x) (f y)

abbrev Row := List Octets

/-- Lines that are taken together: some of each file with the same key, or one without a partner. -/
structure Step where
  left : List Row
  right : List Row

namespace Step

def isLone (s : Step) : Bool :=
  s.left.isEmpty || s.right.isEmpty

def pairs (s : Step) : List (Option Row × Option Row) :=
  match s.left, s.right with
  | left, [] => left.map fun l => (some l, none)
  | [], right => right.map fun r => (none, some r)
  | left, right => left.flatMap fun l => right.map fun r => (some l, some r)

/-- Takes the lines of two sorted files together until one of them has ended; what is left of them comes
behind. -/
def list (key₁ key₂ : Row → Octets) (fold : Bool) :
    Nat → List Row → List Row → List Step × List Row × List Row
  | 0, left, right | _, left@([]), right | _, left, right@([]) => ([], left, right)
  | fuel + 1, l :: left, r :: right =>
    let later (step : Step) (left right : List Row) : List Step × List Row × List Row :=
      let (steps, rest) := list key₁ key₂ fold fuel left right
      (step :: steps, rest)
    match keyOrder fold (key₁ l) (key₂ r) with
    | .lt => later ⟨[l], []⟩ left (r :: right)
    | .gt => later ⟨[], [r]⟩ (l :: left) right
    | .eq =>
      let same₁ := l :: left.takeWhile fun x => keyOrder fold (key₁ x) (key₁ l) == .eq
      let same₂ := r :: right.takeWhile fun x => keyOrder fold (key₂ x) (key₁ l) == .eq
      later ⟨same₁, same₂⟩ (left.drop (same₁.length - 1)) (right.drop (same₂.length - 1))

end Step

/-- A line that comes before its place: in which file, its number from zero, and how many steps have been
taken when it is read. -/
structure Misplaced where
  second : Bool
  number : Nat
  step : Nat

/-- The lines that come before their places, in the order in which they are read. A line is read when the
one before it has been dealt with, and it is looked at if everything is or if some line before this step
had no partner. The next arguments say for each file which lines are greater than the line behind them. -/
def misplaced (strict : Bool) (watching : Bool) (step at₁ at₂ : Nat) (falls₁ falls₂ : List Bool) :
    List Step → List Misplaced
  | [] => []
  | s :: rest =>
    let watching := watching || strict
    let (n₁, n₂) := (s.left.length, s.right.length)
    let found (second : Bool) (start : Nat) (falls : List Bool) : List Misplaced :=
      if !watching then []
      else falls.zipIdx.filterMap fun p =>
        if p.1 then some ⟨second, start + p.2 + 1, step⟩ else none
    found false at₁ (falls₁.take n₁) ++ found true at₂ (falls₂.take n₂) ++
      misplaced strict (watching || s.isLone) (step + 1) (at₁ + n₁) (at₂ + n₂)
        (falls₁.drop n₁) (falls₂.drop n₂) rest

inductive JoinField where
  | key
  | ofFile (second : Bool) (n : Nat)

structure JoinRules where
  first : Option Nat := none
  second : Option Nat := none
  separator : Option Char := none
  filler : Option Octets := none
  unpaired₁ : Bool := false
  unpaired₂ : Bool := false
  paired : Bool := true
  format : List JoinField := []
  auto : Bool := false

def joinFieldNumber (text : Octets) : Except Octets Nat :=
  if text.isEmpty || !text.all Char.isDigit || natural text = 0 then
    .error ("invalid field number: ".toList ++ Quoting.plain text)
  else .ok (natural text - 1)

def joinField (text : Octets) : Except Octets JoinField :=
  let bad (what : String) : Except Octets JoinField := .error (what.toList ++ Quoting.plain text)
  match text with
  | ['0'] => .ok .key
  | c :: rest =>
    if c == '0' then bad "invalid field specifier: "
    else if c == '1' || c == '2' then
      match rest with
      | '.' :: n => (joinFieldNumber n).map (JoinField.ofFile (c == '2'))
      | _ => bad "invalid field specifier: "
    else bad "invalid file number in field spec: "
  | [] => bad "invalid file number in field spec: "

def JoinRules.with (r : JoinRules) (option : String × Octets) : Except Octets JoinRules :=
  let (key, text) := option
  let agree (old : Option Nat) (n : Nat) : Except Octets (Option Nat) :=
    match old with
    | some m => if m = n then .ok (some n) else
      .error ("incompatible join fields ".toList ++ Octets.ofNat m ++ ", ".toList ++ Octets.ofNat n)
    | none => .ok (some n)
  match key with
  | "a" | "v" =>
    let r := if key == "v" then { r with paired := false } else r
    match text with
    | ['1'] => .ok { r with unpaired₁ := true }
    | ['2'] => .ok { r with unpaired₂ := true }
    | _ => .error ("invalid field number: ".toList ++ Quoting.plain text)
  | "1" => do
    let n ← joinFieldNumber text
    return { r with first := ← agree r.first n }
  | "2" => do
    let n ← joinFieldNumber text
    return { r with second := ← agree r.second n }
  | "j" => do
    let n ← joinFieldNumber text
    return { r with first := ← agree r.first n, second := ← agree r.second n }
  | "e" =>
    if r.filler.any (· != text) then
      .error "conflicting empty-field replacement strings".toList
    else .ok { r with filler := some text }
  | "t" =>
    let found : Except Octets Char := match text with
      | [] => .ok '\n'
      | [c] => .ok c
      | ['\\', '0'] => .ok '\x00'
      | _ => .error ("multi-character tab ".toList ++ Quoting.plain text)
    match found with
    | .error e => .error e
    | .ok c =>
      if r.separator.any (· != c) then .error "incompatible tabs".toList
      else .ok { r with separator := some c }
  | "o" =>
    if text == "auto".toList then .ok { r with auto := true }
    else
      let items := ((text.splitOn ',').flatMap fun t => t.splitOn ' ').flatMap fun t => t.splitOn '\t'
      (items.mapM joinField).map fun fields => { r with format := r.format ++ fields }
  | _ => .ok r

/-- Arguments with the words of an output format put together that stand one behind another, and with the
number of a field put to the option for one file that stands before it. The number says how many operands
there are more than two. -/
def gathered : Nat → List Octets → List Octets
  | n + 1, ['-', 'o'] :: fields :: next :: rest =>
    if next.head? == some '-' then ['-', 'o'] :: fields :: gathered (n + 1) (next :: rest)
    else gathered n (['-', 'o'] :: (fields ++ ',' :: next) :: rest)
  | n + 1, ['-', 'j', file] :: field :: rest =>
    if "12".toList.contains file && field.head? != some '-' then
      ['-', file] :: field :: gathered n rest
    else ['-', 'j', file] :: gathered (n + 1) (field :: rest)
  | _ + 1, [] => []
  | n + 1, w :: rest => w :: gathered (n + 1) rest
  | 0, words => words
termination_by n words => (words.length, n)

def JoinRules.fields (r : JoinRules) (format : List JoinField) (p : Option Row × Option Row) : Row :=
  let (n₁, n₂) := (r.first.getD 0, r.second.getD 0)
  let filled (t : Octets) : Octets := if t.isEmpty then r.filler.getD [] else t
  let field (n : Nat) (l : Row) : Octets := filled (l[n]?.getD [])
  let others (n : Nat) (l : Row) : Row := (l.eraseIdx n).map filled
  if format.isEmpty then
    match p with
    | (some l, some x) => field n₁ l :: others n₁ l ++ others n₂ x
    | (some l, none) => field n₁ l :: others n₁ l
    | (none, some x) => field n₂ x :: others n₂ x
    | (none, none) => []
  else format.map fun w =>
    match w with
    | .key =>
      match p with
      | (some l, _) => field n₁ l
      | (none, some x) => field n₂ x
      | (none, none) => filled []
    | .ofFile false n => field n (p.1.getD [])
    | .ofFile true n => field n (p.2.getD [])

def JoinRules.shows (r : JoinRules) : Option Row × Option Row → Bool
  | (some _, some _) => r.paired
  | (some _, none) => r.unpaired₁
  | (none, some _) => r.unpaired₂
  | (none, none) => false

inductive Watch where
  | strict
  | usual
  | off
  deriving DecidableEq

def firstMisplaced (watch : Watch) (steps ends : List Step) (falls₁ falls₂ : List Bool) :
    List Misplaced :=
  let taken (part : Step → List Row) : Nat := (steps.flatMap part).length
  let (done₁, done₂) := (taken Step.left, taken Step.right)
  let watching := watch == .strict || steps.any Step.isLone
  let late := if !watching then [] else
    misplaced true true steps.length done₁ done₂ (falls₁.drop done₁) (falls₂.drop done₂) ends
  let found := if watch == .off then [] else
    misplaced (watch == .strict) false 0 0 0 falls₁ falls₂ steps ++ late
  match found with
  | [] => []
  | m :: rest => m :: (rest.find? fun o => o.second != m.second).toList

/-- What joining two files gives: the output, and the lines that are told of as out of order. -/
def JoinRules.joined (r : JoinRules) (watch : Watch) (fold headed : Bool) (ending : Char)
    (left right : List Row) : Octets × List Misplaced :=
  let (n₁, n₂) := (r.first.getD 0, r.second.getD 0)
  let key (n : Nat) (l : Row) : Octets := l[n]?.getD []
  let heads : List (Option Row × Option Row) :=
    if !headed || (left.isEmpty && right.isEmpty) then []
    else [(some (left.head?.getD []), some (right.head?.getD []))]
  let (rows₁, rows₂) := if headed then (left.tail, right.tail) else (left, right)
  let (steps, tail₁, tail₂) :=
    Step.list (key n₁) (key n₂) fold (rows₁.length + rows₂.length + 1) rows₁ rows₂
  let ends : List Step := (tail₁.map fun l => Step.mk [l] []) ++ tail₂.map fun x => Step.mk [] [x]
  let allBut (second : Bool) (n count : Nat) : List JoinField :=
    ((List.range count).filter (· != n)).map (JoinField.ofFile second)
  let width (ls : List Row) : Nat := (ls.head?.map List.length).getD 0
  let format : List JoinField := if !r.auto || !r.format.isEmpty then r.format else
    JoinField.key :: allBut false n₁ (width left) ++ allBut true n₂ (width right)
  let falls (n : Nat) (ls : List Row) : List Bool :=
    (ls.zip ls.tail).map fun p => keyOrder fold (key n p.1) (key n p.2) == .gt
  let found := firstMisplaced watch steps ends (falls n₁ rows₁) (falls n₂ rows₂)
  let shown (steps : List Step) : Octets :=
    (heads ++ (steps.flatMap Step.pairs).filter r.shows).flatMap fun p =>
      joinOctets [r.separator.getD ' '] (r.fields format p) ++ [ending]
  match watch, found with
  | .strict, m :: _ =>
    let lone := (steps ++ ends)[m.step]?.any Step.isLone
    (shown ((steps ++ ends).take (if lone then m.step + 1 else m.step)), [m])
  | _, _ => (shown (steps ++ ends), found)

def join (i : Invocation) : Outcome :=
  let known := [⟨some 'a', none, .needed⟩, ⟨some 'e', none, .needed⟩, ⟨some 'i', some "ignore-case",
    .none⟩, ⟨some 'j', none, .needed⟩, ⟨some 'o', none, .needed⟩, ⟨some 't', none, .needed⟩,
    ⟨some 'v', none, .needed⟩, ⟨some '1', none, .needed⟩, ⟨some '2', none, .needed⟩,
    flag 'z' "zero-terminated"] ++
    ProgramOption.names .none ["check-order", "nocheck-order", "header"]
  let surplus := match Arguments.ofList known false i.arguments with
    | .ok a => a.operands.length - 2
    | .error _ => 0
  { i with arguments := gathered surplus i.arguments }.withOptions known 1 fun a =>
    let rules : Except Octets JoinRules := a.options.foldlM JoinRules.with {}
    match rules, a.operands with
    | .error e, _ => i.fail 1 e
    | .ok _, [] => i.missingOperand 1
    | .ok _, [_] =>
      i.misuse 1 ("missing operand after ".toList ++ Quoting.plain (i.arguments.getLast?.getD []))
    | .ok _, _ :: _ :: extra :: _ =>
      i.misuse 1 ("extra operand ".toList ++ Shell.Quoting.always extra)
    | .ok rules, [f, g] =>
      if f == ['-'] && g == ['-'] then i.fail 1 "both files cannot be standard input".toList
      else match i.content f, i.content g with
      | .error e, _ => i.fail 1 (Invocation.fileFault f e)
      | _, .error e => i.fail 1 (Invocation.fileFault g e)
      | .ok x, .ok y =>
        let ending := if a.has "z" then '\x00' else '\n'
        let watch : Watch := match a.lastOf? ["check-order", "nocheck-order"] with
          | some "check-order" => Watch.strict
          | some _ => .off
          | none => .usual
        let headed := a.has "header"
        let rowsOf (text : Octets) : List Row :=
          (records ending text).map (fieldsOf rules.separator)
        let (out, found) := rules.joined watch (a.has "i") headed ending (rowsOf x) (rowsOf y)
        let complaintOf (m : Misplaced) : Octets :=
          let (name, text) := if m.second then (g, y) else (f, x)
          let number := if headed then m.number + 1 else m.number
          i.complaint (name ++ ':' :: Octets.ofNat (number + 1) ++ ": is not sorted: ".toList ++
            (records ending text)[number]?.getD [])
        { out
          err := found.flatMap complaintOf ++ (if found.isEmpty || watch == Watch.strict then [] else
            i.complaint "input is not in sorted order".toList)
          status := if found.isEmpty then 0 else 1
          consumed := if i.isInput f || i.isInput g then i.wholeInput else none }

end MediaPipeline.Program.Pairing
