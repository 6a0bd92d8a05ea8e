import MediaPipeline.Program.Lines

/-!
Filling lines. The words of a paragraph are put into lines so that the cost of all breaks together is
least: lines should be near a goal in length and near each other, and breaks stand best behind
sentences.
-/

namespace MediaPipeline.Program.Filling

open Shell.Quoting (plain always)
open ProgramOption (flag value)

/-! ### Words -/

structure Word where
  text : Octets
  /-- How many blanks follow where no line ends. -/
  space : Nat
  opens : Bool
  ends : Bool
  marked : Bool
  final : Bool

def Word.ofText (text : Octets) : Word :=
  let closing (c : Char) : Bool := ")]'\"".toList.contains c
  let last := (text.getLast?).getD ' '
  let core := ((text.drop 1).reverse.dropWhile closing).head?.or text.head?
  { text, space := 1, final := false
    opens := text.head?.any fun c => "(['\x60\"".toList.contains c
    marked := last.toNat < 128 && 32 < last.toNat && !last.isAlphanum && last.toNat != 127
    ends := core.any fun c => ".?!".toList.contains c }

/-! ### Costs -/

def square (n : Int) : Int := n * n

def baseCost (before : List Word) (w : Word) : Int :=
  let behind : Int := match before with
    | [] => 0
    | p :: more =>
      if p.ends then (if p.final then -square 50 else square 600)
      else if p.marked then -square 40
      else match more with
        | q :: _ => if q.final then square 200 / p.text.length else 0
        | [] => 0
  let own : Int := if w.opens then -square 40
    else if w.final then square 150 / w.text.length
    else 0
  square 70 + behind + own

def shortCost (n : Int) : Int := square (n * 10)

def raggedCost (n : Int) : Int := shortCost n / 2

/-- The best way to go on from a word: its cost, the word that begins the next line, and the length of
this one. -/
structure Choice where
  cost : Int := 0
  next : Nat
  length : Nat := 0

structure Measure where
  width : Nat
  goal : Nat

/-- The best line that begins with a word, among those that end with later and later words. -/
def best (m : Measure) (words : Array Word) (choices : Array Choice) (start : Nat) :
    Nat → Nat → Nat → Choice → Option Int → Choice
  | 0, _, _, found, _ => found
  | fuel + 1, w, length, found, least =>
    let count := words.size
    let here : Int :=
      if w = count then 0
      else match choices[w]? with
        | none => 0
        | some c =>
          shortCost ((m.goal : Int) - length) + c.cost +
            if c.next = count then 0 else raggedCost ((length : Int) - c.length)
    let better := least.all fun l => here < l
    let found := if better then { cost := here, next := w, length } else found
    let least := if better then some here else least
    if w = count then found
    else
      let longer := length + ((words[w - 1]?).map Word.space).getD 1 +
        ((words[w]?).map fun x => x.text.length).getD 0
      if longer < m.width then best m words choices start fuel (w + 1) longer found least else found

def breaks (m : Measure) (first other : Nat) (words : Array Word) : List (Nat × Nat) :=
  let count := words.size
  let blank : Array Choice := Array.replicate count { next := count }
  let choices := (List.range count).reverse.foldl (fun (choices : Array Choice) k =>
    match words[k]? with
    | none => choices
    | some w =>
      let indent := if k = 0 then first else other
      let found := best m words choices k (count + 1) (k + 1) (indent + w.text.length)
        { next := count } none
      let before := [k - 1, k - 2].take k |>.filterMap fun n => words[n]?
      choices.set! k { found with cost := found.cost + baseCost before w }) blank
  lines choices count (count + 1) 0
where
  lines (choices : Array Choice) (count : Nat) : Nat → Nat → List (Nat × Nat)
  | 0, _ => []
  | fuel + 1, k =>
    if count ≤ k then []
    else
      let next := ((choices[k]?).map Choice.next).getD count
      (k, next) :: lines choices count fuel next

/-! ### Paragraphs -/

structure Rules where
  measure : Measure := ⟨75, 70⟩
  crown : Bool := false
  /-- The second line has an indent of its own, which differs from that of the first. -/
  tagged : Bool := false
  splits : Bool := false
  /-- One blank stands between words and two between sentences. -/
  uniform : Bool := false
  /-- What begins the lines that are filled, without the blanks around it. -/
  lead : Octets := []
  leadSpace : Nat := 0
  leadLength : Nat := 0

/-- A text that is being read. The next character is not yet read, but it has been looked at. -/
structure Cursor where
  rest : Octets
  column : Nat := 0
  indent : Nat := 0
  tabs : Bool := false

namespace Cursor

def blanks (c : Cursor) : Cursor :=
  let run := c.rest.takeWhile fun x => x == ' ' || x == '\t'
  let column := run.foldl (fun n x => if x == ' ' then n + 1 else (n / 8 + 1) * 8) c.column
  { c with rest := c.rest.drop run.length, column, tabs := c.tabs || run.contains '\t' }

def lead (r : Rules) (c : Cursor) : Cursor :=
  let c := { c with column := 0 }.blanks
  if r.lead.isEmpty then { c with indent := min r.leadSpace c.column }
  else
    let shared := ((r.lead.zip c.rest).takeWhile fun (a, b) => a == b).length
    let c := { c with indent := c.column, rest := c.rest.drop shared, column := c.column + shared }
    if shared < r.lead.length then c else c.blanks

def atEnd (c : Cursor) : Bool :=
  c.rest.isEmpty || c.rest.head? == some '\n'

def line (r : Rules) : Nat → Cursor → List Word × Cursor
  | 0, c => ([], c)
  | fuel + 1, c =>
    let text := c.rest.take 1 ++ (c.rest.drop 1).takeWhile fun x => !isSpaceOctet x
    let behind := { c with rest := c.rest.drop text.length, column := c.column + text.length }
    let next := behind.blanks
    let w := Word.ofText text
    let space := next.column - behind.column
    let final := next.rest.isEmpty || w.ends && (next.rest.head? == some '\n' || 1 < space)
    let space := if next.atEnd || r.uniform then (if final then 2 else 1) else space
    let w := { w with space, final }
    if next.atEnd then ([w], lead r { next with rest := next.rest.drop 1 })
    else
      let (words, c) := line r fuel next
      (w :: words, c)

end Cursor

def spaces (tabs : Bool) (column space : Nat) : Octets × Nat :=
  let target := column + space
  let stop := target / 8 * 8
  if tabs && column + 1 < stop then
    (List.replicate (stop / 8 - column / 8) '\t' ++ List.replicate (target - stop) ' ', target)
  else (List.replicate space ' ', target)

structure Indents where
  lead : Nat
  first : Nat
  other : Nat

def writeLine (r : Rules) (tabs : Bool) (lead indent : Nat) (words : List Word) : Octets :=
  let (a, column) := spaces tabs 0 lead
  let column := column + r.lead.length
  let (b, column) := spaces tabs column (indent - column)
  let (text, _) := words.zipIdx.foldl (fun ((text, column) : Octets × Nat) (w, n) =>
    let column := column + w.text.length
    if n + 1 = words.length then (text ++ w.text, column)
    else
      let (gap, column) := spaces tabs column w.space
      (text ++ w.text ++ gap, column)) (a ++ r.lead ++ b, column)
  text ++ ['\n']

def writeParagraph (r : Rules) (tabs : Bool) (i : Indents) (words : List Word) : Octets :=
  let marked := match words.reverse with
    | [] => []
    | w :: before => (({ w with ends := true, final := true } : Word) :: before).reverse
  (breaks r.measure i.first i.other marked.toArray).zipIdx.flatMap fun ((start, stop), n) =>
    writeLine r tabs i.lead (if n = 0 then i.first else i.other) ((marked.drop start).take (stop - start))

def copied (r : Rules) (c : Cursor) : Octets :=
  let rest := c.rest.takeWhile (· != '\n')
  let front : Octets :=
    if c.indent < c.column || !c.atEnd then
      let (a, column) := spaces c.tabs 0 c.indent
      let shared := r.lead.take (c.column - column)
      let column := column + shared.length
      let gap := if c.atEnd then [] else (spaces c.tabs column (c.column - column)).1
      let stop := if c.rest.isEmpty && c.indent + r.lead.length ≤ c.column then ['\n'] else []
      a ++ shared ++ gap ++ stop
    else []
  front ++ rest

def gather (r : Rules) (belongs : Cursor → Bool) : Nat → Cursor → List Word × Cursor
  | 0, c => ([], c)
  | fuel + 1, c =>
    if !belongs c then ([], c)
    else
      let (words, c) := c.line r (c.rest.length + 1)
      let (more, c) := gather r belongs fuel c
      (words ++ more, c)

/-- Fills paragraphs from one to the next; the second indent of the last one is kept. -/
def fill (r : Rules) : Nat → Nat → Nat → Cursor → Octets
  | 0, _, _, _ => []
  | fuel + 1, lead, other, c =>
    if c.atEnd || c.indent < lead || c.column < c.indent + r.leadLength then
      let text := copied r c
      match c.rest.dropWhile (· != '\n') with
      | [] => text
      | _ :: rest => text ++ '\n' :: fill r fuel lead other ({ c with rest }.lead r)
    else
      let lead := c.indent
      let first := c.column
      let (words, next) := c.line r (c.rest.length + 1)
      let same (c : Cursor) : Bool :=
        c.indent = lead && c.indent + r.leadLength ≤ c.column && !c.atEnd
      let other := if r.splits then first
        else if r.crown then (if same next then next.column else first)
        else if r.tagged then
          if same next && next.column != first then next.column
          else if other = first then (if first = 0 then 3 else 0)
          else other
        else first
      let goesOn := !r.splits && same next && (!r.tagged || r.crown || next.column != first)
      let (more, next) := if goesOn
        then gather r (fun c => same c && c.column = other) (next.rest.length + 1) next
        else ([], next)
      let text := writeParagraph r next.tabs ⟨lead, first, other⟩ (words ++ more)
      text ++ fill r fuel lead other next

/-! ### The program -/

def widthOf (high : Nat) (text : Octets) : Except Octets Nat :=
  let bad (more : String) : Except Octets Nat :=
    .error ("invalid width: ".toList ++ plain text ++ more.toList)
  if text.isEmpty || !text.all Char.isDigit then bad ""
  else if Nat.pow 2 64 ≤ natural text || (high < natural text && Nat.pow 2 30 ≤ natural text) then
    bad ": Value too large for defined data type"
  else if high < natural text then bad ": Numerical result out of range"
  else .ok (natural text)

def rulesOf (a : Arguments) : Except Octets Rules := do
  let width? ← (a.value? "w").mapM (widthOf 2500)
  let goal? ← (a.value? "g").mapM (widthOf (width?.getD 75))
  let width := width?.getD ((goal?.map (· + 10)).getD 75)
  let goal := goal?.getD (width * 187 / 200)
  let lead := (a.value? "p").getD []
  let bare := lead.dropWhile (· == ' ')
  pure {
    measure := ⟨width, goal⟩, crown := a.has "c", tagged := a.has "t", splits := a.has "s"
    uniform := a.has "u", lead := (bare.reverse.dropWhile (· == ' ')).reverse
    leadSpace := lead.length - bare.length, leadLength := bare.length }

def fmt (i : Invocation) : Outcome :=
  let known := [flag 'c' "crown-margin", value 'p' "prefix", flag 's' "split-only",
    flag 't' "tagged-paragraph", flag 'u' "uniform-spacing", value 'w' "width", value 'g' "goal"]
  let i := match i.arguments with
    | ('-' :: c :: cs) :: rest =>
      if c.isDigit then { i with arguments := ('-' :: 'w' :: c :: cs) :: rest } else i
    | _ => i
  i.withOptions known 1 fun a =>
    match rulesOf a with
    | .error text => i.fail 1 text
    | .ok r =>
      i.overOperands a.operands
        (fun _ text => fill r (2 * text.length + 2) 0 0 ({ rest := text : Cursor }.lead r))
        fun f fault => "cannot open ".toList ++ always f ++ " for reading: ".toList ++ fault.toList

end MediaPipeline.Program.Filling
