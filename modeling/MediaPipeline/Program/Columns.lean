import MediaPipeline.Program.Lines
import MediaPipeline.Shell.Script

/-!
Programs for the columns of lines: they cut parts out, put lines side by side, and set tabs.
-/

namespace MediaPipeline.Program

open Shell (Quoting.plain)
open ProgramOption (flag value)

def records (ending : Char) (text : Octets) : List Octets :=
  let pieces := text.splitOn ending
  if pieces.getLast? == some [] then pieces.dropLast else pieces

/-! ### Cutting -/

inductive CutUnit where
  | bytes
  | fields
  deriving DecidableEq

structure Span where
  first : Nat
  last : Option Nat

def Span.contains (s : Span) (n : Nat) : Bool :=
  s.first ≤ n && s.last.all fun l => n ≤ l

structure SpanDraft where
  /-- The number that is being read, with the text that begins with it. -/
  value : Nat := 0
  start : Octets := []
  initial : Nat := 1
  hasFirst : Bool := false
  hasLast : Bool := false
  dash : Bool := false

def CutUnit.complaint (kind : CutUnit) (bytes fields : String) : Octets :=
  (if kind = .bytes then bytes else fields).toList

def SpanDraft.span (d : SpanDraft) (kind : CutUnit) : Except Octets Span :=
  if d.dash then
    if !d.hasFirst && !d.hasLast then .error "invalid range with no endpoint: -".toList
    else if !d.hasLast then .ok ⟨d.initial, none⟩
    else if d.value < d.initial then .error "invalid decreasing range".toList
    else .ok ⟨d.initial, some d.value⟩
  else if d.value = 0 then
    .error (kind.complaint "byte/character positions are numbered from 1"
      "fields are numbered from 1")
  else .ok ⟨d.value, some d.value⟩

def spans (kind : CutUnit) (d : SpanDraft) : Octets → Except Octets (List Span)
  | [] => do return [← d.span kind]
  | c :: rest =>
    if c == '-' then
      if d.dash then
        .error (kind.complaint "invalid byte or character range" "invalid field range")
      else if d.hasFirst && d.value = 0 then
        .error (kind.complaint "byte/character positions are numbered from 1"
          "fields are numbered from 1")
      else spans kind { d with dash := true, value := 0, start := []
                               initial := if d.hasFirst then d.value else 1 } rest
    else if c == ',' || c == ' ' || c == '\t' then
      match d.span kind with
      | .error e => .error e
      | .ok s => (spans kind {} rest).map (s :: ·)
    else if c.isDigit then
      let value := 10 * d.value + (c.toNat - 48)
      let start := if d.start.isEmpty then c :: rest else d.start
      if 18446744073709551615 ≤ value then
        .error (kind.complaint "byte/character offset " "field number " ++
          Quoting.plain (start.takeWhile Char.isDigit) ++ " is too large".toList)
      else spans kind { d with value, start, hasFirst := d.hasFirst || !d.dash
                               hasLast := d.hasLast || d.dash } rest
    else
      .error (kind.complaint "invalid byte/character position " "invalid field value " ++
        Quoting.plain (c :: rest))

/-- The chosen ones of numbered parts, in runs that lie side by side. -/
def chosenRuns {α : Type} (chosen : Nat → Bool) (starts : Nat → Bool) :
    Nat → List α → List (List α)
  | _, [] => []
  | n, a :: rest =>
    if !chosen n then chosenRuns chosen starts (n + 1) rest
    else match chosenRuns chosen starts (n + 1) rest with
      | [] => [[a]]
      | run :: runs =>
        if chosen (n + 1) && !starts (n + 1) then (a :: run) :: runs else [a] :: run :: runs

/-- Cuts parts out of lines. -/
def cut (i : Invocation) : Outcome :=
  let known := [value 'b' "bytes", value 'c' "characters", value 'd' "delimiter", value 'f' "fields",
    flag 's' "only-delimited", flag 'z' "zero-terminated", ⟨some 'n', none, .none⟩] ++
    ProgramOption.names .none ["complement"] ++ ProgramOption.names .needed ["output-delimiter"]
  i.withOptions known 1 fun a =>
    let lists := a.options.filter fun o => ["b", "c", "f"].contains o.1
    let refuse (text : String) : Outcome := i.misuse 1 text.toList
    match lists with
    | [] =>
      refuse "you must specify a list of bytes, characters, or fields"
    | _ :: _ :: _ => refuse "only one list may be specified"
    | [(key, list)] =>
      let kind : CutUnit := if key == "f" then .fields else .bytes
      let separator := (a.value? "d").getD ['\t']
      if 1 < separator.length then refuse "the delimiter must be a single character"
      else if kind = .bytes && a.has "d" then
        refuse "an input delimiter may be specified only when operating on fields"
      else if kind = .bytes && a.has "s" then
        refuse ("suppressing non-delimited lines makes sense\n" ++
          "\tonly when operating on fields")
      else match spans kind {} list with
        | .error text => i.misuse 1 text
        | .ok spans =>
          let mark := separator.head?.getD '\x00'
          let ending := if a.has "z" then '\x00' else '\n'
          let chosen (n : Nat) : Bool := (spans.any fun s => s.contains n) != a.has "complement"
          let starts (n : Nat) : Bool :=
            !a.has "complement" && a.has "output-delimiter" && spans.any fun s =>
              s.first == n && !spans.any fun t => t.first < n && t.contains n
          let outer := (a.value? "output-delimiter").map fun t => if t.isEmpty then ['\x00'] else t
          let line (l : Octets) : Option Octets := match kind with
            | .bytes =>
              some (joinOctets (outer.getD []) (chosenRuns chosen starts 1 l))
            | .fields =>
              let fields := l.splitOn mark
              if fields.length = 1 then if a.has "s" then none else some l
              else
                let kept := (fields.zipIdx 1).filter fun f => chosen f.2
                some (joinOctets (outer.getD [mark]) (kept.map Prod.fst))
          i.overOperands a.operands
            (fun _ text =>
              /- Lines can be fields themselves. -/
              let whole := kind = .fields && mark == ending
              let rows := if !whole then records ending text
                else if text.isEmpty then []
                else [if text.getLast? == some ending then text.dropLast else text]
              rows.flatMap fun l => match line l with
              | some l => l ++ [ending]
              | none => [])
            Invocation.fileFault

/-! ### Side by side -/

def delimiters : Octets → Option (List Octets)
  | [] => some []
  | ['\\'] => none
  | '\\' :: c :: rest =>
    let d : Octets := match c with
      | '0' => []
      | 'b' => ['\x08']
      | 'f' => ['\x0c']
      | 'n' => ['\n']
      | 'r' => ['\r']
      | 't' => ['\t']
      | 'v' => ['\x0b']
      | c => [c]
    (delimiters rest).map (d :: ·)
  | c :: rest => (delimiters rest).map ([c] :: ·)

/-- Texts with delimiters between them, one after another. -/
def joinInTurn (ds : List Octets) : Nat → List Octets → Octets
  | _, [] => []
  | _, [t] => t
  | n, t :: rest => t ++ (ds[n % ds.length]?).getD [] ++ joinInTurn ds (n + 1) rest

/-- Rows of what several lists have left at their fronts; those that share a list take turns. -/
def rows (sources : List Nat) : Nat → List (List Octets) → List (List Octets)
  | 0, _ => []
  | fuel + 1, lists =>
    let (row, lists) := sources.foldl (fun (row, lists) s =>
      let own := lists[s]?.getD []
      (row ++ [own.head?], lists.set s own.tail))
      (([], lists) : List (Option Octets) × List (List Octets))
    if row.all Option.isNone then [] else row.map (·.getD []) :: rows sources fuel lists

/-- Puts the lines of files side by side. -/
def paste (i : Invocation) : Outcome :=
  let known := [value 'd' "delimiters", flag 's' "serial", flag 'z' "zero-terminated"]
  i.withOptions known 1 fun a =>
    let list := (a.value? "d").getD ['\t']
    let list := if list.isEmpty then ['\\', '0'] else list
    match delimiters list with
    | none => i.fail 1 ("delimiter list ends with an unescaped backslash: ".toList ++ list)
    | some ds =>
      let ending := if a.has "z" then '\x00' else '\n'
      let operands := if a.operands.isEmpty then [['-']] else a.operands
      let consumed := if operands.contains ['-'] then i.wholeInput else none
      if a.has "s" then
        let o := i.overOperands operands
          (fun _ text => joinInTurn ds 0 (records ending text) ++ [ending]) Invocation.fileFault
        if operands.count ['-'] < 2 then o else { o with consumed }
      else
        let bad := operands.filterMap fun f => match i.content f with
          | .ok _ => none
          | .error e => some (i.complaint (Invocation.fileFault f e))
        match bad with
        | text :: _ => { err := text, status := 1 }
        | [] =>
          let linesOf (f : Octets) : List Octets := records ending ((i.content f).toOption.getD [])
          let sources := operands.zipIdx.map fun (f, n) => if f == ['-'] then 0 else n + 1
          let all := linesOf ['-'] :: operands.map linesOf
          let longest := all.foldl (fun n l => max n l.length) 0
          { out := (rows sources (longest + 1) all).flatMap fun row =>
              joinInTurn ds 0 row ++ [ending]
            consumed }

/-! ### Tabs -/

/-- Where tabs stop: at some columns, and behind these at multiples of a number, or at multiples
counted from the last of them. -/
structure TabStops where
  columns : List Nat := []
  extend : Option Nat := none
  increment : Option Nat := none

inductive StopKind where
  | column
  | extend
  | increment

def TabStops.add (s : TabStops) (kind : StopKind) (n : Nat) : Except Octets TabStops :=
  let refuse (sign : String) : Except Octets TabStops :=
    .error ("'" ++ sign ++ "' specifier only allowed with the last value").toList
  match kind with
  | .column => .ok { s with columns := s.columns ++ [n] }
  | .extend => if s.extend.isSome then refuse "/" else .ok { s with extend := some n }
  | .increment => if s.increment.isSome then refuse "+" else .ok { s with increment := some n }

def TabStops.read (s : TabStops) (kind : StopKind) (number : Option Nat) :
    Octets → Except Octets TabStops
  | [] => match number with
    | some n => s.add kind n
    | none => .ok s
  | c :: rest =>
    let misplaced (sign : String) : Except Octets TabStops :=
      .error ("'".toList ++ sign.toList ++ "' specifier not at start of number: ".toList ++
        Quoting.plain (c :: rest))
    if c == ',' || c == ' ' || c == '\t' then
      match number with
      | some n => match s.add kind n with
        | .ok s => s.read kind none rest
        | .error e => .error e
      | none => s.read kind none rest
    else if c == '/' then
      if number.isSome then misplaced "/" else s.read .extend none rest
    else if c == '+' then
      if number.isSome then misplaced "+" else s.read .increment none rest
    else if c.isDigit then s.read kind (some (10 * number.getD 0 + (c.toNat - 48))) rest
    else .error ("tab size contains invalid character(s): ".toList ++ Quoting.plain (c :: rest))

def tabStops (a : Arguments) : Except Octets TabStops := do
  let texts := (a.options.filter (·.1 == "t")).map Prod.snd
  let s ← texts.foldlM (fun (s : TabStops) t => s.read .column none t) {}
  if s.columns.contains 0 then throw "tab size cannot be 0".toList
  else if (s.columns.zip s.columns.tail).any fun p => p.2 ≤ p.1 then
    throw "tab sizes must be ascending".toList
  else if s.extend.isSome && s.increment.isSome then
    throw "'/' specifier is mutually exclusive with '+'".toList
  else
    let extend := s.extend.filter (· != 0)
    let increment := s.increment.filter (· != 0)
    pure (match s.columns, extend, increment with
      | [], none, none => { extend := some 8 }
      | [], none, some n => { extend := some n }
      | [n], none, none => { extend := some n }
      | _, _, _ => { s with extend, increment })

def TabStops.next (s : TabStops) (column : Nat) : Option Nat :=
  match s.columns.find? (column < ·), s.extend, s.increment with
  | some n, _, _ => some n
  | none, some n, _ => some ((column / n + 1) * n)
  | none, none, some n =>
    let last := s.columns.getLast?.getD 0
    some (last + ((column - last) / n + 1) * n)
  | none, none, none => none

def spelledStops (args : List Octets) : List Octets :=
  args.map fun arg => match arg with
    | '-' :: c :: _ => if c.isDigit then "-t".toList ++ arg.drop 1 else arg
    | _ => arg

def expanded (stops : TabStops) (onlyFirst : Bool) : Nat → Bool → Octets → Octets
  | _, _, [] => []
  | column, first, c :: rest =>
    let stop := (stops.next column).getD (column + 1)
    match c with
    | '\n' => '\n' :: expanded stops onlyFirst 0 true rest
    | '\t' =>
      if onlyFirst && !first then '\t' :: expanded stops onlyFirst stop first rest
      else List.replicate (stop - column) ' ' ++ expanded stops onlyFirst stop first rest
    | '\x08' => '\x08' :: expanded stops onlyFirst (column - 1) false rest
    | c => c :: expanded stops onlyFirst (column + 1) (first && c == ' ') rest

def expand (i : Invocation) : Outcome :=
  let i := { i with arguments := spelledStops i.arguments }
  i.withOptions [flag 'i' "initial", value 't' "tabs"] 1 fun a =>
    match tabStops a with
    | .error e => i.fail 1 e
    | .ok stops =>
      i.overOperands a.operands (fun _ text => expanded stops (a.has "i") 0 true text)
        Invocation.fileFault

/-- A run of blanks from one column to another, with tabs in it where it reaches stops. -/
def tabbed (stops : TabStops) : Nat → Nat → Nat → Octets
  | 0, column, last => List.replicate (last - column) ' '
  | fuel + 1, column, last =>
    match stops.next column with
    | some stop =>
      if stop ≤ last && column < last then '\t' :: tabbed stops fuel stop last
      else List.replicate (last - column) ' '
    | none => List.replicate (last - column) ' '

def unexpanded (stops : TabStops) (everywhere : Bool) : Nat → Nat → Bool → Octets → Octets
  | start, column, first, text =>
    let blanks (last : Nat) : Octets :=
      if last = start then []
      else if everywhere || first then
        let run := tabbed stops (last + 1) start last
        if last - start = 1 && run == ['\t'] && !first then [' '] else run
      else List.replicate (last - start) ' '
    match text with
    | [] => blanks column
    | c :: rest =>
      match c with
      | ' ' => unexpanded stops everywhere start (column + 1) first rest
      | '\t' =>
        let stop := (stops.next column).getD (column + 1)
        if everywhere || first then unexpanded stops everywhere start stop first rest
        else blanks column ++ '\t' :: unexpanded stops everywhere stop stop first rest
      | '\n' => blanks column ++ '\n' :: unexpanded stops everywhere 0 0 true rest
      | c => blanks column ++ c :: unexpanded stops everywhere (column + 1) (column + 1) false rest

def unexpand (i : Invocation) : Outcome :=
  /- Stops that are an option of their own leave the blanks inside lines as they are. -/
  let spelled := i.arguments.flatMap fun arg => match arg with
    | '-' :: c :: _ =>
      if c.isDigit then ["--first-only".toList, "-t".toList ++ arg.drop 1] else [arg]
    | _ => [arg]
  let i := { i with arguments := spelled }
  let known := [flag 'a' "all", value 't' "tabs"] ++ ProgramOption.names .none ["first-only"]
  i.withOptions known 1 fun a =>
    let everywhere := (a.has "a" || a.has "t") && !a.has "first-only"
    match tabStops a with
    | .error e => i.fail 1 e
    | .ok stops =>
      i.overOperands a.operands (fun _ text => unexpanded stops everywhere 0 0 true text)
        Invocation.fileFault

def columns : List (String × Program) := [
  ("cut", cut), ("paste", paste), ("expand", expand), ("unexpand", unexpand)]

end MediaPipeline.Program
