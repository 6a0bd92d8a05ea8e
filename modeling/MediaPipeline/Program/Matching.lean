import MediaPipeline.Program.Tree
import MediaPipeline.Shell.Regex

/-!
Searching lines: those that a pattern fits are written, counted, or only their files are named.
-/

namespace MediaPipeline.Program.Matching

open Shell (Quoting.plain Regex RegexRules)
open ProgramOption (flag value)

/-! ### Patterns -/

inductive Grammar where
  | basic
  | extended
  | fixed
  deriving DecidableEq

structure Search where
  patterns : List Regex
  anyCase : Bool
  words : Bool
  lines : Bool
  /-- Patterns have bytes in them that belong to no character, and so bytes are compared. -/
  bytes : Bool

def literal (text : Octets) : Regex :=
  text.foldr (fun c r => .seq (.one fun x => x == c) r) .empty

def opensBounds (text : Octets) : Bool :=
  let rest := text.dropWhile Char.isDigit
  match rest with
  | '\x7d' :: _ => rest.length < text.length
  | ',' :: rest => (rest.dropWhile Char.isDigit).head? == some '\x7d'
  | _ => false

/-- What is said of signs of repetition with nothing in front of them. -/
def warnings : Nat → Bool → Octets → List String
  | 0, _, _ | _, _, [] => []
  | fuel + 1, first, '\\' :: rest =>
    let anchor := rest.head?.any fun c => "<>bB\x60'".toList.contains c
    warnings fuel (first && anchor) rest.tail
  | fuel + 1, _, '[' :: rest =>
    let inner := match rest with
      | '^' :: ']' :: rest | ']' :: rest | '^' :: rest => rest
      | rest => rest
    warnings fuel false (inner.dropWhile (· != ']')).tail
  | fuel + 1, first, c :: rest =>
    let note (text : String) : List String :=
      (text ++ " at start of expression") :: warnings fuel first rest
    if first && (c == '*' || c == '+' || c == '?') then note (String.ofList [c])
    else if first && c == '\x7b' && opensBounds rest then note "\x7b...\x7d"
    else warnings fuel (c == '(' || c == '|' || (first && (c == '^' || c == '$'))) rest

def read (g : Grammar) (text : Octets) : Except String Regex :=
  match g with
  | .fixed => .ok (literal (Octets.characters text))
  | .basic | .extended =>
    let rules : RegexRules := if g = .extended then
        { extended := true, leading := .skipped, looseBounds := true, strictClasses := true }
      else { extended := false, strictClasses := true }
    match Regex.ofText rules (Octets.characters text) with
    | .ok (r, _) => .ok r
    | .error f => .error f.message

/-! ### Fits -/

/-- The longest fit of any pattern at a place: where it ends. -/
def fitAt (s : Search) (m : Regex.Matching) (start : Nat) : Option Nat :=
  let size := m.text.size
  let edge (a b : Nat) : Bool :=
    !(a != 0 && Regex.isWordAt m (a - 1)) && !Regex.isWordAt m b
  let fits (last : Nat) : Bool :=
    (!s.words || edge start last) && (!s.lines || (start = 0 && last = size))
  let ends := s.patterns.flatMap fun r => (Regex.places m r ⟨start, []⟩).map (·.position)
  (ends.filter fits).foldl (fun best n => some (max n (best.getD 0))) none

def nextFit (s : Search) (m : Regex.Matching) (start : Nat) : Option (Nat × Nat) :=
  (List.range (m.text.size + 1 - start)).findSome? fun n =>
    (fitAt s m (start + n)).map fun last => (start + n, last)

def allFits (s : Search) (m : Regex.Matching) : Nat → Nat → List (Nat × Nat)
  | 0, _ => []
  | fuel + 1, start =>
    match nextFit s m start with
    | none => []
    | some (a, b) =>
      if a = b then if a < m.text.size then allFits s m fuel (a + 1) else []
      else (a, b) :: allFits s m fuel b

def units (s : Search) (line : Octets) : List Char :=
  if s.bytes then line else Octets.characters line

def ofUnits (s : Search) (text : List Char) : Octets :=
  if s.bytes then text else Octets.ofCharacters text

def matching (s : Search) (text : List Char) : Regex.Matching :=
  { text := text.toArray, anyCase := s.anyCase }

/-! ### Output -/

structure Style where
  name : Option Octets
  numbers : Bool
  offsets : Bool
  color : Bool

def Style.painted (s : Style) (code : String) (text : Octets) : Octets :=
  if !s.color || text.isEmpty then text
  else ("\x1b[" ++ code ++ "m\x1b[K").toList ++ text ++ "\x1b[m\x1b[K".toList

def Style.front (s : Style) (sign : Char) (number offset : Nat) : Octets :=
  let mark := s.painted "36" [sign]
  (match s.name with
    | some n => s.painted "35" n ++ mark
    | none => []) ++
  (if s.numbers then s.painted "32" (Octets.ofNat number) ++ mark else []) ++
  (if s.offsets then s.painted "32" (Octets.ofNat offset) ++ mark else [])

def Style.highlighted (s : Style) : Nat → List (Nat × Nat) → List Char → List Char
  | _, [], line => line
  | place, (a, b) :: fits, line =>
    line.take (a - place) ++ s.painted "01;31" ((line.drop (a - place)).take (b - a)) ++
      s.highlighted b fits (line.drop (b - place))

/-- A line of a file: its number, where it begins, and whether it is chosen. -/
structure Row where
  number : Nat
  offset : Nat
  text : Octets
  chosen : Bool

def rowsOf (chosen : Octets → Bool) (limit : Option Nat) : Nat → Nat → Nat → List Octets → List Row
  | _, _, _, [] => []
  | number, offset, count, l :: rest =>
    if limit == some count then
      ⟨number, offset, l, false⟩ :: rowsOf chosen limit (number + 1) (offset + l.length + 1) count rest
    else
      let c := chosen l
      ⟨number, offset, l, c⟩ ::
        rowsOf chosen limit (number + 1) (offset + l.length + 1) (if c then count + 1 else count) rest

def shownRows (before after : Nat) (rows : List Row) : List Row :=
  let (_, marked) := rows.foldr (fun r (next, acc) =>
    let next := if r.chosen then some r.number else next
    (next, (r, next.any (· ≤ r.number + before)) :: acc))
    ((none, []) : Option Nat × List (Row × Bool))
  let (_, shown) := marked.foldl (fun (last, acc) (r, ahead) =>
    let last := if r.chosen then some r.number else last
    (last, if ahead || last.any (r.number ≤ · + after) then r :: acc else acc))
    ((none, []) : Option Nat × List Row)
  shown.reverse

/-- Rows with a separator in front of those that do not follow the one before, whose number is
`before`. -/
def parted (front : Row → Octets) (body : Row → Octets) (separator : Option Octets) :
    Option Nat → List Row → Octets
  | _, [] => []
  | before, r :: rest =>
    let gap := match before, separator with
      | some n, some text => if n + 1 < r.number then text else []
      | _, _ => []
    gap ++ front r ++ body r ++ parted front body separator (some r.number) rest

structure Found where
  out : Octets := []
  err : Octets := []
  any : Bool := false
  bad : Bool := false
  consumed : Option Nat := none

/-! ### The program -/

def options : List ProgramOption := [
  flag 'E' "extended-regexp", flag 'F' "fixed-strings", flag 'G' "basic-regexp",
  flag 'P' "perl-regexp", value 'e' "regexp", value 'f' "file", flag 'i' "ignore-case",
  ⟨some 'y', none, .none⟩, flag 'w' "word-regexp", flag 'x' "line-regexp", flag 'z' "null-data",
  flag 's' "no-messages", flag 'v' "invert-match", flag 'V' "version", value 'm' "max-count",
  flag 'b' "byte-offset", flag 'n' "line-number", flag 'H' "with-filename", flag 'h' "no-filename",
  flag 'o' "only-matching", flag 'q' "quiet", flag 'a' "text", ⟨some 'I', none, .none⟩,
  value 'd' "directories", value 'D' "devices", flag 'r' "recursive",
  flag 'R' "dereference-recursive", flag 'L' "files-without-match", flag 'l' "files-with-matches",
  flag 'c' "count", flag 'T' "initial-tab", flag 'Z' "null", value 'B' "before-context",
  value 'A' "after-context", value 'C' "context", flag 'U' "binary", flag 'u' "unix-byte-offsets"] ++
  ProgramOption.names .none ["no-ignore-case", "line-buffered", "no-group-separator", "silent"] ++
  ProgramOption.names .joined ["color", "colour"] ++
  ProgramOption.names .needed ["binary-files", "label", "include", "exclude", "exclude-from",
    "exclude-dir", "group-separator"]

def filesBelow (fs : Files) : Nat → Octets → List Octets
  | 0, _ => []
  | fuel + 1, path =>
    match fs.placeAt path with
    | .error _ => [path]
    | .ok place => match fs.at? place with
      | some .directory => (fs.namesIn place).flatMap fun n =>
          let own := below path n
          match fs.findLink own with
          | .ok (.link _) | .ok (.device _) => []
          | _ => filesBelow fs fuel own
      | _ => [path]

/-- Counts written as options of their own become values. -/
def spelled : List Octets → List Octets
  | [] => []
  | a :: rest =>
    let takesNext := ["-A", "-B", "-C", "-m", "-e", "-f", "-d", "-D"].any fun o => o.toList == a
    if takesNext then a :: (rest.head?.toList ++ spelled rest.tail)
    else match a with
      | ['-', '-'] => a :: rest
      | '-' :: c :: digits =>
        (if c.isDigit && digits.all Char.isDigit then '-' :: 'C' :: c :: digits else a) ::
          spelled rest
      | _ => a :: spelled rest
termination_by args => args.length
decreasing_by all_goals grind

def searchFile (i : Invocation) (a : Arguments) (s : Search) (several : Bool) (f : Found)
    (operand : Octets) : Found :=
  let isInput := operand == ['-']
  let shown := if isInput then (a.value? "label").getD "(standard input)".toList else operand
  let quiet := a.has "q" || a.has "silent"
  match i.content operand with
  | .error e =>
    if a.has "s" then { f with bad := true }
    else { f with err := f.err ++ i.complaint (shown ++ ": ".toList ++ e.toList), bad := true }
  | .ok text =>
    let ending := if a.has "z" then '\x00' else '\n'
    let pieces := text.splitOn ending
    let ls := if pieces.getLast? == some [] then pieces.dropLast else pieces
    let most := (a.value? "m").bind fun n => if n.head? == some '-' then none else some (natural n)
    let limit := if quiet || a.has "l" || a.has "L" then some (min 1 (most.getD 1)) else most
    let chosen (l : Octets) : Bool := (nextFit s (matching s (units s l)) 0).isSome != a.has "v"
    let rows := rowsOf chosen limit 1 0 0 ls
    let count := (rows.filter Row.chosen).length
    let stopped := limit == some count && 0 < count
    let last := ((rows.filter Row.chosen).getLast?.map fun r => r.offset + r.text.length + 1).getD 0
    let consumed := if i.isInput operand then
        some (if stopped then min last text.length else text.length)
      else f.consumed
    let asText := a.has "a" || a.value? "binary-files" == some "text".toList
    let binary := !asText && !a.has "z" && text.contains '\x00'
    let ignoresBinary := a.has "I" || a.value? "binary-files" == some "without-match".toList
    let named := if a.has "h" then none
      else if a.has "H" || several then some shown else none
    let color := match a.options.reverse.find? fun o => o.1 == "color" || o.1 == "colour" with
      | some (_, v) => v == "always".toList
      | none => false
    let style : Style := ⟨named, a.has "n", a.has "b", color⟩
    let nameEnd : Octets := if a.has "Z" then ['\x00'] else ['\n']
    let found := 0 < count && !(binary && ignoresBinary)
    let f := { f with consumed, any := f.any || found }
    let put (out : Octets) : Found := { f with out := f.out ++ out }
    if quiet then f
    else if a.has "l" then if found then put (style.painted "35" shown ++ nameEnd) else f
    else if a.has "L" then if found then f else put (style.painted "35" shown ++ nameEnd)
    else if binary && ignoresBinary then f
    else if a.has "c" then
      put ((match named with
        | some n => style.painted "35" n ++ style.painted "36" [':']
        | none => []) ++ Octets.ofNat count ++ ['\n'])
    else if binary then
      if found then { f with err := f.err ++ i.complaint (shown ++ ": binary file matches".toList) }
      else f
    else
      let size (key : String) : Nat := (((a.value? key).or (a.value? "C")).map natural).getD 0
      let context := ["A", "B", "C"].any a.has
      if a.has "o" then
        if a.has "v" then f
        else put ((rows.filter Row.chosen).flatMap fun r =>
          let text := units s r.text
          (allFits s (matching s text) (text.length + 2) 0).flatMap fun (x, y) =>
            style.front ':' r.number (r.offset + (ofUnits s (text.take x)).length) ++
              style.painted "01;31" (ofUnits s ((text.take y).drop x)) ++ [ending])
      else
        let near := shownRows (size "B") (size "A") rows
        /- Lines with bytes that belong to no character are left out. -/
        let shownRows := if asText then near
          else near.filter fun r => !(Octets.characters r.text).any Octets.isStray
        let separator := if a.has "no-group-separator" || !context then none
          else some (style.painted "36" ((a.value? "group-separator").getD ['-', '-']) ++ ['\n'])
        let front (r : Row) : Octets :=
          style.front (if r.chosen then ':' else '-') r.number r.offset
        let body (r : Row) : Octets :=
          if r.chosen && !a.has "v" && style.color then
            let text := units s r.text
            ofUnits s (style.highlighted 0 (allFits s (matching s text) (text.length + 2) 0) text) ++
              [ending]
          else r.text ++ [ending]
        let f := put (parted front body separator (if f.out.isEmpty then none else some 0) shownRows)
        if shownRows.length < near.length then
          { f with err := f.err ++ i.complaint (shown ++ ": binary file matches".toList) }
        else f

/-- Searches files for lines that patterns fit. -/
def program (standard : Grammar) (i : Invocation) : Outcome :=
  let usage := ("Usage: " ++ String.ofList i.name ++ " [OPTION]... PATTERNS [FILE]...\n").toList
  match Arguments.ofList options false (spelled i.arguments) with
  | .error text => { err := i.complaint text ++ usage ++ i.hint, status := 2 }
  | .ok a =>
    if a.has "V" then
      { out := i.name ++ (" (" ++ i.files.maker.name ++ " grep) 3.8\n").toList }
    else
      let isCount (t : Octets) : Bool :=
        let t := if t.head? == some '-' then t.tail else t
        !t.isEmpty && t.all Char.isDigit
      let badContext := a.options.find? fun o =>
        ["A", "B", "C"].contains o.1 && !(!o.2.isEmpty && o.2.all Char.isDigit)
      let badLimit := a.options.any fun o => o.1 == "m" && !isCount o.2
      let kinds := a.options.filterMap fun o => if ["E", "F", "G", "P"].contains o.1 then some o.1 else none
      let fixedKind := match standard with
        | .basic => kinds.head?
        | .extended => some "E"
        | .fixed => some "F"
      if kinds.any fun k => some k != fixedKind then
        i.fail 2 "conflicting matchers specified".toList
      else match badContext, badLimit with
      | some (_, t), _ =>
        i.fail 2 (t ++ ": invalid context length argument".toList)
      | none, true => i.fail 2 "invalid max count".toList
      | none, false =>
        let grammar : Grammar := match a.lastOf? ["E", "F", "G", "P"] with
          | some "E" | some "P" => .extended
          | some "F" => .fixed
          | some _ => .basic
          | none => standard
        let given := a.options.filter fun o => o.1 == "e" || o.1 == "f"
        let (patternTexts, operands, fault) : List Octets × List Octets × Option Octets :=
          if given.isEmpty then
            match a.operands with
            | [] => ([], [], none)
            | p :: rest => (p.splitOn '\n', rest, none)
          else
            given.foldl (fun (ps, rest, fault) (key, text) =>
              if key == "e" then (ps ++ text.splitOn '\n', rest, fault)
              else match i.content text with
                | .ok content => (ps ++ bareLines content, rest, fault)
                | .error e => (ps, rest, fault.or (some (i.complaint (text ++ ": ".toList ++ e.toList)))))
              ([], a.operands, none)
        if given.isEmpty && a.operands.isEmpty then { err := usage ++ i.hint, status := 2 }
        else match fault with
          | some text => { err := text, status := 2 }
          | none =>
            let notes := if grammar = .extended then
                (patternTexts.flatMap fun p => warnings (p.length + 1) true p).flatMap fun w =>
                  i.complaint ("warning: " ++ w).toList
              else []
            let bytes := patternTexts.any fun p => (Octets.characters p).any Octets.isStray
            match patternTexts.mapM (if bytes then fun p => .ok (literal p) else read grammar) with
            | .error text => i.fail 2 text.toList
            | .ok patterns =>
              let s : Search :=
                ⟨patterns, (a.lastOf? ["i", "y", "no-ignore-case"]).any (· != "no-ignore-case"),
                  a.has "w", a.has "x", bytes⟩
              let recursive := a.has "r" || a.has "R"
              let (own, several) : List Octets × Bool :=
                if recursive then
                  let roots := if operands.isEmpty then [['.']] else operands
                  let all := roots.flatMap fun r => filesBelow i.files 1000 r
                  let all := if operands.isEmpty then all.map fun p => p.drop 2 else all
                  let included (p : Octets) : Bool :=
                    let fits (key : String) : Bool := (a.options.filter (·.1 == key)).any fun o =>
                      (Shell.Pattern.ofMarked ⟨false, false⟩ (o.2.map fun c => (c, false))).fits (lastPart p)
                    (!a.has "include" || fits "include") && !fits "exclude"
                  (all.filter included, roots.any i.files.isDirectory || 1 < roots.length)
                else (if operands.isEmpty then [['-']] else operands, 1 < operands.length)
              let quiet := a.has "q" || a.has "silent"
              let f := own.foldl (fun (f : Found) operand =>
                if quiet && f.any then f else searchFile i a s several f operand)
                { err := notes }
              { out := f.out, err := f.err, consumed := f.consumed, block := 65536
                status := if f.bad && !(quiet && f.any) then 2 else if f.any then 0 else 1 }

/-- The programs that search lines. All of them go by the name of the first. -/
def programs : List (String × Program) :=
  ([("grep", .basic), ("egrep", .extended), ("fgrep", .fixed)] : List (String × Grammar)).map
    fun (name, g) => (name, fun i => program g { i with name := "grep".toList })

end MediaPipeline.Program.Matching
