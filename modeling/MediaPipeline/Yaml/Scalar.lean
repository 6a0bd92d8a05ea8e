import MediaPipeline.Yaml.Character

/-!
Scalars of YAML text: plain ones, quoted ones and block scalars. Each scanner walks the text
character by character and ends where the scalar ends. Inside plain and quoted scalars a run of
white space is a gap: kept as it is within a line, and folded where it breaks lines.
-/

namespace MediaPipeline.Yaml

/-! ### Gaps -/

/-- White space between two characters of a scalar; lists are reversed. -/
structure Gap where
  blanks : List Char
  first : Option Char
  others : List Char
  broken : Bool

namespace Gap

def none : Gap :=
  ⟨[], .none, [], false⟩

def escaped : Gap :=
  ⟨[], .none, [], true⟩

def isEmpty (g : Gap) : Bool :=
  g.blanks.isEmpty && !g.broken

/-- The gap with one more blank or break; blanks after a break do not count. -/
def add (g : Gap) (c : Char) : Gap :=
  if isBreak c then
    if g.broken then { g with others := c :: g.others }
    else ⟨[], some c, [], true⟩
  else if g.broken then g
  else { g with blanks := c :: g.blanks }

/-- What stands for the gap in the scalar, reversed: a single line feed becomes a space, and of
several the first is dropped. -/
def folded (g : Gap) : List Char :=
  if !g.broken then g.blanks
  else match g.first with
    | some '\n' => if g.others.isEmpty then [' '] else g.others
    | some c => g.others ++ [c]
    | .none => g.others

end Gap

/-- A scalar that has been scanned: its text, the place behind it, and whether a line was broken
before that place. -/
structure Scanned where
  text : String
  cursor : Cursor
  broken : Bool

/-! ### Plain scalars -/

def isFlowIndicator (c : Char) : Bool :=
  c == ',' || c == '[' || c == ']' || c == '{' || c == '}'

/-- Scans a plain scalar whose lines after the first are indented by at least `indent`. -/
def plainScalar (flow : Bool) (indent : Int) :
    List Char → Gap → Mark → List Char → Except Fault Scanned
  | out, gap, mark, [] => .ok ⟨String.ofList out.reverse, ⟨mark, []⟩, gap.broken⟩
  | out, gap, mark, c :: rest =>
    let stop : Except Fault Scanned :=
      .ok ⟨String.ofList out.reverse, ⟨mark, c :: rest⟩, gap.broken⟩
    if isBlank c && gap.broken && decide ((mark.column : Int) < indent) && c == '\t' then
      .error .tabInIndentation
    else if isBlank c || isBreak c then
      plainScalar flow indent out (gap.add c) (mark.next c) rest
    else if !gap.isEmpty && ((!flow && decide ((mark.column : Int) < indent)) ||
        startsDocumentLine mark.column (c :: rest) || c == '#') then stop
    else if flow && c == ':' &&
        (rest.head?.any fun d => d == '?' || isFlowIndicator d) then .error .strayCharacter
    else if (c == ':' && endsWord rest.head?) || (flow && isFlowIndicator c) then stop
    else plainScalar flow indent (c :: (gap.folded ++ out)) .none (mark.next c) rest

/-! ### Quoted scalars -/

def simpleEscape? : Char → Option Char
  | '0' => some '\x00'
  | 'a' => some '\x07'
  | 'b' => some '\x08'
  | 't' => some '\t'
  | '\t' => some '\t'
  | 'n' => some '\n'
  | 'v' => some '\x0b'
  | 'f' => some '\x0c'
  | 'r' => some '\r'
  | 'e' => some '\x1b'
  | ' ' => some ' '
  | '"' => some '"'
  | '/' => some '/'
  | '\\' => some '\\'
  | 'N' => some '\u0085'
  | '_' => some '\u00a0'
  | 'L' => some '\u2028'
  | 'P' => some '\u2029'
  | _ => none

/-- The number of hexadecimal digits that follow a letter after a backslash. -/
def codeLength? : Char → Option Nat
  | 'x' => some 2
  | 'u' => some 4
  | 'U' => some 8
  | _ => none

def hexValue? (c : Char) : Option Nat :=
  if '0' ≤ c ∧ c ≤ '9' then some (c.toNat - '0'.toNat)
  else if 'a' ≤ c ∧ c ≤ 'f' then some (c.toNat - 'a'.toNat + 10)
  else if 'A' ≤ c ∧ c ≤ 'F' then some (c.toNat - 'A'.toNat + 10)
  else none

inductive QuoteState where
  | text
  /-- A quote that closes the scalar unless another follows. -/
  | quote
  | backslash
  | code (due value : Nat)

def singleQuoted : List Char → Gap → QuoteState → Mark → List Char → Except Fault Scanned
  | out, _, .quote, mark, [] => .ok ⟨String.ofList out.reverse, ⟨mark, []⟩, false⟩
  | _, _, _, _, [] => .error .unfinishedQuote
  | out, _, .quote, mark, c :: rest =>
    if c == '\'' then singleQuoted (c :: out) .none .text (mark.next c) rest
    else .ok ⟨String.ofList out.reverse, ⟨mark, c :: rest⟩, false⟩
  | out, gap, _, mark, c :: rest =>
    if isBlank c || isBreak c then singleQuoted out (gap.add c) .text (mark.next c) rest
    else if startsDocumentLine mark.column (c :: rest) then .error .unfinishedQuote
    else if c == '\'' then singleQuoted (gap.folded ++ out) .none .quote (mark.next c) rest
    else singleQuoted (c :: (gap.folded ++ out)) .none .text (mark.next c) rest

def doubleQuoted : List Char → Gap → QuoteState → Mark → List Char → Except Fault Scanned
  | _, _, _, _, [] => .error .unfinishedQuote
  | out, _, .backslash, mark, c :: rest =>
    if isBreak c then doubleQuoted out .escaped .text (mark.next c) rest
    else match simpleEscape? c, codeLength? c with
      | some e, _ => doubleQuoted (e :: out) .none .text (mark.next c) rest
      | none, some due => doubleQuoted out .none (.code due 0) (mark.next c) rest
      | none, none => .error .badEscape
  | out, _, .code due value, mark, c :: rest =>
    match hexValue? c with
    | none => .error .badEscape
    | some d =>
      let value := value * 16 + d
      if due > 1 then doubleQuoted out .none (.code (due - 1) value) (mark.next c) rest
      else if value.isValidChar then
        doubleQuoted (Char.ofNat value :: out) .none .text (mark.next c) rest
      else .error .badEscape
  | out, gap, _, mark, c :: rest =>
    if isBlank c || isBreak c then doubleQuoted out (gap.add c) .text (mark.next c) rest
    else if startsDocumentLine mark.column (c :: rest) then .error .unfinishedQuote
    else if c == '"' then
      .ok ⟨String.ofList (gap.folded ++ out).reverse, ⟨mark.next c, rest⟩, false⟩
    else if c == '\\' then doubleQuoted (gap.folded ++ out) .none .backslash (mark.next c) rest
    else doubleQuoted (c :: (gap.folded ++ out)) .none .text (mark.next c) rest

/-! ### Block scalars -/

/-- What becomes of the breaks at the end of a block scalar. -/
inductive Chomping where
  | strip
  | clip
  | keep

structure BlockStyle where
  /-- Lines are kept apart; otherwise they are folded. -/
  literal : Bool
  chomping : Chomping
  /-- Indentation of the collection around the scalar. -/
  outer : Int

/-- What has been scanned of a block scalar; lists are reversed. -/
structure BlockState where
  out : List Char
  lineBreak : Option Char
  emptyLines : List Char
  blankStart : Bool
  indent : Option Nat
  widest : Nat
  inLine : Bool

namespace BlockState

def start (indent : Option Nat) : BlockState :=
  ⟨[], none, [], false, indent, 0, false⟩

def startLine (style : BlockStyle) (s : BlockState) (indent : Nat) (c : Char) : BlockState :=
  let fold := !style.literal && s.lineBreak == some '\n' && !s.blankStart && !isBlank c
  let joint := if fold then (if s.emptyLines.isEmpty then [' '] else []) else s.lineBreak.toList
  { s with
    out := c :: (s.emptyLines ++ joint ++ s.out)
    lineBreak := none
    emptyLines := []
    blankStart := isBlank c
    indent := some indent
    inLine := true }

def finish (style : BlockStyle) (s : BlockState) : String :=
  let tail := match style.chomping with
    | .strip => []
    | .clip => s.lineBreak.toList
    | .keep => s.emptyLines ++ s.lineBreak.toList
  String.ofList (tail ++ s.out).reverse

end BlockState

def blockLines (style : BlockStyle) : BlockState → Mark → List Char → Except Fault Scanned
  | s, mark, [] => .ok ⟨s.finish style, ⟨mark, []⟩, true⟩
  | s, mark, c :: rest =>
    if s.inLine then
      if isBreak c then
        blockLines style { s with lineBreak := some c, inLine := false } (mark.next c) rest
      else blockLines style { s with out := c :: s.out } (mark.next c) rest
    else
      let inIndent := s.indent.all fun n => mark.column < n
      if inIndent && c == ' ' then blockLines style s (mark.next c) rest
      else if inIndent && c == '\t' then .error .tabInIndentation
      else
        let s := { s with widest := max s.widest mark.column }
        if isBreak c then
          blockLines style { s with emptyLines := c :: s.emptyLines } (mark.next c) rest
        else
          let indent := s.indent.getD (max (max s.widest (style.outer + 1).toNat) 1)
          if mark.column = indent then
            blockLines style (s.startLine style indent c) (mark.next c) rest
          else .ok ⟨s.finish style, ⟨mark, c :: rest⟩, true⟩

def chomping? : Option Char → Option Chomping
  | some '+' => some .keep
  | some '-' => some .strip
  | _ => none

def increment? (c : Option Char) : Except Fault (Option Nat) :=
  match c with
  | some '0' => .error .badBlockHeader
  | some c => .ok (if c.isDigit then some (c.toNat - '0'.toNat) else none)
  | none => .ok none

def blockScalar (literal : Bool) (outer : Int) (c : Cursor) : Except Fault Scanned := do
  let (chomping, increment, c) ← match chomping? c.peek? with
    | some chomping => do
      let c := c.skip
      match ← increment? c.peek? with
      | some n => pure (chomping, some n, c.skip)
      | none => pure (chomping, none, c)
    | none => do
      match ← increment? c.peek? with
      | some n =>
        let c := c.skip
        match chomping? c.peek? with
        | some chomping => pure (chomping, some n, c.skip)
        | none => pure (.clip, some n, c)
      | none => pure (.clip, none, c)
  let c := c.skipWhile isBlank
  let c := if c.at? '#' then c.skipWhile (!isBreak ·) else c
  if !c.rest.isEmpty && !c.peek?.any isBreak then throw .badBlockHeader
  let c := c.skip
  let indent := increment.map fun n => if outer ≥ 0 then outer.toNat + n else n
  blockLines ⟨literal, chomping, outer⟩ (.start indent) c.mark c.rest

end MediaPipeline.Yaml
