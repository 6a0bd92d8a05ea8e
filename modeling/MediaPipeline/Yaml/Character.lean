/-!
Character classes of YAML text, and the form in which a text is scanned: with every line break that
is not a separator written as one line feed.
-/

namespace MediaPipeline.Yaml

inductive Fault where
  | forbiddenCharacter
  | strayCharacter
  | tabInIndentation
  /-- An indicator of a block collection where none may start. -/
  | misplacedIndicator
  | missingColon
  | unfinishedQuote
  | badEscape
  | badBlockHeader
  | badAnchor
  | badTag
  | badDirective
  | unexpectedToken
  | unknownTagHandle
  | unknownAlias
  | severalDocuments
  /-- The document is something else than what is read from it. -/
  | wrongShape
  | duplicateKey
  deriving DecidableEq

def isAllowed (c : Char) : Bool :=
  let n := c.toNat
  n == 0x09 || n == 0x0A || n == 0x0D || (0x20 ≤ n && n ≤ 0x7E) || n == 0x85 ||
    (0xA0 ≤ n && n ≤ 0xFFFD) || 0x10000 ≤ n

/-- A line feed, a line separator or a paragraph separator. -/
def isBreak (c : Char) : Bool :=
  c == '\n' || c == '\u2028' || c == '\u2029'

def isBlank (c : Char) : Bool :=
  c == ' ' || c == '\t'

def endsWord : Option Char → Bool
  | none => true
  | some c => isBlank c || isBreak c

/-- A character of names: a letter, a digit, an underscore or a hyphen. -/
def isNameChar (c : Char) : Bool :=
  c.isAlphanum || c == '_' || c == '-'

/-- Line breaks of other systems as line feeds. -/
def unifyBreaks : List Char → List Char
  | '\r' :: '\n' :: rest => '\n' :: unifyBreaks rest
  | c :: rest => (if c == '\r' || c == '\u0085' then '\n' else c) :: unifyBreaks rest
  | [] => []

def scannable (text : String) : Except Fault (List Char) :=
  if text.toList.all isAllowed then .ok (unifyBreaks text.toList) else .error .forbiddenCharacter

structure Mark where
  /-- Number of bytes in front of the place. -/
  index : Nat
  line : Nat
  column : Nat

def Mark.next (m : Mark) (c : Char) : Mark :=
  if isBreak c then ⟨m.index + c.utf8Size, m.line + 1, 0⟩
  else ⟨m.index + c.utf8Size, m.line, m.column + 1⟩

structure Cursor where
  mark : Mark
  rest : List Char

namespace Cursor

def skip (c : Cursor) : Cursor :=
  match c.rest with
  | [] => c
  | ch :: rest => ⟨c.mark.next ch, rest⟩

/-- Steps over several characters. -/
def skipN : Nat → Cursor → Cursor
  | 0, c => c
  | n + 1, c => skipN n c.skip

def takeWhile (c : Cursor) (p : Char → Bool) : List Char × Cursor :=
  go c.mark c.rest
where
  go (mark : Mark) : List Char → List Char × Cursor
    | [] => ([], ⟨mark, []⟩)
    | ch :: rest =>
      if p ch then
        let (taken, cursor) := go (mark.next ch) rest
        (ch :: taken, cursor)
      else ([], ⟨mark, ch :: rest⟩)

def skipWhile (c : Cursor) (p : Char → Bool) : Cursor :=
  (c.takeWhile p).2

def peek? (c : Cursor) : Option Char :=
  c.rest.head?

def at? (c : Cursor) (ch : Char) : Bool :=
  c.rest.head? == some ch

end Cursor

def startsDocumentLine (column : Nat) (text : List Char) : Bool :=
  column == 0 && match text with
    | a :: b :: c :: rest =>
      ((a == '-' && b == '-' && c == '-') || (a == '.' && b == '.' && c == '.')) &&
        endsWord rest.head?
    | _ => false

end MediaPipeline.Yaml
