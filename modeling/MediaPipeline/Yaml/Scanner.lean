import MediaPipeline.Yaml.Token

/-!
From text to tokens. The scanner keeps the columns at which block collections are open, and for
every level of flow collections the place where a key may have begun. When a colon comes, the key
token is put in at that place, and the start of a block mapping before it if the column is new.
-/

namespace MediaPipeline.Yaml

/-- A place where a key may have begun. -/
structure PossibleKey where
  /-- A key has to begin there, because the column is that of a block mapping. -/
  required : Bool
  /-- Number of tokens before the place. -/
  position : Nat
  mark : Mark

structure Scanner where
  cursor : Cursor
  tokens : List Token
  /-- Column of the innermost open block collection, `-1` if there is none. -/
  indent : Int
  /-- Columns of the others, innermost first. -/
  outer : List Int
  keyAllowed : Bool
  /-- The key that may have begun at each open flow level, innermost first. -/
  keys : List (Option PossibleKey)
  blockKey : Option PossibleKey

namespace Scanner

def start (text : List Char) : Scanner :=
  ⟨⟨⟨0, 0, 0⟩, text⟩, [], -1, [], true, [], none⟩

def inFlow (s : Scanner) : Bool :=
  !s.keys.isEmpty

def column (s : Scanner) : Int :=
  s.cursor.mark.column

def push (s : Scanner) (t : Token) : Scanner :=
  { s with tokens := t :: s.tokens }

def insertAt (s : Scanner) (position : Nat) (t : Token) : Scanner :=
  { s with tokens := s.tokens.insertIdx (s.tokens.length - position) t }

/-! ### Possible keys -/

def currentKey (s : Scanner) : Option PossibleKey :=
  match s.keys with
  | [] => s.blockKey
  | k :: _ => k

def setKey (s : Scanner) (k : Option PossibleKey) : Scanner :=
  match s.keys with
  | [] => { s with blockKey := k }
  | _ :: rest => { s with keys := k :: rest }

/-- Gives up the key of the current level. -/
def dropKey (s : Scanner) : Except Fault Scanner :=
  if s.currentKey.any (·.required) then .error .missingColon else .ok (s.setKey none)

/-- Notes that a key may begin at the cursor. -/
def saveKey (s : Scanner) : Except Fault Scanner := do
  if s.keyAllowed then
    let s ← s.dropKey
    pure (s.setKey (some ⟨!s.inFlow && s.indent == s.column, s.tokens.length, s.cursor.mark⟩))
  else pure s

/-- The number of bytes beyond which no key may reach. -/
def maxKeyLength : Nat := 1024

/-- Whether a key that began at a place cannot be one any more: it has to stay on its line. -/
def isStale (s : Scanner) (k : PossibleKey) : Bool :=
  k.mark.line < s.cursor.mark.line || k.mark.index + maxKeyLength < s.cursor.mark.index

def dropStale (s : Scanner) : Except Fault Scanner :=
  let keep (k : Option PossibleKey) : Except Fault (Option PossibleKey) :=
    match k with
    | some k => if s.isStale k then (if k.required then .error .missingColon else .ok none)
        else .ok (some k)
    | none => .ok none
  do pure { s with keys := ← s.keys.mapM keep, blockKey := ← keep s.blockKey }

/-! ### Indentation -/

def openBlock (s : Scanner) (column : Int) (position : Nat) (t : Token) : Scanner :=
  if !s.inFlow && s.indent < column then
    { s.insertAt position t with indent := column, outer := s.indent :: s.outer }
  else s

def closeBlocks (s : Scanner) (column : Int) : Scanner :=
  if s.inFlow then s else go s.outer s.indent s.tokens
where
  go : List Int → Int → List Token → Scanner
    | next :: outer, indent, tokens =>
      if indent > column then go outer next (.blockEnd :: tokens)
      else { s with indent, outer := next :: outer, tokens }
    | [], indent, tokens => { s with indent, outer := [], tokens }

/-! ### Between tokens -/

/-- Steps over white space, comments and breaks; after a break in a block a key may begin. A byte
order mark may stand in front of any line, and counts as a column of it. -/
def skipSpace (s : Scanner) : Scanner :=
  go s.keyAllowed s.cursor.mark false s.cursor.rest
where
  go (allowed : Bool) (mark : Mark) (comment : Bool) : List Char → Scanner
    | [] => { s with keyAllowed := allowed, cursor := ⟨mark, []⟩ }
    | c :: rest =>
      if isBreak c then go (allowed || !s.inFlow) (mark.next c) false rest
      else if comment then go allowed (mark.next c) true rest
      else if c == '#' then go allowed (mark.next c) true rest
      else if c == ' ' || (c == '\t' && (s.inFlow || !allowed)) ||
          (c == '\uFEFF' && mark.column == 0) then
        go allowed (mark.next c) false rest
      else { s with keyAllowed := allowed, cursor := ⟨mark, c :: rest⟩ }

/-! ### One token -/

def skipN (s : Scanner) (n : Nat) : Scanner :=
  { s with cursor := s.cursor.skipN n }

def moveTo (s : Scanner) (t : Token) (cursor : Cursor) : Scanner :=
  { s.push t with cursor }

/-- A token that starts a line of its own outside of all collections. -/
def outermost (s : Scanner) : Except Fault Scanner := do
  let s ← (s.closeBlocks (-1)).dropKey
  pure { s with keyAllowed := false }

def flowStart (s : Scanner) (t : Token) : Except Fault Scanner := do
  let s ← s.saveKey
  pure ({ s with keys := none :: s.keys, keyAllowed := true }.push t |>.skipN 1)

def flowEnd (s : Scanner) (t : Token) : Except Fault Scanner := do
  let s ← s.dropKey
  pure ({ s with keys := s.keys.tail, keyAllowed := false }.push t |>.skipN 1)

def flowEntry (s : Scanner) : Except Fault Scanner := do
  let s ← s.dropKey
  pure ({ s with keyAllowed := true }.push .flowEntry |>.skipN 1)

def blockEntry (s : Scanner) : Except Fault Scanner := do
  if !s.inFlow && !s.keyAllowed then throw .misplacedIndicator
  let s ← (s.openBlock s.column s.tokens.length .blockSequenceStart).dropKey
  pure ({ s with keyAllowed := true }.push .blockEntry |>.skipN 1)

def key (s : Scanner) : Except Fault Scanner := do
  if !s.inFlow && !s.keyAllowed then throw .misplacedIndicator
  let s ← (s.openBlock s.column s.tokens.length .blockMappingStart).dropKey
  pure ({ s with keyAllowed := !s.inFlow }.push .key |>.skipN 1)

def value (s : Scanner) : Except Fault Scanner := do
  match s.currentKey with
  | some k =>
    let s := (s.insertAt k.position .key).openBlock k.mark.column k.position .blockMappingStart
    pure ({ s.setKey none with keyAllowed := false }.push .value |>.skipN 1)
  | none =>
    if !s.inFlow && !s.keyAllowed then throw .misplacedIndicator
    let s := s.openBlock s.column s.tokens.length .blockMappingStart
    pure ({ s with keyAllowed := !s.inFlow }.push .value |>.skipN 1)

def keyLike (s : Scanner) (scan : Cursor → Except Fault (Token × Cursor)) :
    Except Fault Scanner := do
  let s ← s.saveKey
  let (t, cursor) ← scan s.cursor
  pure ({ s with keyAllowed := false }.moveTo t cursor)

def quotedToken (scan : List Char → Gap → QuoteState → Mark → List Char → Except Fault Scanned)
    (c : Cursor) : Except Fault (Token × Cursor) := do
  let c := c.skip
  let scanned ← scan [] .none .text c.mark c.rest
  pure (.scalar scanned.text false, scanned.cursor)

def blockScalarToken (s : Scanner) (literal : Bool) : Except Fault Scanner := do
  let s ← s.dropKey
  let scanned ← blockScalar literal s.indent s.cursor.skip
  pure ({ s with keyAllowed := true }.moveTo (.scalar scanned.text false) scanned.cursor)

def plainToken (s : Scanner) : Except Fault Scanner := do
  let s ← s.saveKey
  let scanned ← plainScalar s.inFlow (s.indent + 1) [] .none s.cursor.mark s.cursor.rest
  pure ({ s with keyAllowed := scanned.broken }.moveTo (.scalar scanned.text true) scanned.cursor)

/-- Whether a plain scalar may begin with a character, given the next one. -/
def startsPlain (flow : Bool) (c : Char) (next : Option Char) : Bool :=
  (!isBlank c && !isBreak c && !"-?:,[]\x7b\x7d#&*!|>'\"%@`".toList.contains c) ||
    (c == '-' && !next.any isBlank) ||
    (!flow && (c == '?' || c == ':') && !endsWord next)

def token (s : Scanner) (c : Char) : Except Fault Scanner :=
  let rest := s.cursor.rest
  let next := rest.tail.head?
  let flow := s.inFlow
  if c == '%' && s.cursor.mark.column == 0 then do
    let s ← s.outermost
    let (t, cursor) ← scanDirective s.cursor
    pure (s.moveTo t cursor)
  else if startsDocumentLine s.cursor.mark.column rest then do
    let s ← s.outermost
    pure ((s.push (if c == '-' then .documentStart else .documentEnd)).skipN 3)
  else match c with
    | '[' => s.flowStart .flowSequenceStart
    | '{' => s.flowStart .flowMappingStart
    | ']' => s.flowEnd .flowSequenceEnd
    | '}' => s.flowEnd .flowMappingEnd
    | ',' => s.flowEntry
    | '*' => s.keyLike fun c => do
      let (name, c) ← anchorName c.skip
      pure (.reference name, c)
    | '&' => s.keyLike fun c => do
      let (name, c) ← anchorName c.skip
      pure (.anchor name, c)
    | '!' => s.keyLike (scanTag flow)
    | '\'' => s.keyLike (quotedToken singleQuoted)
    | '"' => s.keyLike (quotedToken doubleQuoted)
    | _ =>
      if c == '-' && endsWord next then s.blockEntry
      else if c == '?' && (flow || endsWord next) then s.key
      else if c == ':' && (flow || endsWord next) then s.value
      else if c == '|' && !flow then s.blockScalarToken true
      else if c == '>' && !flow then s.blockScalarToken false
      else if startsPlain flow c next then s.plainToken
      else .error .strayCharacter

def run : Nat → Scanner → Except Fault (List Token)
  | 0, s => .ok s.tokens.reverse
  | fuel + 1, s => do
    let s := s.skipSpace
    let s ← s.dropStale
    let s := s.closeBlocks s.column
    match s.cursor.rest with
    | [] =>
      let s ← s.outermost
      pure s.tokens.reverse
    | c :: _ => run fuel (← s.token c)

end Scanner

def tokens (text : String) : Except Fault (List Token) := do
  let chars ← scannable text
  Scanner.run (chars.length + 1) (.start chars)

end MediaPipeline.Yaml
