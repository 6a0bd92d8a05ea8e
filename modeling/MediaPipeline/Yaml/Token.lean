import MediaPipeline.Yaml.Scalar

/-!
The tokens of YAML text. Besides what is written there are tokens for the start and the end of
block collections, which the indentation gives, and for keys, which are known only when their colon
comes.
-/

namespace MediaPipeline.Yaml

inductive Token where
  | version (major minor : Nat)
  | tagHandle (handle : String)
  | documentStart
  | documentEnd
  | blockSequenceStart
  | blockMappingStart
  | blockEnd
  | flowSequenceStart
  | flowSequenceEnd
  | flowMappingStart
  | flowMappingEnd
  | blockEntry
  | flowEntry
  | key
  | value
  | anchor (name : String)
  | reference (name : String)
  | tag (handle : Option String)
  | scalar (text : String) (plain : Bool)
  deriving DecidableEq

/-! ### Names, tags and directives -/

def anchorName (c : Cursor) : Except Fault (String × Cursor) :=
  let (name, c) := c.takeWhile isNameChar
  let ended := endsWord c.peek? || c.peek?.any fun d => "?:,]\x7d%@`".toList.contains d
  if name.isEmpty || !ended then .error .badAnchor else .ok (String.ofList name, c)

/-- A character of a tag, where lists and separators are allowed only in full form. -/
def isTagChar (full : Bool) (c : Char) : Bool :=
  isNameChar c || ";/?:@&=+$.!~*'()".toList.contains c || (full && ",[]".toList.contains c)

def encodedLength (byte : Nat) : Nat :=
  if byte < 0x80 then 1 else if byte < 0xC0 then 0 else if byte < 0xE0 then 2
  else if byte < 0xF0 then 3 else if byte < 0xF8 then 4 else 0

def percentByte? : List Char → Option Nat
  | '%' :: a :: b :: _ => do some (16 * (← hexValue? a) + (← hexValue? b))
  | _ => none

/-- Steps over the bytes that continue an escaped character. -/
def skipContinuation : Nat → Cursor → Except Fault Cursor
  | 0, c => .ok c
  | n + 1, c =>
    match percentByte? c.rest with
    | some b => if b / 64 = 2 then skipContinuation n (c.skipN 3) else .error .badTag
    | none => .error .badTag

/-- Steps over the characters of a tag and counts them; an escaped character counts once. -/
def skipTagChars (full : Bool) : Nat → Nat → Cursor → Except Fault (Nat × Cursor)
  | 0, count, c => .ok (count, c)
  | fuel + 1, count, c =>
    match c.peek? with
    | none => .ok (count, c)
    | some d =>
      if d == '%' then
        match percentByte? c.rest with
        | none => .error .badTag
        | some b => do
          if encodedLength b = 0 then throw .badTag
          let c ← skipContinuation (encodedLength b - 1) (c.skipN 3)
          skipTagChars full fuel (count + 1) c
      else if isTagChar full d then skipTagChars full fuel (count + 1) c.skip
      else .ok (count, c)

/-- Steps over the characters of a tag, at least one unless some stand before the place. -/
def tagUri (full : Bool) (before : Nat) (c : Cursor) : Except Fault (Nat × Cursor) := do
  let (count, c) ← skipTagChars full (c.rest.length + 1) before c
  if count = 0 then throw .badTag else pure (count, c)

/-- Scans a tag handle: an exclamation mark, a name, and a second mark if there is one. -/
def tagHandle (directive : Bool) (c : Cursor) : Except Fault (String × Cursor) :=
  if !c.at? '!' then .error .badTag
  else
    let (name, c) := c.skip.takeWhile isNameChar
    if c.at? '!' then .ok (String.ofList ('!' :: name ++ ['!']), c.skip)
    else if directive && !name.isEmpty then .error .badDirective
    else .ok (String.ofList ('!' :: name), c)

def scanTag (flow : Bool) (c : Cursor) : Except Fault (Token × Cursor) := do
  let (handle, c) ←
    if c.skip.at? '<' then do
      let (_, c) ← tagUri true 0 (c.skipN 2)
      if !c.at? '>' then throw .badTag
      pure (none, c.skip)
    else do
      let (handle, c) ← tagHandle false c
      if handle.length > 1 && handle.endsWith "!" then do
        let (_, c) ← tagUri false 0 c
        pure (some handle, c)
      else do
        let (count, c) ← tagUri false handle.length c
        pure (if count = 1 then none else some "!", c)
  if !(flow && c.at? ',') && !endsWord c.peek? then throw .badTag
  pure (.tag handle, c)

def versionNumber (c : Cursor) : Except Fault (Nat × Cursor) :=
  let (digits, c) := c.takeWhile Char.isDigit
  if digits.isEmpty || digits.length > 9 then .error .badDirective
  else .ok (digits.foldl (fun n d => 10 * n + (d.toNat - '0'.toNat)) 0, c)

def scanDirective (c : Cursor) : Except Fault (Token × Cursor) := do
  let (name, c) := c.skip.takeWhile isNameChar
  if !endsWord c.peek? then throw .badDirective
  let c' := c.skipWhile isBlank
  let (token, c) ← match String.ofList name with
    | "YAML" => do
      let (major, c) ← versionNumber c'
      if !c.at? '.' then throw .badDirective
      let (minor, c) ← versionNumber c.skip
      pure (Token.version major minor, c)
    | "TAG" => do
      let (handle, c) ← tagHandle true c'
      if !c.peek?.any isBlank then throw .badDirective
      let (_, c) ← tagUri true 0 (c.skipWhile isBlank)
      if !endsWord c.peek? then throw .badDirective
      pure (Token.tagHandle handle, c)
    | _ => throw .badDirective
  let c := c.skipWhile isBlank
  let c := if c.at? '#' then c.skipWhile (!isBreak ·) else c
  if !c.rest.isEmpty && !c.peek?.any isBreak then throw .badDirective
  pure (token, c.skip)

end MediaPipeline.Yaml
