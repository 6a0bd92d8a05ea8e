import MediaPipeline.Yaml.Scanner

/-!
Nodes of YAML documents. A node is read from tokens together with the anchors known so far. Each
anchor has a number: how many names were known when it was declared. A name that is declared anew
gets a new number, so a later anchor can get that number too. An alias stands for the number of its
name, and means the node that was given this number last in the whole document.
-/

namespace MediaPipeline.Yaml

inductive Target where
  | scalar (text : String)
  | collection

inductive Node where
  | scalar (text : String) (plain : Bool)
  | sequence (items : List Node)
  | mapping (members : List (Node × Node))
  | reference (number : Nat)

/-- A document: its node, and what the numbers of anchors stand for. -/
structure Document where
  root : Node
  /-- Later declarations come first. -/
  targets : List (Nat × Target)

def Document.text? (d : Document) : Node → Option String
  | .scalar text _ => some text
  | .reference number => match d.targets.lookup number with
    | some (.scalar text) => some text
    | _ => none
  | _ => none

def Node.empty : Node :=
  .scalar "" true

/-- Tokens that are still to be read, with the anchors and the tag handles declared so far. -/
structure Reading where
  tokens : List Token
  handles : List String
  anchors : List (String × Nat) := []
  targets : List (Nat × Target) := []

namespace Reading

def next? (r : Reading) : Option Token :=
  r.tokens.head?

def skip (r : Reading) : Reading :=
  { r with tokens := r.tokens.tail }

def at? (r : Reading) (t : Token) : Bool :=
  r.next? == some t

/-- Whether one of several tokens comes next. -/
def atAny (r : Reading) (ts : List Token) : Bool :=
  ts.any r.at?

def declare (r : Reading) (anchor : Option String) (target : Target) : Reading :=
  match anchor with
  | some name =>
    let number := r.anchors.length
    { r with anchors := (name, number) :: r.anchors.filter (·.1 != name)
             targets := (number, target) :: r.targets }
  | none => r

/-- What stands before the content of a node. -/
structure Properties where
  anchor : Option String := none
  tagged : Bool := false

def Properties.any (p : Properties) : Bool :=
  p.anchor.isSome || p.tagged

def checkHandle (r : Reading) : Option String → Except Fault Unit
  | none => .ok ()
  | some h => if r.handles.contains h then .ok () else .error .unknownTagHandle

/-- Reads the properties of a node: an anchor and a tag in either order. -/
def properties (r : Reading) : Except Fault (Properties × Reading) :=
  match r.tokens with
  | .anchor a :: .tag h :: rest => do
    r.checkHandle h
    pure (⟨some a, true⟩, { r with tokens := rest })
  | .tag h :: .anchor a :: rest => do
    r.checkHandle h
    pure (⟨some a, true⟩, { r with tokens := rest })
  | .anchor a :: rest => .ok (⟨some a, false⟩, { r with tokens := rest })
  | .tag h :: rest => do
    r.checkHandle h
    pure (⟨none, true⟩, { r with tokens := rest })
  | _ => .ok ({}, r)

end Reading

open Reading

/-- Where a node stands: a block collection may start there, or only a flow collection; and a
sequence may start there without an indentation of its own. -/
structure Place where
  block : Bool
  indentless : Bool

mutual

def readNode : Nat → Place → Reading → Except Fault (Node × Reading)
  | 0, _, _ => .error .unexpectedToken
  | fuel + 1, place, r =>
    match r.next? with
    | some (.reference name) =>
      match r.anchors.lookup name with
      | some number => .ok (.reference number, r.skip)
      | none => .error .unknownAlias
    | _ => do
      let (p, r) ← r.properties
      match r.next? with
      | some (.scalar text plain) =>
        pure (.scalar text plain, (r.skip).declare p.anchor (.scalar text))
      | some .flowSequenceStart =>
        let (items, r) ← readFlowItems fuel true (r.skip.declare p.anchor .collection)
        pure (.sequence items, r)
      | some .flowMappingStart =>
        let (members, r) ← readFlowMembers fuel true (r.skip.declare p.anchor .collection)
        pure (.mapping members, r)
      | t =>
        if place.indentless && t == some .blockEntry then do
          let (items, r) ← readIndentless fuel (r.declare p.anchor .collection)
          pure (.sequence items, r)
        else if place.block && t == some .blockSequenceStart then do
          let (items, r) ← readBlockItems fuel (r.skip.declare p.anchor .collection)
          pure (.sequence items, r)
        else if place.block && t == some .blockMappingStart then do
          let (members, r) ← readBlockMembers fuel (r.skip.declare p.anchor .collection)
          pure (.mapping members, r)
        else if p.any then pure (.empty, r.declare p.anchor (.scalar ""))
        else throw .unexpectedToken

/-- Reads a node, or none where one of the tokens comes that may follow it. -/
def readOptional : Nat → Place → List Token → Reading → Except Fault (Node × Reading)
  | 0, _, _, _ => .error .unexpectedToken
  | fuel + 1, place, followers, r =>
    if r.atAny followers then .ok (.empty, r) else readNode fuel place r

def readBlockItems : Nat → Reading → Except Fault (List Node × Reading)
  | 0, _ => .error .unexpectedToken
  | fuel + 1, r =>
    match r.next? with
    | some .blockEntry => do
      let (item, r) ← readOptional fuel ⟨true, false⟩ [.blockEntry, .blockEnd] r.skip
      let (items, r) ← readBlockItems fuel r
      pure (item :: items, r)
    | some .blockEnd => .ok ([], r.skip)
    | _ => .error .unexpectedToken

/-- Reads the items of a sequence at the column of the mapping around it. -/
def readIndentless : Nat → Reading → Except Fault (List Node × Reading)
  | 0, _ => .error .unexpectedToken
  | fuel + 1, r =>
    match r.next? with
    | some .blockEntry => do
      let (item, r) ←
        readOptional fuel ⟨true, false⟩ [.blockEntry, .key, .value, .blockEnd] r.skip
      let (items, r) ← readIndentless fuel r
      pure (item :: items, r)
    | _ => .ok ([], r)

def readBlockMembers : Nat → Reading → Except Fault (List (Node × Node) × Reading)
  | 0, _ => .error .unexpectedToken
  | fuel + 1, r =>
    let followers := [Token.key, .value, .blockEnd]
    match r.next? with
    | some .key => do
      let (key, r) ← readOptional fuel ⟨true, true⟩ followers r.skip
      let (value, r) ←
        if r.at? .value then readOptional fuel ⟨true, true⟩ followers r.skip
        else pure (.empty, r)
      let (members, r) ← readBlockMembers fuel r
      pure ((key, value) :: members, r)
    | some .blockEnd => .ok ([], r.skip)
    | _ => .error .unexpectedToken

def readFlowItems : Nat → Bool → Reading → Except Fault (List Node × Reading)
  | 0, _, _ => .error .unexpectedToken
  | fuel + 1, first, r =>
    if r.at? .flowSequenceEnd then .ok ([], r.skip)
    else do
      let r ← if first then pure r else if r.at? .flowEntry then pure r.skip
        else throw .unexpectedToken
      match r.next? with
      | some .flowSequenceEnd => pure ([], r.skip)
      | some .key =>
        let (member, r) ← readFlowPair fuel r.skip
        let (items, r) ← readFlowItems fuel false r
        pure (.mapping [member] :: items, r)
      | _ =>
        let (item, r) ← readNode fuel ⟨false, false⟩ r
        let (items, r) ← readFlowItems fuel false r
        pure (item :: items, r)

/-- Reads a key and its value inside a flow sequence. A key that is left out takes the token that
follows with it. -/
def readFlowPair : Nat → Reading → Except Fault ((Node × Node) × Reading)
  | 0, _ => .error .unexpectedToken
  | fuel + 1, r => do
    let (key, r) ←
      if r.atAny [.value, .flowEntry, .flowSequenceEnd] then pure (.empty, r.skip)
      else readNode fuel ⟨false, false⟩ r
    let (value, r) ←
      if r.at? .value then
        readOptional fuel ⟨false, false⟩ [.flowEntry, .flowSequenceEnd] r.skip
      else pure (.empty, r)
    pure ((key, value), r)

def readFlowMembers : Nat → Bool → Reading → Except Fault (List (Node × Node) × Reading)
  | 0, _, _ => .error .unexpectedToken
  | fuel + 1, first, r =>
    if r.at? .flowMappingEnd then .ok ([], r.skip)
    else do
      let r ← if first then pure r else if r.at? .flowEntry then pure r.skip
        else throw .unexpectedToken
      match r.next? with
      | some .flowMappingEnd => pure ([], r.skip)
      | some .key =>
        let (key, r) ← readOptional fuel ⟨false, false⟩ [.value, .flowEntry, .flowMappingEnd] r.skip
        let (value, r) ←
          if r.at? .value then
            readOptional fuel ⟨false, false⟩ [.flowEntry, .flowMappingEnd] r.skip
          else pure (.empty, r)
        let (members, r) ← readFlowMembers fuel false r
        pure ((key, value) :: members, r)
      | _ =>
        let (key, r) ← readNode fuel ⟨false, false⟩ r
        let (members, r) ← readFlowMembers fuel false r
        pure ((key, .empty) :: members, r)

end

/-! ### Documents -/

def readDirectives : List Token → Bool → List String → Except Fault (List Token × List String)
  | .version major minor :: rest, seen, handles =>
    if seen || major != 1 || !(minor == 1 || minor == 2) then .error .badDirective
    else readDirectives rest true handles
  | .tagHandle h :: rest, seen, handles =>
    if handles.contains h then .error .badDirective
    else readDirectives rest seen (h :: handles)
  | rest, _, handles => .ok (rest, handles)

def standardHandles : List String :=
  ["!", "!!"]

/-- Checks that nothing follows a document but the marks of its end. -/
def onlyEnds (ts : List Token) : Except Fault Unit :=
  if ts.all (· == .documentEnd) then .ok () else .error .severalDocuments

def Document.ofTokens (ts : List Token) : Except Fault (Option Document) :=
  let place : Place := ⟨true, false⟩
  let fuel := 4 * ts.length + 4
  match ts with
  | [] => .ok none
  | .version .. :: _ | .tagHandle _ :: _ | .documentStart :: _ => do
    let (ts, handles) ← readDirectives ts false []
    match ts with
    | .documentStart :: ts =>
      let r : Reading := { tokens := ts, handles := handles ++ standardHandles }
      let atEnd := match r.next? with
        | none | some .documentStart | some .documentEnd | some (.version ..)
        | some (.tagHandle _) => true
        | _ => false
      let (node, r) ← if atEnd then pure (.empty, r) else readNode fuel place r
      onlyEnds r.tokens
      pure (some ⟨node, r.targets⟩)
    | _ => throw .unexpectedToken
  | ts => do
    let (node, r) ← readNode fuel place { tokens := ts, handles := standardHandles }
    onlyEnds r.tokens
    pure (some ⟨node, r.targets⟩)

def Document.ofText (text : String) : Except Fault (Option Document) := do
  Document.ofTokens (← tokens text)

end MediaPipeline.Yaml
