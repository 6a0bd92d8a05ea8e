import MediaPipeline.Json.Token

/-!
Documents as trees. A tree is one family indexed by the part it stands for: a value, what is left
of a list, or what is left of an object. Damage stays where it was met: a value may be broken, and
a list or an object may end in the wrong way. A reader goes from left to right and reports the
first damage it comes to, so what lies behind it is dropped.
-/

namespace MediaPipeline

namespace Json

inductive Part where
  | value
  | items
  | members

inductive ListEnd where
  | closed
  /-- The bracket closes right after a comma. -/
  | trailingComma
  | missingItem
  /-- Something else stands where a comma or the bracket is due. -/
  | missingComma
  | missing
  deriving DecidableEq

inductive ObjectEnd where
  | closed
  | trailingComma
  | missingMember
  | missingComma
  | missing
  deriving DecidableEq

def ListEnd.fault? : ListEnd → Option Fault
  | closed => none
  | trailingComma => some .trailingComma
  | missingItem => some .unfinishedValue
  | missingComma => some .listCommaExpected
  | missing => some .unfinishedList

/-- The fault met by a reader that steps over the list. -/
def ListEnd.skipFault? : ListEnd → Option Fault
  | trailingComma => some .valueExpected
  | e => e.fault?

/-- The fault met by a reader that has all the items it wants. -/
def ListEnd.closingFault? : ListEnd → Option Fault
  | closed => none
  | trailingComma => some .trailingComma
  | missing => some .unfinishedList
  | missingItem | missingComma => some .trailingCharacters

def ObjectEnd.fault? : ObjectEnd → Option Fault
  | closed => none
  | trailingComma => some .trailingComma
  | missingMember => some .unfinishedValue
  | missingComma => some .objectCommaExpected
  | missing => some .unfinishedObject

/-- The fault met by a reader that steps over the object. -/
def ObjectEnd.skipFault? : ObjectEnd → Option Fault
  | trailingComma => some .keyNotText
  | missingMember => some .unfinishedObject
  | e => e.fault?

end Json

open Json in
inductive Json : Part → Type where
  | null : Json .value
  | boolean (b : Bool) : Json .value
  | number (text : List Char) : Json .value
  | text (spelling : Spelling) : Json .value
  | list (items : Json .items) : Json .value
  | object (members : Json .members) : Json .value
  | broken (read skipped : Fault) (scalar : Bool) : Json .value
  | endList (ending : ListEnd) : Json .items
  | item (value : Json .value) (rest : Json .items) : Json .items
  | endObject (ending : ObjectEnd) : Json .members
  /-- Something other than a text stands where a key is due. -/
  | unnamed : Json .members
  | member (key : Spelling) (value : Json .value) (rest : Json .members) : Json .members

namespace Json

/-- A document or a part of it that a reader stands in front of. -/
abbrev Value := Json .value

abbrev Items := Json .items

abbrev Members := Json .members

/-! ### From tokens to trees

A value and the list or object it opens take one unit of fuel each, and every value takes a token,
so twice as many units as there are tokens do not run out. -/

mutual

def takeValue : Nat → List Token → Value × List Token
  | fuel + 1, t :: rest =>
    match t with
    | .null => (.null, rest)
    | .boolean b => (.boolean b, rest)
    | .number numeral => (.number numeral, rest)
    | .text spelling => (.text spelling, rest)
    | .openBracket =>
      match rest with
      | [] => (.list (.endList .missing), [])
      | .closeBracket :: rest => (.list (.endList .closed), rest)
      | rest =>
        let (items, rest) := takeItems fuel rest
        (.list items, rest)
    | .openBrace =>
      match rest with
      | [] => (.object (.endObject .missing), [])
      | .closeBrace :: rest => (.object (.endObject .closed), rest)
      | rest =>
        let (members, rest) := takeMembers fuel rest
        (.object members, rest)
    | .broken read skipped scalar => (.broken read skipped scalar, [])
    | _ => (.broken .valueExpected .valueExpected false, [])
  | _, _ => (.broken .unfinishedValue .unfinishedValue false, [])

/-- The items of a list from one that is due, and the tokens behind the list. -/
def takeItems : Nat → List Token → Items × List Token
  | fuel + 1, tokens =>
    let (value, rest) := takeValue fuel tokens
    match rest with
    | .comma :: .closeBracket :: rest => (.item value (.endList .trailingComma), rest)
    | [.comma] => (.item value (.endList .missingItem), [])
    | .comma :: rest =>
      let (items, rest) := takeItems fuel rest
      (.item value items, rest)
    | .closeBracket :: rest => (.item value (.endList .closed), rest)
    | [] => (.item value (.endList .missing), [])
    | _ => (.item value (.endList .missingComma), [])
  | 0, _ => (.endList .missing, [])

/-- The members of an object from one that is due, and the tokens behind the object. -/
def takeMembers : Nat → List Token → Members × List Token
  | fuel + 1, .text key :: .colon :: tokens =>
    let (value, rest) := takeValue fuel tokens
    match rest with
    | .comma :: .closeBrace :: rest => (.member key value (.endObject .trailingComma), rest)
    | [.comma] => (.member key value (.endObject .missingMember), [])
    | .comma :: rest =>
      let (members, rest) := takeMembers fuel rest
      (.member key value members, rest)
    | .closeBrace :: rest => (.member key value (.endObject .closed), rest)
    | [] => (.member key value (.endObject .missing), [])
    | _ => (.member key value (.endObject .missingComma), [])
  | _ + 1, [.text key] =>
    (.member key (.broken .unfinishedObject .unfinishedObject false) (.endObject .missing), [])
  | _ + 1, .text key :: _ =>
    (.member key (.broken .colonExpected .colonExpected false) (.endObject .missing), [])
  | _ + 1, _ => (.unnamed, [])
  | 0, _ => (.endObject .missing, [])

end

/-- The tree of a document, and whether tokens are left behind it. -/
def ofText (text : String) : Value × Bool :=
  let tokens := Token.ofDocument text
  let (value, rest) := takeValue (2 * tokens.length + 2) tokens
  (value, !rest.isEmpty)

/-! ### Stepping over a part -/

def orFault : Option Fault → Except Fault Unit
  | none => .ok ()
  | some f => .error f

/-- Steps over a part of a document: every lexeme is checked, but texts and numbers are not read,
and nothing bounds the depth. -/
def skip : {part : Part} → Json part → Except Fault Unit
  | _, .null | _, .boolean _ | _, .number _ => .ok ()
  | _, .text spelling => spelling.skip
  | _, .list items => items.skip
  | _, .object members => members.skip
  | _, .broken _ skipped _ => .error skipped
  | _, .endList ending => orFault ending.skipFault?
  | _, .item value rest => do
    value.skip
    rest.skip
  | _, .endObject ending => orFault ending.skipFault?
  | _, .unnamed => .error .keyNotText
  | _, .member key value rest => do
    key.skip
    value.skip
    rest.skip

/-! ### Writing -/

/-- The characters of a document without any white space; damage is not written. -/
def print : {part : Part} → Json part → List Char
  | _, .null => ['n', 'u', 'l', 'l']
  | _, .boolean true => ['t', 'r', 'u', 'e']
  | _, .boolean false => ['f', 'a', 'l', 's', 'e']
  | _, .number numeral => numeral
  | _, .text spelling => spelling.print
  | _, .list items => '[' :: items.print
  | _, .object members => '{' :: members.print
  | _, .broken .. => []
  | _, .endList _ => [']']
  | _, .item value (.endList _) => value.print ++ [']']
  | _, .item value rest => value.print ++ ',' :: rest.print
  | _, .endObject _ | _, .unnamed => ['}']
  | _, .member key value (.endObject _) => key.print ++ ':' :: value.print ++ ['}']
  | _, .member key value rest => key.print ++ ':' :: value.print ++ ',' :: rest.print

def toText (value : Value) : String :=
  String.ofList value.print

def ofString (s : String) : Value :=
  .text (.ofString s)

def ofNat (n : Nat) : Value :=
  .number (toString n).toList

def ofList (values : List Value) : Value :=
  .list (values.foldr .item (.endList .closed))

def ofMembers (members : List (String × Value)) : Value :=
  .object (members.foldr (fun m => .member (.ofString m.1) m.2) (.endObject .closed))

end Json

end MediaPipeline
