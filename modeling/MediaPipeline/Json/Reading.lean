import MediaPipeline.Json.Number
import MediaPipeline.Json.Tree
import MediaPipeline.Text.Quoted

/-!
Reading values of a known type from a document. Every reader names what it expects; what it finds
instead is part of the error.
-/

namespace MediaPipeline.Json

inductive Found where
  | null
  | boolean (b : Bool)
  | number (n : Number)
  | text (s : String)
  | list
  | object

def Number.describe : Number → String
  | unsigned n => "integer `" ++ toString n ++ "`"
  | negative n => "integer `-" ++ toString n ++ "`"
  | float x => "floating point `" ++ Decimal.text Decimal.document x ++ "`"

def Found.describe : Found → String
  | null => "null"
  | boolean b => "boolean `" ++ toString b ++ "`"
  | number n => n.describe
  | text s => "string " ++ Text.quoted s
  | list => "sequence"
  | object => "map"

/-- Why a document does not hold what is read from it. -/
inductive ReadError where
  | malformed (fault : Fault)
  | invalidType (found : Found) (expected : String)
  /-- A number of the right type outside the range. -/
  | invalidValue (number : Number) (expected : String)
  /-- A list with too few items to stand for a record. -/
  | invalidLength (length : Nat) (expected : String)
  | missingField (name : String)
  | duplicateField (name : String)
  | unknownVariant (word : String) (known : List String)

def ReadError.message : ReadError → String
  | malformed fault => fault.message
  | invalidType found expected => "invalid type: " ++ found.describe ++ ", expected " ++ expected
  | invalidValue n expected => "invalid value: " ++ n.describe ++ ", expected " ++ expected
  | invalidLength n expected => "invalid length " ++ toString n ++ ", expected " ++ expected
  | missingField name => "missing field `" ++ name ++ "`"
  | duplicateField name => "duplicate field `" ++ name ++ "`"
  | unknownVariant word known =>
    "unknown variant `" ++ word ++ "`, expected one of " ++
      String.intercalate ", " (known.map fun k => "`" ++ k ++ "`")

abbrev Reader (α : Type) := Value → Except ReadError α

/-- The outcome of a step that can only meet damage. -/
def orMalformed {α : Type} : Except Fault α → Except ReadError α
  | .ok a => .ok a
  | .error f => .error (.malformed f)

/-- The error of a reader that expects something else than the value in front of it. Texts and
numbers are read first, and lists and objects are not looked into. -/
def mismatch (expected : String) : Value → ReadError
  | .null => .invalidType .null expected
  | .boolean b => .invalidType (.boolean b) expected
  | .number numeral => match Number.ofText numeral with
    | .ok n => .invalidType (.number n) expected
    | .error f => .malformed f
  | .text spelling => match spelling.read with
    | .ok s => .invalidType (.text s) expected
    | .error f => .malformed f
  | .list _ => .invalidType .list expected
  | .object _ => .invalidType .object expected
  | .broken read _ _ => .malformed read

namespace Reader

def text : Reader String
  | .text spelling => orMalformed spelling.read
  | v => .error (v.mismatch "a string")

def boolean : Reader Bool
  | .boolean b => .ok b
  | v => .error (v.mismatch "a boolean")

/-- An integer from zero up to and excluding `bound`. -/
def natural (bound : Nat) (expected : String) : Reader Nat
  | .number numeral => do
    let n ← orMalformed (Number.ofText numeral)
    match n with
    | .unsigned k =>
      if k.toNat < bound then .ok k.toNat else .error (.invalidValue n expected)
    | .negative _ => .error (.invalidValue n expected)
    | .float _ => .error (.invalidType (.number n) expected)
  | v => .error (v.mismatch expected)

def unsigned32 : Reader UInt32 :=
  fun v => UInt32.ofNat <$> natural UInt32.size "u32" v

def unsigned64 : Reader UInt64 :=
  fun v => UInt64.ofNat <$> natural UInt64.size "u64" v

def size : Reader UInt64 :=
  fun v => UInt64.ofNat <$> natural UInt64.size "usize" v

/-- A floating-point number; integers are taken too. -/
def float : Reader Float
  | .number numeral => Number.toFloat <$> orMalformed (Number.ofText numeral)
  | v => .error (v.mismatch "f64")

def nullable {α : Type} (read : Reader α) : Reader (Option α)
  | .null => .ok none
  | v => some <$> read v

def items {α : Type} (read : Reader α) : Items → Except ReadError (List α)
  | .endList ending => do
    orMalformed (orFault ending.fault?)
    pure []
  | .item v rest => do
    let a ← read v
    let as ← items read rest
    pure (a :: as)

def list {α : Type} (read : Reader α) : Reader (List α)
  | .list values => items read values
  | v => .error (v.mismatch "a sequence")

def members {α : Type} (read : Reader α) : Members → Except ReadError (List (String × α))
  | .endObject ending => do
    orMalformed (orFault ending.fault?)
    pure []
  | .unnamed => .error (.malformed .keyNotText)
  | .member key v rest => do
    let name ← orMalformed key.read
    let a ← read v
    let others ← members read rest
    pure ((name, a) :: others)

/-- Keeps the last value of each name. -/
def lastOfEach {α : Type} : List (String × α) → List (String × α)
  | [] => []
  | m :: rest =>
    if rest.any fun other => other.1 == m.1 then lastOfEach rest else m :: lastOfEach rest

/-- An object from any names to values. Of members with one name the last counts. -/
def map {α : Type} (read : Reader α) : Reader (List (String × α))
  | .object ms => lastOfEach <$> members read ms
  | v => .error (v.mismatch "a map")

/-- One of several words, alone or as the only key of an object whose value is null. Anything that
begins like neither is no alternative, whole or broken. -/
def variant {α : Type} (known : List (String × α)) : Reader α
  | .text spelling => do choose (← orMalformed spelling.read)
  | .object (.member key v rest) => do
    let a ← choose (← orMalformed key.read)
    match v with
    | .null => pure ()
    | v => throw (v.mismatch "unit")
    match rest with
    | .endObject .closed => pure a
    | .endObject .missing => throw (.malformed .unfinishedObject)
    | _ => throw (.malformed .valueExpected)
  | .object .unnamed => .error (.malformed .keyNotText)
  | .object (.endObject .missing) => .error (.malformed .unfinishedValue)
  | .object _ => .error (.malformed .valueExpected)
  | .broken read _ false => .error (.malformed read)
  | _ => .error (.malformed .valueExpected)
where
  choose (word : String) : Except ReadError α :=
    match known.lookup word with
    | some a => .ok a
    | none => .error (.unknownVariant word (known.map (·.1)))

end Reader

/-- Reads a whole document; nothing may follow its value. -/
def readText {α : Type} (read : Reader α) (text : String) : Except ReadError α := do
  let (value, extra) := ofText text
  let a ← read value
  if extra then throw (.malformed .trailingCharacters) else pure a

end MediaPipeline.Json
