import MediaPipeline.Json.Reading

/-!
Records in a document: objects whose members are known by name, or lists of the same fields in
their fixed order. Members with other names are stepped over. A record is read in two steps: first
every field is checked in the order in which it stands, then the values are taken by name.
-/

namespace MediaPipeline.Json

/-- What becomes of a field that a document leaves out. -/
inductive Absence where
  | refused
  /-- It is null, but a list has to hold a place for it. -/
  | null
  /-- It has a value of its own, also at the end of a list. -/
  | standard
  deriving DecidableEq

/-- A field of a record: its name, a check of its value, and what its absence means. -/
structure Field where
  name : String
  check : Value → Except ReadError Unit
  absence : Absence

namespace Field

def checked {α : Type} (read : Reader α) : Value → Except ReadError Unit :=
  fun v => (fun _ => ()) <$> read v

def required {α : Type} (name : String) (read : Reader α) : Field :=
  ⟨name, checked read, .refused⟩

def nullable {α : Type} (name : String) (read : Reader α) : Field :=
  ⟨name, checked (Reader.nullable read), .null⟩

/-- A field that may be left out but not null. -/
def standard {α : Type} (name : String) (read : Reader α) : Field :=
  ⟨name, checked read, .standard⟩

end Field

structure Record where
  name : String
  fields : List Field

abbrev Record.Values := List (String × Value)

namespace Record

/-- Checks the members that are left of an object, given the names seen before. -/
def readMembers (fields : List Field) : List String → Members → Except ReadError Values
  | seen, .endObject ending => do
    orMalformed (orFault ending.fault?)
    match fields.find? fun f => f.absence == .refused && !seen.contains f.name with
    | some f => throw (.missingField f.name)
    | none => pure []
  | _, .unnamed => .error (.malformed .keyNotText)
  | seen, .member key v rest => do
    let name ← orMalformed key.read
    match fields.find? fun f => f.name == name with
    | none => do
      orMalformed v.skip
      readMembers fields seen rest
    | some f => do
      if seen.contains name then throw (.duplicateField name)
      f.check v
      let values ← readMembers fields (name :: seen) rest
      pure ((name, v) :: values)

def readItems (r : Record) : List Field → Items → Except ReadError Values
  | [], .endList ending => do
    orMalformed (orFault ending.closingFault?)
    pure []
  | [], .item .. => .error (.malformed .trailingCharacters)
  | f :: fields, .item v rest => do
    f.check v
    let values ← readItems r fields rest
    pure ((f.name, v) :: values)
  | f :: fields, .endList ending => do
    orMalformed (orFault ending.fault?)
    match (f :: fields).findIdx? fun f => f.absence != .standard with
    | none => pure []
    | some i =>
      let count := r.fields.length
      throw (.invalidLength (count - (fields.length + 1) + i)
        ("struct " ++ r.name ++ " with " ++ toString count ++
          (if count = 1 then " element" else " elements")))

def read (r : Record) : Reader Values
  | .object members => readMembers r.fields [] members
  | .list items => readItems r r.fields items
  | v => .error (v.mismatch ("struct " ++ r.name))

namespace Values

def required {α : Type} (values : Values) (name : String) (read : Reader α) :
    Except ReadError α :=
  match values.lookup name with
  | some v => read v
  | none => .error (.missingField name)

def nullable {α : Type} (values : Values) (name : String) (read : Reader α) :
    Except ReadError (Option α) :=
  match values.lookup name with
  | some v => Reader.nullable read v
  | none => .ok none

def standard {α : Type} (values : Values) (name : String) (read : Reader α) (absent : α) :
    Except ReadError α :=
  match values.lookup name with
  | some v => read v
  | none => .ok absent

end Values

end Record

end MediaPipeline.Json
