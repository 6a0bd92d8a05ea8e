import MediaPipeline.Records.Value

/-!
Tables of values by keys. A key is a text, or a number that stands for a text. The order in which the
keys of a table are listed is a part of what a table is: keys lie in a row of slots, the one that was
used last in front of the others of its slot, and the row doubles where it becomes too full. The keys
of a text that was split are the numbers from one on, until other keys are asked for.
-/

namespace MediaPipeline.Records

/-- An element of a table. Its key is known as a text, as a number, or as both. -/
structure Element where
  text : Option Octets
  number : Option Int
  value : Value := .unset
  deriving Inhabited

structure Table where
  listed : Option (Array Value) := none
  elements : Array Element := #[]
  size : Nat := 0
  /-- Which elements lie in each slot, by their texts and by their numbers. -/
  texts : Array (List Nat) := #[]
  numbers : Array (List Nat) := #[]
  hasTexts : Bool := false
  hasNumbers : Bool := false
  deriving Inhabited

inductive Key where
  | text (t : Octets)
  | number (n : Int)

namespace Table

def firstSlots : Nat := 64

/-- How many keys a slot has on average before there are more slots. -/
def fullness : Nat := 12

def scatter (t : Octets) : Nat :=
  (t.foldl (fun (h : UInt32) c => (h ^^^ c.toNat.toUInt32) * 16777619) 2166136261).toNat

def ofList (values : List Value) : Table :=
  if values.isEmpty then {} else { listed := some values.toArray, size := values.length }

def slots (t : Table) : Nat :=
  t.numbers.size

def textSlot (t : Table) (key : Octets) : Nat :=
  scatter key % t.slots

def numberSlot (t : Table) (n : Int) : Nat :=
  (n % t.slots).toNat

def slotsFor (size : Nat) : Nat → Nat → Nat
  | 0, n => n
  | fuel + 1, n => if n * fullness < size then slotsFor size fuel (2 * n) else n

/-- A table with slots. The parts of a split text come into the slots one behind the other. -/
def spread (t : Table) : Table :=
  match t.listed with
  | none =>
    if t.slots = 0 then
      { t with texts := Array.replicate firstSlots [], numbers := Array.replicate firstSlots [] }
    else t
  | some values =>
    let count := slotsFor values.size values.size firstSlots
    let elements := values.mapIdx fun i value => { text := none, number := some (i + 1), value }
    let numbers := (List.range values.size).foldl (fun (slots : Array (List Nat)) i =>
      slots.modify ((i + 1) % count) (i :: ·)) (Array.replicate count [])
    { size := t.size, elements, numbers, texts := Array.replicate count [], hasNumbers := true }

def withTexts (t : Table) : Table :=
  if t.hasTexts then t
  else
    let t := t.spread
    let t := t.numbers.toList.flatten.foldl (fun (t : Table) (i : Nat) =>
      match t.elements[i]? with
      | some ⟨none, some n, _⟩ =>
        let key := Octets.ofInt n
        let slot := t.textSlot key
        { t with elements := t.elements.modify i fun e => { e with text := some key },
                 texts := t.texts.modify slot (i :: ·) }
      | _ => t) t
    { t with hasTexts := true }

/-- Doubles the slots. What lay in a slot stays there or comes into the one as far behind it as there
were slots before. -/
def doubled (t : Table) : Table :=
  let count := 2 * t.slots
  let halves (slots : Array (List Nat)) (place : Element → Nat) : Array (List Nat) :=
    let stays (slot i : Nat) : Bool :=
      (t.elements[i]?.map fun e => place e % count == slot).getD true
    slots.mapIdx (fun slot is => is.filter (stays slot)) ++
      slots.mapIdx fun slot is => is.filter fun i => !stays slot i
  { t with
    texts := if t.hasTexts then halves t.texts fun e => scatter (e.text.getD [])
      else t.texts ++ Array.replicate t.slots []
    numbers := halves t.numbers fun e => (e.number.getD 0 % count).toNat }

/-- Adds an element that does not lie in a slot yet. -/
def push (t : Table) (e : Element) : Nat × Table :=
  let i := t.elements.size
  let size := t.size + 1
  let t := { t with elements := t.elements.push e, size }
  (i, if t.slots * fullness < t.size then t.doubled else t)

def toFront (i : Nat) (is : List Nat) : List Nat :=
  if is.head? == some i then is else i :: is.filter (· != i)

/-- The element of a text, which comes to the front; with `create` it is added where it is not
there. -/
def findText (t : Table) (key : Octets) (create : Bool) : Option Nat × Table :=
  let t := t.withTexts
  let slot := t.textSlot key
  let found := (t.texts[slot]?.getD []).find? fun i =>
    (t.elements[i]?.bind Element.text) == some key
  match found, create with
  | some i, _ => (some i, { t with texts := t.texts.modify slot (toFront i) })
  | none, false => (none, t)
  | none, true =>
    let (i, t) := t.push { text := some key, number := none }
    let slot := t.textSlot key
    (some i, { t with texts := t.texts.modify slot (i :: ·) })

def findSpreadNumber (t : Table) (n : Int) (create : Bool) : Option Nat × Table :=
  let slot := t.numberSlot n
  let found := (t.numbers[slot]?.getD []).find? fun i =>
    (t.elements[i]?.bind Element.number) == some n
  let known (i : Nat) (t : Table) : Option Nat × Table :=
    let slot := t.numberSlot n
    (some i, { t with
      elements := t.elements.modify i fun e => { e with number := some n }, hasNumbers := true
      numbers := t.numbers.modify slot (i :: ·) })
  match found with
  | some i => (some i, { t with numbers := t.numbers.modify slot (toFront i) })
  | none =>
    if t.hasTexts then
      match t.findText (Octets.ofInt n) create with
      | (some i, t) => known i t
      | (none, t) => (none, t)
    else if create then
      let (i, t) := t.push { text := none, number := some n }
      known i t
    else (none, t)

def at? (t : Table) (key : Key) (create : Bool) (change : Value → Value) : Option Value × Table :=
  if t.size = 0 && !create then (none, t)
  else
    let finish : Option Nat × Table → Option Value × Table
      | (none, t) => (none, t)
      | (some i, t) =>
        let v := t.elements[i]?.map Element.value
        (v, { t with elements := t.elements.modify i fun e => { e with value := change e.value } })
    match key, t.listed with
    | .text s, _ => finish (t.findText s create)
    | .number n, some values =>
      let i := (n - 1).toNat
      if 1 ≤ n ∧ n ≤ values.size then
        (values[i]?, { t with listed := some (values.modify i change) })
      else if create then finish (t.spread.findSpreadNumber n true)
      else (none, t)
    | .number n, none => finish (t.spread.findSpreadNumber n create)

def get (t : Table) (key : Key) : Value × Table :=
  let (v, t) := t.at? key true id
  (v.getD .unset, t)

def set (t : Table) (key : Key) (v : Value) : Table :=
  (t.at? key true fun _ => v).2

def contains (t : Table) (key : Key) : Bool × Table :=
  let (v, t) := t.at? key false id
  (v.isSome, t)

def erase (t : Table) (key : Key) : Table :=
  if t.size = 0 then t
  else
    let (found, t) := match key, t.listed with
      | .text s, _ => t.findText s false
      | .number n, some values =>
        if 1 ≤ n ∧ n ≤ values.size then t.spread.findSpreadNumber n false else (none, t)
      | .number n, none => t.spread.findSpreadNumber n false
    match found with
    | none => t
    | some i =>
      if t.size ≤ 1 then {}
      else
        let without (slots : Array (List Nat)) (slot : Option Nat) : Array (List Nat) :=
          match slot with
          | some slot => slots.modify slot fun is => is.filter (· != i)
          | none => slots
        let e := t.elements[i]?.getD default
        { t with size := t.size - 1, texts := without t.texts (e.text.map t.textSlot),
                 numbers := without t.numbers (e.number.map t.numberSlot) }

def keys (t : Table) : List Octets × Table :=
  if t.size = 0 then ([], t)
  else
    let t := t.withTexts
    (t.texts.toList.flatten.filterMap fun i => t.elements[i]?.bind Element.text, t)

end Table

end MediaPipeline.Records
