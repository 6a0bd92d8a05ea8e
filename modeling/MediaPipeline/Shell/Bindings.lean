import MediaPipeline.Shell.Script

/-!
The variables of a shell. A value is a text, a list whose elements have numbers, or a table whose
elements have texts as keys; a variable may also be known without a value.
-/

namespace MediaPipeline.Shell

inductive Value where
  | text (t : Octets)
  | items (es : List (Nat × Octets))
  | table (es : List (Octets × Octets))

/-- Where a sequence of numbers has come to that seem to be drawn at random. -/
structure Chance where
  state : Nat
  number : Nat := 0
  deriving DecidableEq

namespace Chance

def next (state : Nat) : Nat :=
  let n : Int := if state = 0 then 123459876 else state
  let high := n / 127773
  let low := n - 127773 * high
  let m := 16807 * low - 2836 * high
  (if m < 0 then m + 2147483647 else m).toNat

def drawOnce (c : Chance) : Chance :=
  let state := next c.state
  ⟨state, ((state >>> 16) ^^^ (state % 65536)) % 32768⟩

def draw (c : Chance) : Chance :=
  let d := c.drawOnce
  if d.number = c.number then d.drawOnce else d

end Chance

structure Binding where
  value : Option Value := none
  /-- It is declared as a list or a table, but has not been set. -/
  hollow : Bool := false
  exported : Bool := false
  readonly : Bool := false
  integer : Bool := false
  letters : Option CaseChange := none
  reference : Bool := false
  traced : Bool := false
  chance : Option Chance := none

abbrev Bindings := List (Octets × Binding)

/-- The place that a key has among those of a table, which its hash chooses. -/
def tableOrder (key : Octets) : Nat :=
  let hash := key.foldl (fun (h : UInt32) c => (h * 16777619) ^^^ c.toNat.toUInt32) 2166136261
  hash.toNat % 1024

namespace Value

def putItem (es : List (Nat × Octets)) (n : Nat) (t : Octets) : List (Nat × Octets) :=
  es.filter (·.1 < n) ++ (n, t) :: es.filter (n < ·.1)

/-- Puts an element into a table. Of elements with one place the newest comes first. -/
def putEntry (es : List (Octets × Octets)) (key t : Octets) : List (Octets × Octets) :=
  if es.any (·.1 == key) then es.map fun e => if e.1 == key then (key, t) else e
  else
    let place := tableOrder key
    es.filter (fun e => tableOrder e.1 < place) ++ (key, t) ::
      es.filter fun e => place ≤ tableOrder e.1

/-- What a variable that holds a value gives where no element is asked for. -/
def text? : Value → Option Octets
  | text t => some t
  | items es => es.lookup 0
  | table es => es.lookup ['0']

def elements : Value → List Octets
  | text t => [t]
  | items es => es.map Prod.snd
  | table es => es.map Prod.snd

def keys : Value → List Octets
  | text _ => [['0']]
  | items es => es.map fun e => Octets.ofNat e.1
  | table es => es.map Prod.fst

def toItems : Option Value → List (Nat × Octets)
  | some (text t) => [(0, t)]
  | some (items es) => es
  | _ => []

end Value

namespace Bindings

def find? (bs : Bindings) (name : Octets) : Option Binding :=
  bs.lookup name

def get (bs : Bindings) (name : Octets) : Binding :=
  (bs.find? name).getD {}

/-- Changes what is known of a variable. A new one goes to the end. -/
def update (bs : Bindings) (name : Octets) (change : Binding → Binding) : Bindings :=
  if bs.any (·.1 == name) then bs.map fun b => if b.1 == name then (name, change b.2) else b
  else bs ++ [(name, change {})]

def remove (bs : Bindings) (name : Octets) : Bindings :=
  bs.filter (·.1 != name)

def restore (bs : Bindings) (name : Octets) : Option Binding → Bindings
  | some b => bs.update name fun _ => b
  | none => bs.remove name

def text? (bs : Bindings) (name : Octets) : Option Octets :=
  ((bs.get name).value).bind Value.text?

/-- Sets a variable to a text: in a list or a table that is its first element. One that gives numbers
drawn at random goes on from the number that the text denotes. -/
def setText (bs : Bindings) (name t : Octets) : Bindings :=
  bs.update name fun b =>
    match b.chance with
    | some c =>
      let isNumber := !t.isEmpty && t.all Char.isDigit
      { b with chance := some (if isNumber then ⟨natural t % 4294967296, 0⟩ else c) }
    | none => { b with hollow := false, value := match b.value with
      | some (.items es) => some (.items (Value.putItem es 0 t))
      | some (.table es) => some (.table (Value.putEntry es ['0'] t))
      | _ => some (.text t) }

def draw (bs : Bindings) (name : Octets) : Bindings :=
  if (bs.get name).chance.isNone then bs
  else bs.update name fun b => { b with chance := b.chance.map Chance.draw }

def target (bs : Bindings) : Nat → Octets → Octets
  | 0, name => name
  | fuel + 1, name =>
    let b := bs.get name
    match b.reference, b.value with
    | true, some (.text other) => if other.isEmpty then name else target bs fuel other
    | _, _ => name

def environment (bs : Bindings) : List (Octets × Octets) :=
  bs.filterMap fun (name, b) =>
    match b.exported, b.value with
    | true, some (.text t) => some (name, t)
    | _, _ => none

end Bindings

end MediaPipeline.Shell
