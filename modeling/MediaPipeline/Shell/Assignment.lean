import MediaPipeline.Shell.Calculation
import MediaPipeline.Shell.Made

/-!
Setting variables: whole ones, elements of lists and tables, with what their attributes make of a
value.
-/

namespace MediaPipeline.Shell

structure ListElement where
  key : Option Octets := none
  append : Bool := false
  text : Octets
  writtenKey : Octets := []

/-- What is said of a fault in an expression of the extended dialect. -/
def CalculationFault.text : CalculationFault → Octets
  | message expression what token =>
    expression ++ ": ".toList ++ what.toList ++ " (error token is \"".toList ++ token ++ "\")".toList
  | unset name => name ++ ": unbound variable".toList
  | protectedName name => name ++ ": readonly variable".toList

namespace Session

/-- The variables with the values of those that are made and that a text names. -/
def withMade (m : Machine) (text : Octets) : List Octets × Bindings :=
  let words := text.splitBy fun a b => isNameChar a == isNameChar b
  let names := (madeTexts.map String.toList).filter words.contains
  (names, names.foldl (fun bs name => bs.update name fun b =>
    { b with value := m.made? (String.ofList name) }) m.bindings)

def tryCalculate (text : Octets) : Session (Except CalculationFault Int64) :=
  modifyGet fun m =>
    let (made, bindings) := withMade m text
    let (result, bindings) := calculate bindings (m.hasFlag 'u') text
    let bindings := made.foldl (fun bs name => bs.restore name (m.bindings.find? name)) bindings
    (result, { m with bindings })

/-- Ends the shell because of an expression; `front` stands in front of the message. -/
def refuseCalculation {α : Type} (front : Octets) (f : CalculationFault) : Session α := do
  complain (front ++ f.text)
  match f with
  | .unset _ => throw (if (← get).hasFlag 'e' then .exit 1 else .valueless)
  | _ => throw (.fault 1)

def arithmetic (text : Octets) : Session Int64 := do
  let m ← get
  match m.dialect with
  | .standard =>
    match arithmeticValue m.bindings text with
    | .ok (n, bindings) => do
      set { m with bindings }
      pure n
    | .error f => abort (f.message text)
  | .extended =>
    match ← tryCalculate text with
    | .ok n => pure n
    | .error f => refuseCalculation [] f

def targetName (name : Octets) : Session Octets :=
  return (← get).bindings.target 10 name

def inCase (change : CaseChange) (text : Octets) : Octets :=
  match change with
  | .upper => Octets.ofCharacters (text.characters.map Letter.upper)
  | .lower => Octets.ofCharacters (text.characters.map Letter.lower)
  | .toggle => match text.characters with
    | c :: rest => Octets.ofCharacters (Letter.upper c :: rest.map Letter.lower)
    | [] => []

/-- What becomes of a text that is assigned to a variable, with what it holds so far where the text
is added to that. -/
def assigned (b : Binding) (old : Option Octets) (text : Octets) : Session Octets := do
  let joined ← match b.integer, old with
    | true, some old => do
      let before ← arithmetic old
      let more ← arithmetic text
      pure (Octets.ofInt (before + more).toInt)
    | true, none => do
      let n ← arithmetic text
      pure (Octets.ofInt n.toInt)
    | false, some old => pure (old ++ text)
    | false, none => pure text
  pure (match b.letters with
    | some change => inCase change joined
    | none => joined)

def noticed (name : Octets) (m : Machine) : Machine :=
  let m := if m.hasFlag 'a' then
    { m with bindings := m.bindings.update name fun b => { b with exported := true } } else m
  if name == "OPTIND".toList then { m with optionOffset := 0 }
  else if name == "PATH".toList then { m with remembered := [] }
  else if name == "SECONDS".toList && !m.isStandard then
    { m with counted := 1000000 * (natural ((m.bindings.text? name).getD [])) - m.clock }
  else if name == "BASH_ARGV0".toList && !m.isStandard then
    { m with name := (m.bindings.text? name).getD [] }
  else m

def badIndex {α : Type} (shown : Octets) : Session α :=
  abort (shown ++ ": bad array subscript".toList)

/-- The number of an element from its index; a negative one counts from the end. There may be none. -/
def elementNumber? (b : Binding) (index : Octets) : Session (Option Nat) := do
  let n := (← arithmetic index).toInt
  let length : Nat := match b.value with
    | some (.items es) => (es.getLast?.map fun e => e.1 + 1).getD 0
    | _ => 0
  let n := if n < 0 then (length : Int) + n else n
  pure (if n < 0 then none else some n.toNat)

def elementNumber (name : Octets) (b : Binding) (index : Octets) : Session Nat := do
  match ← elementNumber? b index with
  | some n => if n < Nat.pow 2 63 - 1 then pure n else badIndex (name ++ '[' :: index ++ [']'])
  | none => badIndex (name ++ '[' :: index ++ [']'])

def assignElement (name index text : Octets) (append : Bool) : Session Unit := do
  let name ← targetName name
  let b := (← get).bindings.get name
  if b.readonly then refuseProtected name
  match b.value with
  | some (.table es) => do
    let old := if append then some ((es.lookup index).getD []) else none
    let text ← assigned b old text
    modify fun m => noticed name { m with bindings := m.bindings.update name fun b =>
      { b with hollow := false, value := some (.table (Value.putEntry es index text)) } }
  | value => do
    let n ← elementNumber name b index
    let es := Value.toItems value
    let old := if append then some ((es.lookup n).getD []) else none
    let text ← assigned b old text
    modify fun m => noticed name { m with bindings := m.bindings.update name fun b =>
      { b with hollow := false, value := some (.items (Value.putItem es n text)) } }

def elementOf? (text : Octets) : Option (Octets × Octets) :=
  let base := text.takeWhile (· != '[')
  if base.length < text.length && text.getLast? == some ']' && isName base then
    some (base, (text.drop (base.length + 1)).dropLast)
  else none

def assignText (name text : Octets) (append : Bool) : Session Unit := do
  let name ← targetName name
  match elementOf? name with
  | some (base, key) => assignElement base key text append
  | none => do
    let b := (← get).bindings.get name
    if b.readonly then refuseProtected name
    let old := if append then some ((b.value.bind Value.text?).getD []) else none
    let text ← assigned b old text
    modify fun m => noticed name { m with bindings := m.bindings.setText name text }

def assign (name text : Octets) : Session Unit :=
  assignText name text false

def inPairs : List Octets → List (Octets × Octets)
  | key :: value :: rest => (key, value) :: inPairs rest
  | [key] => [(key, [])]
  | [] => []

/-- Puts elements into a table. If the first has no key, keys and values take turns; otherwise the
elements without a key are refused. With `quotes` they are shown in quotes. -/
def assignEntries (name : Octets) (b : Binding) (quotes : Bool)
    (start : List (Octets × Octets)) (elements : List ListElement) :
    Session (List (Octets × Octets)) := do
  if elements.head?.any fun x => x.key.isNone then
    return (inPairs (elements.map ListElement.text)).foldl (fun es (key, t) =>
      Value.putEntry es key t) start
  else
    let shown (t : Octets) : Octets := if quotes then Quoting.single t else t
    elements.foldlM (fun es x => do
      match x.key with
      | some [] => do
        let key := if quotes then shown [] else x.writtenKey
        complain ('[' :: key ++ "]=".toList ++ shown x.text ++ ": bad array subscript".toList)
        pure es
      | some key => do
        let old := if x.append then some ((es.lookup key).getD []) else none
        return Value.putEntry es key (← assigned b old x.text)
      | none => do
        complain (name ++ ": ".toList ++ shown x.text ++
          ": must use subscript when assigning associative array".toList)
        pure es) start

/-- Puts elements into a list. An element without a key follows the one before it. -/
def assignListed (b : Binding) (start : List (Nat × Octets))
    (elements : List ListElement) : Session (List (Nat × Octets)) := do
  let first : Nat := (start.getLast?.map fun e => e.1 + 1).getD 0
  let (result, _) ← elements.foldlM (fun (es, n) x => do
    let place ← match x.key with
      | some [] => pure none
      | some k => elementNumber? { b with value := some (.items es) } k
      | none => pure (some n)
    match place with
    | none => do
      complain ('[' :: x.key.getD [] ++ "]=".toList ++ x.text ++ ": bad array subscript".toList)
      pure (es, n)
    | some n => do
      let old := if x.append then some ((es.lookup n).getD []) else none
      let t ← assigned b old x.text
      pure (Value.putItem es n t, n + 1)) (start, first)
  pure result

def assignItems (name : Octets) (elements : List ListElement) (append : Bool)
    (quotes : Bool := false) : Session Unit := do
  let name ← targetName name
  let b := (← get).bindings.get name
  if b.readonly then refuseProtected name
  let value ← match b.value with
    | some (.table es) => do
      pure (.table (← assignEntries name b quotes (if append then es else []) elements))
    | value => do
      pure (.items (← assignListed b (if append then Value.toItems value else []) elements))
  modify fun m => { m with bindings := m.bindings.update name fun b =>
    { b with hollow := false, value := some value } }

def removeElement (name index : Octets) : Session Unit := do
  let name ← targetName name
  let b := (← get).bindings.get name
  match b.value with
  | some (.table es) =>
    modify fun m => { m with bindings := m.bindings.update name fun b =>
      { b with value := some (.table (es.filter (·.1 != index))) } }
  | some (.items es) => do
    let n ← elementNumber name b index
    modify fun m => { m with bindings := m.bindings.update name fun b =>
      { b with value := some (.items (es.filter (·.1 != n))) } }
  | _ => pure ()

end Session

end MediaPipeline.Shell
