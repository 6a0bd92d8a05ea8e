import MediaPipeline.Shell.Arithmetic

/-!
Integer expressions of the extended dialect. They are evaluated while they are read, so that what
stands in front of a fault has its effects. The text of a variable is an expression itself, and a
variable may be an element of a list.
-/

namespace MediaPipeline.Shell

inductive CalculationFault where
  | message (expression : Octets) (text : String) (token : Octets)
  | unset (name : Octets)
  | protectedName (name : Octets)

inductive CalcSymbol where
  | finish
  | number
  | name
  | sign (text : String)
  deriving DecidableEq

structure CalcTarget where
  name : Octets
  index : Option Octets

structure Calculation where
  expression : Octets
  rest : Octets
  current : CalcSymbol := .finish
  last : CalcSymbol := .finish
  mark : Octets := []
  value : Int64 := 0
  target : Option CalcTarget := none
  bindings : Bindings
  setOnly : Bool
  /-- Number of parts around that are not evaluated. -/
  skipped : Nat := 0

abbrev Calculating := ExceptT CalculationFault (StateM Calculation)

namespace Calculating

def fail {α : Type} (text : String) : Calculating α := do
  let c ← get
  throw (.message (c.expression.dropWhile isBlankOctet) text c.mark)

def element? (b : Binding) (index : Octets) (number : Nat) : Option Octets :=
  match b.value with
  | some (.table es) => es.lookup index
  | some (.items es) => es.lookup number
  | some (.text t) => if number = 0 then some t else none
  | none => none

def putElement (b : Binding) (index : Octets) (number : Nat) (t : Octets) : Binding :=
  match b.value with
  | some (.table es) => { b with value := some (.table (Value.putEntry es index t)) }
  | value => { b with value := some (.items (Value.putItem (Value.toItems value) number t)) }

def digitValue (base : Nat) (c : Char) : Nat :=
  if c.isDigit then c.toNat - 48
  else if 'a' ≤ c ∧ c ≤ 'z' then c.toNat - 87
  else if 'A' ≤ c ∧ c ≤ 'Z' then if base ≤ 36 then c.toNat - 55 else c.toNat - 29
  else if c == '@' then 62
  else 63

/-- The number that a text of digits denotes; a base may stand in front of it. -/
def numeral (text : Octets) : Except String Int64 :=
  let read (base : Nat) (digits : Octets) : Except String Int64 :=
    if digits.any fun c => digitValue base c ≥ base then .error "value too great for base"
    else .ok (digits.foldl (fun (n : Int64) c =>
      n * Int64.ofNat base + Int64.ofNat (digitValue base c)) 0)
  match text.span (· != '#') with
  | (base, '#' :: digits) =>
    let b := base.foldl (fun n c => 10 * n + digitValue 10 c) 0
    if !base.all Char.isDigit then .error "value too great for base"
    else if b < 2 ∨ b > 64 then .error "invalid arithmetic base"
    else if digits.isEmpty then .error "invalid integer constant"
    else if digits.contains '#' then .error "invalid number"
    else read b digits
  | _ => match text with
    | '0' :: 'x' :: digits | '0' :: 'X' :: digits => read 16 digits
    | '0' :: digits => read 8 digits
    | digits => read 10 digits

/-- Signs of several characters, longer ones first, and then those of one. -/
def signs : List String := [
  "<<=", ">>=", "<=", ">=", "==", "!=", "&&", "||", "<<", ">>", "**", "+=", "-=", "*=", "/=", "%=",
  "&=", "^=", "|=", "+", "-", "*", "/", "%", "<", ">", "&", "^", "|", "!", "~", "?", ":", "(", ")",
  "=", ","]

def indexText : Nat → Octets → Octets → Option (Octets × Octets)
  | _, _, [] => none
  | depth, acc, c :: rest =>
    if c == '[' then indexText (depth + 1) (c :: acc) rest
    else if c == ']' then
      match depth with
      | 0 => some (acc.reverse, rest)
      | depth + 1 => indexText depth (c :: acc) rest
    else indexText depth (c :: acc) rest

def operation? : String → Option BinaryOp
  | "+" => some .add
  | "-" => some .sub
  | "*" => some .mul
  | "/" => some .div
  | "%" => some .rem
  | "<<" => some .shiftLeft
  | ">>" => some .shiftRight
  | "<" => some .lt
  | "<=" => some .le
  | ">" => some .gt
  | ">=" => some .ge
  | "==" => some .eq
  | "!=" => some .ne
  | "&" => some .bitAnd
  | "^" => some .bitXor
  | "|" => some .bitOr
  | _ => none

/-- The operation inside a sign that sets a variable. -/
def assignment? (sign : String) : Option (Option BinaryOp) :=
  if sign == "=" then some none
  else if ["+=", "-=", "*=", "/=", "%=", "<<=", ">>=", "&=", "^=", "|="].contains sign then
    (operation? (String.ofList sign.toList.dropLast)).map some
  else none

def levels : List (List String) := [
  ["||"], ["&&"], ["|"], ["^"], ["&"], ["==", "!="], ["<=", ">=", "<", ">"], ["<<", ">>"],
  ["+", "-"], ["*", "/", "%"]]

/-- A power by repeated squaring; the exponent is counted down in `fuel` halvings. -/
def power : Nat → Int64 → Nat → Int64
  | 0, _, _ => 1
  | fuel + 1, base, n =>
    if n = 0 then 1
    else
      let half := power fuel (base * base) (n / 2)
      if n % 2 = 1 then base * half else half

def skipping {α : Type} (skip : Bool) (body : Calculating α) : Calculating α := do
  if skip then
    modify fun c => { c with skipped := c.skipped + 1 }
    let a ← body
    modify fun c => { c with skipped := c.skipped - 1 }
    pure a
  else body

mutual

def whole : Nat → Octets → Calculating Int64
  | 0, _ => fail "expression recursion level exceeded"
  | fuel + 1, text => do
    let outer ← get
    set { outer with expression := text, rest := text, current := .finish, last := .finish,
                     mark := [], value := 0, target := none }
    let value ← if text.all isBlankOctet then pure 0 else do
      advance fuel
      let value ← list fuel
      if (← get).current != .finish then fail "syntax error in expression"
      pure value
    modify fun inner => { outer with bindings := inner.bindings }
    pure value

def indexOf : Nat → Binding → Octets → Calculating Nat
  | 0, _, _ => fail "expression recursion level exceeded"
  | fuel + 1, b, index => do
    match b.value with
    | some (.table _) => pure 0
    | value => do
      let n := (← whole fuel index).toInt
      if n < 0 then
        let length : Nat := ((Value.toItems value).getLast?.map fun e => e.1 + 1).getD 0
        pure ((length : Int) + n).toNat
      else pure n.toNat

def valueOf : Nat → CalcTarget → Calculating Int64
  | 0, _ => fail "expression recursion level exceeded"
  | fuel + 1, t => do
    let c ← get
    if c.skipped != 0 then return 0
    set { c with bindings := c.bindings.draw t.name }
    let b := (← get).bindings.get t.name
    if let some d := b.chance then return Int64.ofNat d.number
    let text ← match t.index with
      | none => pure (b.value.bind Value.text?)
      | some index => do
        let number ← indexOf fuel b index
        pure (element? b index number)
    match text with
    | none => if c.setOnly then throw (.unset t.name) else pure 0
    | some text =>
      match numeral text with
      | .ok n => if text.all Char.isDigit then pure n else whole fuel text
      | .error _ => whole fuel text

def setTarget : Nat → CalcTarget → Int64 → Calculating Unit
  | 0, _, _ => fail "expression recursion level exceeded"
  | fuel + 1, t, value => do
    let c ← get
    if c.skipped != 0 then return
    let b := c.bindings.get t.name
    if b.readonly then throw (.protectedName t.name)
    let text := Octets.ofInt value.toInt
    match t.index with
    | none => set { c with bindings := c.bindings.setText t.name text }
    | some index => do
      let number ← indexOf fuel b index
      modify fun c =>
        { c with bindings := c.bindings.update t.name fun b => putElement b index number text }

def advance : Nat → Calculating Unit
  | 0 => fail "expression recursion level exceeded"
  | fuel + 1 => do
    let c ← get
    let text := c.rest.dropWhile isBlankOctet
    let take (current : CalcSymbol) (count : Nat) : Calculating Unit :=
      set { c with last := c.current, current, mark := text, rest := text.drop count }
    match text with
    | [] => set { c with last := c.current, current := .finish, rest := [] }
    | first :: _ =>
      if isNameStart first then
        let name := text.takeWhile isNameChar
        let behind := text.drop name.length
        let (index, behind) := match behind with
          | '[' :: inner =>
            match indexText 0 [] inner with
            | some (index, behind) => (some index, behind)
            | none => (none, behind)
          | _ => (none, behind)
        let target : CalcTarget := ⟨name, index⟩
        let sets := match behind.dropWhile isBlankOctet with
          | '=' :: '=' :: _ => false
          | '=' :: _ => true
          | _ => false
        let stepped := c.current == .sign "++x" || c.current == .sign "--x"
        set { c with last := c.current, current := .name, mark := text, rest := behind,
                     target := some target }
        if stepped || !sets then
          let value ← valueOf fuel target
          modify fun c => { c with value }
        else modify fun c => { c with value := 0 }
      else if first.isDigit then
        let digits := text.takeWhile fun d => d.isAlphanum || "#@_".toList.contains d
        match numeral digits with
        | .ok value =>
          set { c with last := c.current, current := .number, mark := text, value,
                       rest := text.drop digits.length }
        | .error message => do
          set { c with mark := text }
          fail message
      else
        let step := match text with
          | '+' :: '+' :: _ => some "++"
          | '-' :: '-' :: _ => some "--"
          | _ => none
        let named := ((text.drop 2).dropWhile isBlankOctet).head?.any isNameStart
        match step with
        | some sign =>
          if c.current == .name then take (.sign ("x" ++ sign)) 2
          else if named then take (.sign (sign ++ "x")) 2
          else take (.sign (String.ofList [first])) 1
        | none =>
          match signs.find? fun s => text.take s.length == s.toList with
          | some s => take (.sign s) s.length
          | none => do
            set { c with mark := text }
            match c.current with
            | .number | .name | .sign "x++" | .sign "x--" | .sign ")" =>
              fail "syntax error: invalid arithmetic operator"
            | _ => fail "syntax error: operand expected"

/-- Reads expressions with commas between them; the last gives the value. -/
def list : Nat → Calculating Int64
  | 0 => fail "expression recursion level exceeded"
  | fuel + 1 => do
    let value ← assign fuel
    if (← get).current == .sign "," then
      advance fuel
      list fuel
    else pure value

def assign : Nat → Calculating Int64
  | 0 => fail "expression recursion level exceeded"
  | fuel + 1 => do
    let old ← choice fuel
    let c ← get
    match c.current with
    | .sign s =>
      match assignment? s with
      | none => pure old
      | some op => do
        if c.last != .name then fail "attempted assignment to non-variable"
        match c.target with
        | none => fail "syntax error in variable assignment"
        | some target => do
          advance fuel
          let value ← assign fuel
          let result ← match op with
            | none => pure value
            | some op => match op.apply old value with
              | .ok n => pure n
              | .error _ => if (← get).skipped != 0 then pure 0 else fail "division by 0"
          setTarget fuel target result
          pure result
    | _ => pure old

/-- Reads a condition and, where a question mark follows, its two outcomes. -/
def choice : Nat → Calculating Int64
  | 0 => fail "expression recursion level exceeded"
  | fuel + 1 => do
    let test ← operation levels fuel
    if (← get).current == .sign "?" then
      advance fuel
      let c := (← get).current
      if c == .finish || c == .sign ":" then fail "expression expected"
      let yes ← skipping (test == 0) (list fuel)
      if (← get).current != .sign ":" then fail "\x60:' expected for conditional expression"
      advance fuel
      if (← get).current == .finish then fail "expression expected"
      let no ← skipping (test != 0) (choice fuel)
      modify fun c => { c with last := .sign "?" }
      pure (if test == 0 then no else yes)
    else pure test

def operation (levels : List (List String)) : Nat → Calculating Int64
  | 0 => fail "expression recursion level exceeded"
  | fuel + 1 =>
    match levels with
    | [] => raised fuel
    | level :: stronger => do
      let first ← operation stronger fuel
      operations level stronger fuel first

/-- Reads what follows the first operand of a level; operations group to the left. -/
def operations (level : List String) (stronger : List (List String)) :
    Nat → Int64 → Calculating Int64
  | 0, _ => fail "expression recursion level exceeded"
  | fuel + 1, first => do
    match (← get).current with
    | .sign s =>
      if !level.contains s then return first
      let behind := (← get).rest.dropWhile isBlankOctet
      let decided := (s == "||" && first != 0) || (s == "&&" && first == 0)
      let second ← skipping decided do
        advance fuel
        operation stronger fuel
      modify fun c => { c with last := .number }
      let truth (b : Bool) : Int64 := if b then 1 else 0
      let value ← match s with
        | "||" => pure (truth (first != 0 || second != 0))
        | "&&" => pure (truth (first != 0 && second != 0))
        | s => match operation? s with
          | none => pure first
          | some op => match op.apply first second with
            | .ok n => pure n
            | .error _ =>
              if (← get).skipped != 0 then pure 0
              else do
                modify fun c => { c with mark := behind }
                fail "division by 0"
      operations level stronger fuel value
    | _ => pure first

def raised : Nat → Calculating Int64
  | 0 => fail "expression recursion level exceeded"
  | fuel + 1 => do
    let base ← signed fuel
    if (← get).current == .sign "**" then
      advance fuel
      let exponent ← raised fuel
      modify fun c => { c with last := .number }
      if exponent.toInt < 0 then fail "exponent less than 0"
      pure (power 64 base exponent.toInt.toNat)
    else pure base

def signed : Nat → Calculating Int64
  | 0 => fail "expression recursion level exceeded"
  | fuel + 1 => do
    match (← get).current with
    | .sign "!" => do
      advance fuel
      let value ← signed fuel
      modify fun c => { c with last := .number }
      pure (if value == 0 then 1 else 0)
    | .sign "~" => do
      advance fuel
      let value ← signed fuel
      modify fun c => { c with last := .number }
      pure (~~~value)
    | .sign "-" => do
      advance fuel
      let value ← signed fuel
      modify fun c => { c with last := .number }
      pure (-value)
    | .sign "+" => do
      advance fuel
      let value ← signed fuel
      modify fun c => { c with last := .number }
      pure value
    | _ => operand fuel

def operand : Nat → Calculating Int64
  | 0 => fail "expression recursion level exceeded"
  | fuel + 1 => do
    let step (sign : String) : Calculating Int64 := do
      advance fuel
      let c ← get
      match c.current, c.target with
      | .name, some target => do
        let value := if sign == "++x" then c.value + 1 else c.value - 1
        setTarget fuel target value
        modify fun c => { c with current := .number }
        advance fuel
        pure value
      | _, _ => fail "identifier expected after pre-increment or pre-decrement"
    let c ← get
    match c.current with
    | .sign "++x" => step "++x"
    | .sign "--x" => step "--x"
    | .sign "(" => do
      advance fuel
      let value ← list fuel
      if (← get).current != .sign ")" then fail "missing \x60)'"
      advance fuel
      modify fun c => { c with last := .number }
      pure value
    | .number => do
      advance fuel
      pure c.value
    | .name => do
      advance fuel
      let after ← get
      match after.current, c.target with
      | .sign "x++", some target => do
        setTarget fuel target (c.value + 1)
        modify fun c => { c with current := .number }
        advance fuel
        pure c.value
      | .sign "x--", some target => do
        setTarget fuel target (c.value - 1)
        modify fun c => { c with current := .number }
        advance fuel
        pure c.value
      | _, _ => do
        set { after with target := c.target }
        pure c.value
    | _ => fail "syntax error: operand expected"

end

end Calculating

/-- The value of an expression's text, and the variables after what has been evaluated. -/
def calculate (bindings : Bindings) (setOnly : Bool) (text : Octets) :
    Except CalculationFault Int64 × Bindings :=
  let start : Calculation := { expression := text, rest := text, bindings, setOnly }
  let (result, after) := (Calculating.whole 4000 text).run start
  (result, after.bindings)

end MediaPipeline.Shell
