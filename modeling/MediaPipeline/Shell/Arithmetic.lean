import MediaPipeline.Shell.Bindings

/-!
Integer expressions of the standard dialect: 64 bits wide, with the operators and precedences of
assignment, choice, logic, comparison and arithmetic.
-/

namespace MediaPipeline.Shell

inductive ArithmeticFault where
  | expectedPrimary
  | expectedEnd
  | expectedParen
  | expectedColon
  | divisionByZero
  | illegalNumber (text : Octets)
  | protectedName (name : Octets)

def ArithmeticFault.message (expression : Octets) (f : ArithmeticFault) : Octets :=
  let quoted (text : String) : Octets :=
    "arithmetic expression: ".toList ++ text.toList ++ ": \"".toList ++ expression ++ ['"']
  match f with
  | expectedPrimary => quoted "expecting primary"
  | expectedEnd => quoted "expecting EOF"
  | expectedParen => quoted "expecting ')'"
  | expectedColon => quoted "expecting ':'"
  | divisionByZero => quoted "division by zero"
  | illegalNumber text => "Illegal number: ".toList ++ text
  | protectedName name => name ++ ": is read only".toList

inductive BinaryOp where
  | add | sub | mul | div | rem | shiftLeft | shiftRight
  | lt | le | gt | ge | eq | ne | bitAnd | bitXor | bitOr
  deriving DecidableEq

inductive IntExpr where
  | number (n : Int64)
  | variable (name : Octets)
  /-- Sets a variable, with an operator to a result over its old value. -/
  | assign (name : Octets) (op : Option BinaryOp) (value : IntExpr)
  | negate (e : IntExpr)
  | complement (e : IntExpr)
  | not (e : IntExpr)
  | binary (op : BinaryOp) (a b : IntExpr)
  | and (a b : IntExpr)
  | or (a b : IntExpr)
  | choice (test yes no : IntExpr)

/-! ### Numbers -/

def digitBelow (base : Nat) (c : Char) : Option Nat :=
  let v :=
    if c.isDigit then c.toNat - '0'.toNat
    else if 'a' ≤ c ∧ c ≤ 'z' then c.toNat - 'a'.toNat + 10
    else if 'A' ≤ c ∧ c ≤ 'Z' then c.toNat - 'A'.toNat + 10
    else base
  if v < base then some v else none

/-- The number at the front of a text, in base 8 after a zero and 16 after `0x`, and the rest. -/
def takeNumeral (text : Octets) : Option (Nat × Octets) :=
  let digits (base : Nat) (text : Octets) : Option (Nat × Octets) :=
    let run := text.takeWhile fun c => (digitBelow base c).isSome
    if run.isEmpty then none
    else
      let n := run.foldl (fun n c => n * base + (digitBelow base c).getD 0) 0
      some (n, text.drop run.length)
  match text with
  | '0' :: x :: rest =>
    if x == 'x' || x == 'X' then (digits 16 rest).or (some (0, x :: rest)) else digits 8 text
  | '0' :: _ => digits 8 text
  | _ => digits 10 text

/-- An integer as far as 64 bits reach. -/
def saturate (n : Int) : Int64 :=
  if n < Int64.minValue.toInt then Int64.minValue
  else if Int64.maxValue.toInt < n then Int64.maxValue
  else Int64.ofInt n

def isBlankOctet (c : Char) : Bool :=
  c == ' ' || (9 ≤ c.toNat && c.toNat ≤ 13)

/-- The integer at the front of a text behind white space and a sign, and the rest. -/
def takeInteger (text : Octets) : Option (Int × Octets) :=
  match text.dropWhile isBlankOctet with
  | '-' :: rest => (takeNumeral rest).map fun (n, rest) => (-(n : Int), rest)
  | '+' :: rest => (takeNumeral rest).map fun (n, rest) => ((n : Int), rest)
  | rest => (takeNumeral rest).map fun (n, rest) => ((n : Int), rest)

def variableNumber (text : Octets) : Except ArithmeticFault Int64 :=
  match takeInteger text with
  | some (n, rest) =>
    if rest.all isBlankOctet && (saturate n).toInt == n then .ok (saturate n)
    else .error (.illegalNumber text)
  | none => if text.all isBlankOctet then .ok 0 else .error (.illegalNumber text)

/-! ### Values -/

def BinaryOp.apply (op : BinaryOp) (a b : Int64) : Except ArithmeticFault Int64 :=
  let truth (p : Bool) : Except ArithmeticFault Int64 := .ok (if p then 1 else 0)
  match op with
  | add => .ok (a + b)
  | sub => .ok (a - b)
  | mul => .ok (a * b)
  | div => if b == 0 then .error .divisionByZero else .ok (a / b)
  | rem => if b == 0 then .error .divisionByZero else .ok (a % b)
  | shiftLeft => .ok (a <<< b)
  | shiftRight => .ok (a >>> b)
  | lt => truth (a < b)
  | le => truth (a ≤ b)
  | gt => truth (b < a)
  | ge => truth (b ≤ a)
  | eq => truth (a == b)
  | ne => truth (a != b)
  | bitAnd => .ok (a &&& b)
  | bitXor => .ok (a ^^^ b)
  | bitOr => .ok (a ||| b)

namespace IntExpr

/-- The value of an expression, and the variables after its assignments. What a choice or a
condition leaves aside is not evaluated. -/
def eval (vs : Bindings) : IntExpr → Except ArithmeticFault (Int64 × Bindings)
  | number n => .ok (n, vs)
  | .variable name => return (← variableNumber ((vs.text? name).getD []), vs)
  | assign name op value => do
    let (v, vs) ← value.eval vs
    let result ← match op with
      | none => pure v
      | some op => op.apply (← variableNumber ((vs.text? name).getD [])) v
    if (vs.get name).readonly then throw (.protectedName name)
    else pure (result, vs.setText name (Octets.ofInt result.toInt))
  | negate e => do
    let (v, vs) ← e.eval vs
    pure (-v, vs)
  | complement e => do
    let (v, vs) ← e.eval vs
    pure (~~~v, vs)
  | not e => do
    let (v, vs) ← e.eval vs
    pure (if v == 0 then 1 else 0, vs)
  | binary op a b => do
    let (x, vs) ← a.eval vs
    let (y, vs) ← b.eval vs
    pure (← op.apply x y, vs)
  | and a b => do
    let (x, vs) ← a.eval vs
    if x == 0 then pure (0, vs)
    else
      let (y, vs) ← b.eval vs
      pure (if y == 0 then 0 else 1, vs)
  | or a b => do
    let (x, vs) ← a.eval vs
    if x == 0 then
      let (y, vs) ← b.eval vs
      pure (if y == 0 then 0 else 1, vs)
    else pure (1, vs)
  | choice test yes no => do
    let (x, vs) ← test.eval vs
    if x == 0 then no.eval vs else yes.eval vs

end IntExpr

/-! ### Reading -/

inductive IntSymbol where
  | number (n : Int64)
  | name (text : Octets)
  | sign (text : String)
  | stray
  deriving DecidableEq

def intSigns : List String :=
  ["<<=", ">>=", "<=", ">=", "==", "!=", "&&", "||", "<<", ">>", "+=", "-=", "*=", "/=", "%=",
    "&=", "^=", "|=", "+", "-", "*", "/", "%", "<", ">", "&", "^", "|", "!", "~", "?", ":", "(",
    ")", "="]

def intSymbols : Nat → Octets → List IntSymbol
  | 0, _ => []
  | _, [] => []
  | fuel + 1, c :: rest =>
    let text := c :: rest
    if isBlankOctet c then intSymbols fuel rest
    else if c.isDigit then
      match takeNumeral text with
      | some (n, rest) => .number (saturate n) :: intSymbols fuel rest
      | none => [.stray]
    else if c.isAlpha || c == '_' then
      let name := text.takeWhile fun c => c.isAlphanum || c == '_'
      .name name :: intSymbols fuel (text.drop name.length)
    else
      match intSigns.find? fun s => text.take s.length == s.toList with
      | some s => .sign s :: intSymbols fuel (text.drop s.length)
      | none => [.stray]

abbrev IntReader := StateT (List IntSymbol) (Except ArithmeticFault)

namespace IntReader

def levels : List (List (String × (IntExpr → IntExpr → IntExpr))) := [
  [("||", .or)], [("&&", .and)], [("|", .binary .bitOr)], [("^", .binary .bitXor)],
  [("&", .binary .bitAnd)], [("==", .binary .eq), ("!=", .binary .ne)],
  [("<", .binary .lt), ("<=", .binary .le), (">", .binary .gt), (">=", .binary .ge)],
  [("<<", .binary .shiftLeft), (">>", .binary .shiftRight)],
  [("+", .binary .add), ("-", .binary .sub)],
  [("*", .binary .mul), ("/", .binary .div), ("%", .binary .rem)]]

def assignments : List (String × Option BinaryOp) := [
  ("=", none), ("+=", some .add), ("-=", some .sub), ("*=", some .mul), ("/=", some .div),
  ("%=", some .rem), ("<<=", some .shiftLeft), (">>=", some .shiftRight), ("&=", some .bitAnd),
  ("^=", some .bitXor), ("|=", some .bitOr)]

/-- Steps over a sign if it comes next. -/
def accept (s : String) : IntReader Bool := do
  match ← get with
  | .sign t :: rest =>
    if t = s then
      set rest
      pure true
    else pure false
  | _ => pure false

/-- Steps over one of several signs and gives what belongs to it. -/
def acceptOf {α : Type} (signs : List (String × α)) : IntReader (Option α) := do
  match ← get with
  | .sign t :: rest =>
    match signs.lookup t with
    | some a => do
      set rest
      pure (some a)
    | none => pure none
  | _ => pure none

mutual

def expression : Nat → IntReader IntExpr
  | 0 => throw .expectedPrimary
  | fuel + 1 => do
    match ← get with
    | .name x :: rest =>
      set rest
      match ← acceptOf assignments with
      | some op => return .assign x op (← expression fuel)
      | none =>
        set (IntSymbol.name x :: rest)
        choice fuel
    | _ => choice fuel

/-- Reads a condition and, where a question mark follows, its two outcomes. -/
def choice : Nat → IntReader IntExpr
  | 0 => throw .expectedPrimary
  | fuel + 1 => do
    let test ← operation levels fuel
    if ← accept "?" then
      let yes ← expression fuel
      if ← accept ":" then return .choice test yes (← choice fuel)
      else throw .expectedColon
    else pure test

def operation (levels : List (List (String × (IntExpr → IntExpr → IntExpr)))) :
    Nat → IntReader IntExpr
  | 0 => throw .expectedPrimary
  | fuel + 1 =>
    match levels with
    | [] => operand fuel
    | level :: stronger => do
      let first ← operation stronger fuel
      operations level stronger fuel first

def operations (level : List (String × (IntExpr → IntExpr → IntExpr)))
    (stronger : List (List (String × (IntExpr → IntExpr → IntExpr)))) :
    Nat → IntExpr → IntReader IntExpr
  | 0, _ => throw .expectedPrimary
  | fuel + 1, first => do
    match ← acceptOf level with
    | some combine => do
      let second ← operation stronger fuel
      operations level stronger fuel (combine first second)
    | none => pure first

def operand : Nat → IntReader IntExpr
  | 0 => throw .expectedPrimary
  | fuel + 1 => do
    if ← accept "+" then operand fuel
    else if ← accept "-" then return .negate (← operand fuel)
    else if ← accept "!" then return .not (← operand fuel)
    else if ← accept "~" then return .complement (← operand fuel)
    else if ← accept "(" then
      let e ← expression fuel
      if ← accept ")" then pure e else throw .expectedParen
    else
      match ← get with
      | .number n :: rest => do
        set rest
        pure (.number n)
      | .name x :: rest => do
        set rest
        pure (.variable x)
      | _ => throw .expectedPrimary

end

end IntReader

def arithmeticValue (vs : Bindings) (text : Octets) :
    Except ArithmeticFault (Int64 × Bindings) := do
  let symbols := intSymbols (text.length + 1) text
  let (e, rest) ← IntReader.expression (16 * symbols.length + 32) symbols
  if rest.isEmpty then e.eval vs else throw .expectedEnd

end MediaPipeline.Shell
