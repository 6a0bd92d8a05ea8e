import MediaPipeline.Records.Token

/-!
Reading scripts: expressions by the strength of their operators, statements, rules and functions.
Reading goes on behind a statement with a fault in it, so that several faults are told at once.
-/

namespace MediaPipeline.Records

open Shell (Regex RegexFault RegexRules)

/-! ### Patterns -/

def patternRules : RegexRules := {
  extended := true, leadingBounds := .literal, looseClose := true, looseBounds := true,
  looseRanges := true, plainly := true, filled := true, bytes := true, unbounded := true }

def patternFault (f : RegexFault) : String :=
  match f with
  | .unmatchedParen | .unmatchedClose => "missing ')'"
  | .unmatchedBracket | .badClass | .invalid | .badRangeEnd | .badCollation | .misplacedClass =>
    "bad class -- [], [^] or ["
  | .badCount | .unmatchedBrace => "bad interval expression"
  | .tooBig => "resource exhaustion -- regular expression too large"
  | _ => "missing operand"

def patternOfText (t : Octets) : Except Octets Regex :=
  if t.isEmpty then .ok .empty
  else match Regex.ofText patternRules t with
    | .ok (r, _) => .ok r
    | .error f =>
      .error ("regular expression compile failed (".toList ++ (patternFault f).toList ++ ")\n".toList
        ++ t)

namespace Reader

def patternExpr (t : Octets) : Reader Expr := do
  match patternOfText t with
  | .ok r => pure (.pattern r t)
  | .error text => do
    fault text
    pure (.pattern .empty t)

/-! ### Names -/

/-- What a variable is used as, in a complaint about another use. -/
def useText (own : Bool) (u : Use) : Octets :=
  (if own then "local " else "").toList ++ (if u = .table then "array" else "variable").toList

/-- The variable of a name, which is used in a certain way from here on. -/
def variableOf (name : Octets) (use : Use) : Reader Name := do
  let s ← get
  let note (own : Bool) (known : Use) : Reader Unit :=
    if use != .unknown && known != .unknown && known != use then
      fault ("illegal reference to ".toList ++ useText own known ++ ' ' :: name)
    else pure ()
  match s.parameters.findIdx? (·.1 == name) with
  | some i => do
    let known := (s.parameters[i]?.map Prod.snd).getD .unknown
    note true known
    if known = .unknown then
      modify fun s => { s with parameters := s.parameters.modify i fun p => (p.1, use) }
    pure (.own i)
  | none =>
    match s.names.findIdx? (·.1 == name) with
    | some i => do
      let known := (s.names[i]?.map Prod.snd).getD .unknown
      note false known
      if known = .unknown then
        modify fun s => { s with names := s.names.modify i fun p => (p.1, use) }
      pure (.shared i)
    | none => do
      set { s with names := s.names.push (name, use) }
      pure (.shared s.names.size)

def expectName : Reader Octets := do
  match ← peek with
  | .name n => do
    advance
    pure n
  | _ => misplaced

/-! ### Operators -/

def assignment? (t : Token) : Option (Option Operation) :=
  match t with
  | .sign "=" => some none
  | .sign "+=" => some (some .add)
  | .sign "-=" => some (some .sub)
  | .sign "*=" => some (some .mul)
  | .sign "/=" => some (some .div)
  | .sign "%=" => some (some .rem)
  | .sign "^=" => some (some .pow)
  | _ => none

/-- The strength of an operator between two values, and what it makes of them. -/
def operator? (t : Token) : Option (Nat × (Expr → Expr → Expr)) :=
  match t with
  | .sign "||" => some (1, .either)
  | .sign "&&" => some (2, .both)
  | .sign "~" => some (4, .fits false)
  | .sign "!~" => some (4, .fits true)
  | .sign "<" => some (5, .compare .lt)
  | .sign "<=" => some (5, .compare .le)
  | .sign "==" => some (5, .compare .eq)
  | .sign "!=" => some (5, .compare .ne)
  | .sign ">" => some (5, .compare .gt)
  | .sign ">=" => some (5, .compare .ge)
  | _ => none

/-- The strength of an operator between two numbers. Those of one strength go from the left, but for
the strongest. -/
def operation? (t : Token) : Option (Nat × Operation) :=
  match t with
  | .sign "+" => some (1, .add)
  | .sign "-" => some (1, .sub)
  | .sign "*" => some (2, .mul)
  | .sign "/" => some (2, .div)
  | .sign "%" => some (2, .rem)
  | .sign "^" => some (5, .pow)
  | _ => none

def signStrength : Nat := 4

def joins (t : Token) : Bool :=
  match t with
  | .number .. | .text _ | .pattern _ | .name _ | .function _ | .field _ | .standard _ => true
  | .sign s => ["(", "!", "++", "--", "$"].contains s
  | .keyword w => w == "getline"
  | _ => false

def asPattern (e : Expr) : Reader Expr :=
  match e with
  | .text t => patternExpr t
  | e => pure e

/-! ### Expressions -/

mutual

def expression : Nat → Reader Expr
  | 0 => throw .forGood
  | fuel + 1 => do
    match ← anyExpression fuel with
    | .several _ => misplaced
    | e => pure e

def anyExpression : Nat → Reader Expr
  | 0 => throw .forGood
  | fuel + 1 => do
    let e ← operators fuel 1
    if (← peek).isSign "?" then
      if e matches .several _ then misplaced
      advance
      let yes ← expression fuel
      expect ":"
      let no ← expression fuel
      pure (.choice e yes no)
    else pure e

def operators : Nat → Nat → Reader Expr
  | 0, _ => throw .forGood
  | fuel + 1, least => do
    let first ← operand fuel
    operatorsBehind fuel least first

def operatorsBehind : Nat → Nat → Expr → Reader Expr
  | 0, _, _ => throw .forGood
  | fuel + 1, least, e => do
    let t ← peek
    if t.isKeyword "in" && least ≤ 3 then
      advance
      let a ← variableOf (← expectName) .table
      let keys := match e with
        | .several es => es
        | e => [e]
      operatorsBehind fuel least (.member keys a)
    else match operator? t with
      | some (strength, make) =>
        if strength < least || e matches .several _ then pure e
        else
          advance
          let b ← operators fuel (strength + 1)
          if b matches .several _ then misplaced
          let b ← if strength = 4 then asPattern b else pure b
          operatorsBehind fuel least (make e b)
      | none => pure e

def operand : Nat → Reader Expr
  | 0 => throw .forGood
  | fuel + 1 => do
    let e ← value fuel 1 true
    if e matches .several _ then pure e
    else match e.isPlace, assignment? (← peek) with
      | true, some op => do
        advance
        pure (.assign e op (← expression fuel))
      | _, _ => joined fuel e

def joined : Nat → Expr → Reader Expr
  | 0, _ => throw .forGood
  | fuel + 1, e => do
    if joins (← peek) then
      let b ← value fuel 1 false
      joined fuel (.join e b)
    else pure e

/-- Reads a value with operations of some strength at least. At the front of an operand several
expressions may stand in parentheses. -/
def value : Nat → Nat → Bool → Reader Expr
  | 0, _, _ => throw .forGood
  | fuel + 1, least, front => do
    let t ← peek
    let signed (make : Expr → Expr) : Reader Expr := do
      advance
      let e ← value fuel signStrength false
      operationsBehind fuel least (make e)
    match t with
    | .sign "!" => signed .not
    | .sign "-" => signed .negate
    | .sign "+" => signed .plus
    | _ => do
      let e ← primary fuel front
      if e matches .several _ then pure e else operationsBehind fuel least e

def operationsBehind : Nat → Nat → Expr → Reader Expr
  | 0, _, _ => throw .forGood
  | fuel + 1, least, e => do
    let t ← peek
    if t.isSign "|" && least ≤ signStrength then
      advance
      if !(← peek).isKeyword "getline" then misplaced
      advance
      let target ← target fuel
      operationsBehind fuel least (.nextRecord .command (some e) target)
    else match operation? t with
      | some (strength, op) =>
        if strength < least then pure e
        else
          advance
          let b ← value fuel (if op = .pow then strength else strength + 1) false
          operationsBehind fuel least (.operate op e b)
      | none => pure e

/-- Reads a place for a record, if one comes next. -/
def target : Nat → Reader (Option Expr)
  | 0 => throw .forGood
  | fuel + 1 => do
    match ← peek with
    | .name _ | .field _ | .sign "$" => return some (← place fuel)
    | _ => pure none

def place : Nat → Reader Expr
  | 0 => throw .forGood
  | fuel + 1 => do
    match ← peek with
    | .name n => do
      advance
      placeOf fuel n
    | .field n => do
      advance
      pure (.field (.number (Float.ofNat n)))
    | .sign "$" => do
      advance
      return .field (← fieldNumber fuel)
    | _ => misplaced

/-- Reads what is behind a name: the keys of an element. -/
def placeOf : Nat → Octets → Reader Expr
  | 0, _ => throw .forGood
  | fuel + 1, name => do
    if (← peek).isSign "[" then
      let a ← variableOf name .table
      advance
      let keys ← list fuel
      expect "]"
      pure (.element a keys)
    else return .variable (← variableOf name .value)

def fieldNumber : Nat → Reader Expr
  | 0 => throw .forGood
  | fuel + 1 => do
    match ← peek with
    | .name n =>
      if n == "NF".toList then primary fuel false
      else do
        advance
        placeOf fuel n
    | .sign "!" => do
      advance
      return .not (← fieldNumber fuel)
    | .sign "-" => do
      advance
      return .negate (← fieldNumber fuel)
    | .sign "+" => do
      advance
      return .plus (← fieldNumber fuel)
    | _ => primary fuel false

def steps : Nat → Expr → Reader Expr
  | 0, _ => throw .forGood
  | _ + 1, e => do
    if ← accept "++" then pure (.step e true false)
    else if ← accept "--" then pure (.step e false false)
    else pure e

def list : Nat → Reader (List Expr)
  | 0 => throw .forGood
  | fuel + 1 => do
    let e ← expression fuel
    if ← accept "," then return e :: (← list fuel)
    pure [e]

def arguments : Nat → Reader (List Expr)
  | 0 => throw .forGood
  | fuel + 1 => do
    if ← accept ")" then pure []
    else
      let es ← list fuel
      expect ")"
      pure es

/-- Reads an argument of a function of the script. A name alone may be a table. -/
def callArguments : Nat → Reader (List Expr)
  | 0 => throw .forGood
  | fuel + 1 => do
    match ← peek with
    | .name n => do
      let before ← get
      advance
      let t ← peek
      if t.isSign "," || t.isSign ")" then
        finish fuel (.variable (← variableOf n .unknown))
      else
        set before
        finish fuel (← expression fuel)
    | _ => finish fuel (← expression fuel)
where
  finish (fuel : Nat) (e : Expr) : Reader (List Expr) := do
    if ← accept "," then return e :: (← callArguments fuel)
    expect ")"
    pure [e]

def primary : Nat → Bool → Reader Expr
  | 0, _ => throw .forGood
  | fuel + 1, front => do
    match ← peek with
    | .number x _ => do
      advance
      pure (.number x)
    | .text t => do
      advance
      pure (.text t)
    | .pattern t => do
      advance
      patternExpr t
    | .name _ | .field _ | .sign "$" => do
      let e ← place fuel
      steps fuel e
    | .sign "++" => do
      advance
      return .step (← place fuel) true true
    | .sign "--" => do
      advance
      return .step (← place fuel) false true
    | .sign "(" => do
      advance
      if (← peek).isSign ")" then
        if !front || !(← get).prints then misplaced
        advance
        return .several []
      let e ← expression fuel
      if front && (← peek).isSign "," then
        advance
        let es ← list fuel
        expect ")"
        pure (.several (e :: es))
      else
        expect ")"
        pure (.grouped e)
    | .keyword "getline" => do
      modify fun s => { s with takes := true }
      advance
      let target ← target fuel
      match ← peek with
      | .input => do
        advance
        let file ← value fuel (signStrength + 1) false
        pure (.nextRecord .file (some file) target)
      | _ => do
        modify fun s => { s with takes := false }
        pure (.nextRecord .main none target)
    | .function name => do
      let line := (← get).tokenLine
      advance
      expect "("
      let args ← if ← accept ")" then pure [] else callArguments fuel
      let f := (functionNumber? (← get) name).getD 0
      modify fun s => { s with calls := s.calls.push (f, args.length, line) }
      pure (.call f args)
    | .standard w => do
      advance
      standard fuel w
    | _ => misplaced

def standard : Nat → String → Reader Expr
  | 0, _ => throw .forGood
  | fuel + 1, w => do
    match w with
    | "split" => do
      expect "("
      let e ← expression fuel
      expect ","
      let a ← variableOf (← expectName) .table
      if ← accept ")" then return .split e a none
      expect ","
      let separator ← expression fuel
      expect ")"
      pure (.split e a (some separator))
    | "match" => do
      expect "("
      let e ← expression fuel
      expect ","
      let p ← asPattern (← expression fuel)
      expect ")"
      pure (.position e p)
    | "sub" | "gsub" => do
      expect "("
      let p ← asPattern (← expression fuel)
      expect ","
      let replacement ← expression fuel
      let every := w == "gsub"
      if ← accept ")" then return .substitute every p replacement none
      expect ","
      let e ← place fuel
      expect ")"
      pure (.substitute every p replacement (some e))
    | "length" => do
      if !(← peek).isSign "(" then return .standard .length []
      advance
      if ← accept ")" then return .standard .length []
      let es ← callArguments fuel
      if es.length > 1 then fault "wrong number of arguments in call to length".toList
      pure (.standard .length es)
    | _ => do
      expect "("
      let args ← arguments fuel
      match standardFunctions.lookup w with
      | some (f, least, most) => do
        if args.length < least || most < args.length then
          fault ("wrong number of arguments in call to ".toList ++ w.toList)
        pure (.standard f args)
      | none => misplaced

end

/-! ### Statements -/

def expectEnd : Reader Unit := do
  if (← peek).endsStatement then advance else misplaced

/-- Goes on behind a statement with a fault. In the first statement of a block the end of the block
serves too, and this is told. -/
def recover (isFirst : Bool) : Nat → Reader Bool
  | 0 => throw .forGood
  | fuel + 1 => do
    let t ← peek
    let good : Reader Unit :=
      modify fun s => { s with quiet := 0, prints := false, takes := false, parens := 0 }
    if t matches .finish then throw .forGood
    else if t.endsStatement then
      advance
      good
      pure false
    else if isFirst && t.isSign "\x7d" then
      advance
      good
      pure true
    else
      modify fun s => { s with ahead := none }
      recover isFirst fuel

def looping {α : Type} (body : Reader α) : Reader α := do
  modify fun s => { s with loops := s.loops + 1 }
  let a ← body
  modify fun s => { s with loops := s.loops - 1 }
  pure a

/-- Tells that a statement is used in the wrong part of a script. -/
def improper (w : String) : Reader Unit :=
  fault ("improper use of ".toList ++ w.toList)

mutual

/-- Reads the statements of a block from behind its opening brace. -/
def statements : Nat → Bool → Reader (List Statement)
  | 0, _ => throw .forGood
  | fuel + 1, isFirst => do
    if !isFirst && (← peek).isSign "\x7d" then
      advance
      pure []
    else
      let loops := (← get).loops
      let attempt : Reader (Option Statement) :=
        tryCatch (some <$> statement fuel) fun h => match h with
          | .misplaced => pure none
          | .forGood => throw .forGood
      match ← attempt with
      | some s => return s :: (← statements fuel false)
      | none => do
        modify fun s => { s with loops }
        if ← recover isFirst ((← get).rest.length + 2) then pure []
        else statements fuel false

/-- Reads a statement that belongs to another one. A fault ends with it. -/
def inner : Nat → Reader Statement
  | 0 => throw .forGood
  | fuel + 1 => do
    let loops := (← get).loops
    tryCatch (statement fuel) fun h => match h with
      | .misplaced => do
        modify fun s => { s with loops }
        let _ ← recover false ((← get).rest.length + 2)
        pure (.block [])
      | .forGood => throw .forGood

def statement : Nat → Reader Statement
  | 0 => throw .forGood
  | fuel + 1 => do
    let t ← peek
    let simple (s : Statement) : Reader Statement := do
      expectEnd
      pure s
    if t.endsStatement then
      advance
      pure (.block [])
    else match t with
      | .sign "\x7b" => do
        advance
        return .block (← statements fuel true)
      | .keyword w => do
        match w with
        | "getline" => simple (.evaluate (← expression fuel))
        | "print" | "printf" => do
          modify fun s => { s with prints := true }
          advance
          let args ← printed fuel
          let target ← match ← peek with
            | .output d _ => do
              advance
              pure (some (d, ← expression fuel))
            | _ => pure none
          if !(← peek).endsStatement then misplaced
          if w == "printf" && args.isEmpty then
            fault "no arguments in call to printf".toList
          modify fun s => { s with prints := false }
          simple (if w == "print" then .print args target else .printFormatted args target)
        | "if" => do
          advance
          expect "("
          let test ← expression fuel
          expect ")"
          skipLines
          let yes ← inner fuel
          if (← peek).isKeyword "else" then
            advance
            skipLines
            return .choice test yes (some (← inner fuel))
          pure (.choice test yes none)
        | "while" => do
          advance
          expect "("
          let test ← expression fuel
          expect ")"
          skipLines
          return .whileLoop test (← looping (inner fuel))
        | "do" => do
          advance
          skipLines
          let body ← looping (inner fuel)
          return .doLoop body (← doBehind fuel)
        | "for" => do
          advance
          expect "("
          forBehind fuel
        | "break" | "continue" => do
          advance
          expectEnd
          if (← get).loops = 0 then fault (w.toList ++ " statement outside of loop".toList)
          pure (if w == "break" then .leave else .again)
        | "next" | "nextfile" => do
          advance
          expectEnd
          if (← get).part != .rule then improper w
          pure (if w == "next" then .next else .nextFile)
        | "exit" | "return" => do
          advance
          let e ← if (← peek).endsStatement then pure none else some <$> expression fuel
          expectEnd
          if w == "exit" then pure (.exit e)
          else
            if (← get).part != .function then fault "return outside function body".toList
            pure (.give e)
        | "delete" => do
          advance
          let a ← variableOf (← expectName) .table
          if ← accept "[" then
            let keys ← list fuel
            expect "]"
            simple (.delete a (some keys))
          else simple (.delete a none)
        | _ => misplaced
      | _ => simple (.evaluate (← expression fuel))

/-- Reads the test of a loop behind its body. A fault in it is taken for one of the body. -/
def doBehind : Nat → Reader Expr
  | 0 => throw .forGood
  | fuel + 1 =>
    tryCatch (do
      if !(← peek).isKeyword "while" then misplaced
      advance
      expect "("
      let test ← expression fuel
      expect ")"
      expectEnd
      pure test) fun h => match h with
        | .misplaced => do
          let _ ← recover false ((← get).rest.length + 2)
          doBehind fuel
        | .forGood => throw .forGood

def printed : Nat → Reader (List Expr)
  | 0 => throw .forGood
  | fuel + 1 => do
    let t ← peek
    if t.endsStatement || t matches .output .. then pure []
    else
      match ← anyExpression fuel with
      | .several es => pure es
      | e => do
        if ← accept "," then return e :: (← list fuel)
        pure [e]

def forBehind : Nat → Reader Statement
  | 0 => throw .forGood
  | fuel + 1 => do
    let optional (closing : String) : Reader (Option Expr) := do
      let t ← peek
      if t.isSign closing || t matches .semicolon then pure none else some <$> expression fuel
    let semicolon : Reader Unit := do
      if (← peek) matches .semicolon then advance else misplaced
    let start ← optional ";"
    match start, (← peek).isSign ")" with
    | some (.member [.variable v] a), true => do
      advance
      skipLines
      return .forEach v a (← looping (inner fuel))
    | some (.member [.variable _] _), false => misplaced
    | start, _ => do
      semicolon
      let test ← optional ";"
      semicolon
      let step ← optional ")"
      expect ")"
      skipLines
      return .forLoop start test step (← looping (inner fuel))

end

/-! ### Rules and functions -/

def block (fuel : Nat) (part : Part) : Reader (List Statement) := do
  modify fun s => { s with part, loops := 0 }
  expect "\x7b"
  statements fuel true

def parameters : Nat → Reader Unit
  | 0 => throw .forGood
  | fuel + 1 => do
    let n ← expectName
    if (← get).parameters.any (·.1 == n) then
      fault (n ++ " is duplicated in argument list".toList)
    modify fun s => { s with parameters := s.parameters.push (n, .unknown) }
    if ← accept "," then parameters fuel

def definition (fuel : Nat) : Reader Unit := do
  let name ← match ← peek with
    | .name n | .function n => pure n
    | _ => misplaced
  advance
  let s ← get
  let n := (functionNumber? s name).getD s.functions.size
  if n = s.functions.size then set { s with functions := s.functions.push (name, none) }
  if ((s.functions[n]?).bind Prod.snd).isSome then
    fault ("redefinition of ".toList ++ name)
  expect "("
  if !(← peek).isSign ")" then parameters fuel
  expect ")"
  skipLines
  let count := (← get).parameters.size
  let body ← block fuel .function
  modify fun s => { s with
    functions := s.functions.modify n fun f => (f.1, some ⟨f.1, count, body⟩), parameters := #[] }

def item (fuel : Nat) (script : Script) : Reader Script := do
  let t ← peek
  let body : Reader (Option (List Statement)) := do
    if (← peek).isSign "\x7b" then return some (← block fuel .rule)
    expectEnd
    pure none
  match t with
  | .keyword "BEGIN" => do
    advance
    return { script with before := script.before ++ (← block fuel .before) }
  | .keyword "END" => do
    advance
    return { script with behind := some (script.behind.getD [] ++ (← block fuel .behind)) }
  | .keyword "function" => do
    advance
    definition fuel
    pure script
  | .sign "\x7b" => do
    let b ← block fuel .rule
    return { script with rules := script.rules ++ [⟨.always, some b⟩] }
  | _ => do
    modify fun s => { s with part := .rule }
    let first ← expression fuel
    if ← accept "," then
      let last ← expression fuel
      return { script with rules := script.rules ++ [⟨.range first last, ← body⟩] }
    return { script with rules := script.rules ++ [⟨.test first, ← body⟩] }

/-- Goes on at the next block behind a fault outside of all blocks. -/
def recoverOutside : Nat → Reader Unit
  | 0 => throw .forGood
  | fuel + 1 => do
    match ← peek with
    | .finish => throw .forGood
    | .sign "\x7b" => do
      modify fun s => { s with parameters := #[] }
      let _ ← block fuel .rule
    | _ => do
      modify fun s => { s with ahead := none }
      recoverOutside fuel

def items : Nat → Script → Reader Script
  | 0, _ => throw .forGood
  | fuel + 1, script => do
    if (← peek) matches .finish then pure script
    else
      let attempt (r : Reader Script) : Reader (Option Script) :=
        tryCatch (some <$> r) fun h => match h with
          | .misplaced => pure none
          | .forGood => throw .forGood
      match ← attempt (item fuel script) with
      | some script => items fuel script
      | none => do
        let _ ← attempt (do
          recoverOutside fuel
          pure script)
        items fuel script

def checkCalls : Reader Unit := do
  let s ← get
  let line := s.tokenLine
  for (f, count, place) in s.calls do
    match s.functions[f]? with
    | some (name, none) => do
      modify fun s => { s with tokenLine := line }
      fault ("function ".toList ++ name ++ " never defined".toList)
    | some (name, some d) =>
      if d.parameters < count then
        modify fun s => { s with tokenLine := place }
        fault ("too many arguments in call to ".toList ++ name)
    | none => pure ()

def script (fuel : Nat) : Reader Script := do
  skipLines
  let result ← items fuel { names := #[], functions := #[] }
  if (← get).faults.isEmpty then checkCalls
  let s ← get
  pure { result with
    names := s.names.map Prod.fst
    functions := s.functions.map fun f => f.2.getD ⟨f.1, 0, []⟩ }

end Reader

/-- The script that texts make up, each with the name of the file it is from; or what is wrong with
it. -/
def Script.ofTexts (reader : Octets) (texts : List (Option Octets × Octets)) : Except Octets Script :=
  let texts := texts.map fun t => (t.1, t.2 ++ ['\n'])
  let size := texts.foldl (fun n t => n + t.2.length) 0
  let source : Source := match texts with
    | [] => { reader, rest := [] }
    | (file, text) :: later =>
      { reader, file, rest := text, later := later.map fun t => (t.1.getD [], t.2) }
  match (Reader.script (16 * size + 100)).run source with
  | (.ok script, s) => if s.faults.isEmpty then .ok script else .error s.faults.toList.flatten
  | (.error _, s) => .error s.faults.toList.flatten

end MediaPipeline.Records
