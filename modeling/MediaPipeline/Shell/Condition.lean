import MediaPipeline.Process.Files
import MediaPipeline.Shell.Format

/-!
Conditions over texts, numbers and files. A word is an operator or an operand by its place. The
standard dialect looks at the words behind a word; the extended one and programs count the words.
-/

namespace MediaPipeline.Shell

inductive Role where
  | unary
  | binary
  | not
  | and
  | or
  | openParen
  | closeParen
  | operand
  deriving DecidableEq

structure Surroundings where
  files : Files
  /-- What a descriptor leads to; nothing if that is a pipe. -/
  behind : Nat → Option Entry := fun _ => some (.device .null)
  isSet : Octets → Bool := fun _ => false
  isOn : Octets → Bool := fun _ => false

namespace Surroundings

/-- Whether a file is as an operator asks; nothing stands for a pipe. -/
def entryIs (op : String) (mode : Nat) (e : Option Entry) : Bool :=
  match op, e with
  | "-f", some (.document _) | "-f", some (.program _) => true
  | "-d", some .directory => true
  | "-p", none | "-p", some (.device (.pipe _)) => true
  | "-c", some (.device (.pipe _)) => false
  | "-c", some (.device _) => true
  | "-s", some (.document d) => !d.content.isEmpty
  | "-s", some .directory | "-s", some (.program _) => true
  | "-x", some .directory => true
  | "-x", some (.device _) | "-x", none => false
  | "-x", some _ => mode &&& 0o111 != 0
  | "-u", some _ => mode &&& 0o4000 != 0
  | "-g", some _ => mode &&& 0o2000 != 0
  | "-k", some _ => mode &&& 0o1000 != 0
  | "-r", _ | "-w", _ | "-e", _ | "-a", _ | "-O", _ | "-G", _ | "-N", _ => true
  | _, _ => false

/-- Whether what a path leads to is as an operator asks. -/
def fileIs (s : Surroundings) (op : String) (path : Octets) : Bool :=
  if op == "-h" || op == "-L" then s.files.findLink path matches .ok (.link _)
  else match s.files.resolve path true with
    | .error _ | .ok (_, none) => false
    | .ok (_, some (.device (.descriptor n))) => entryIs op 0o666 (s.behind n)
    | .ok (place, some e) => entryIs op (s.files.modeOf place e) (some e)

def time? (s : Surroundings) (path : Octets) : Option Int :=
  match s.files.resolve path true with
  | .ok (place, some e) => some (s.files.timeOf place e)
  | _ => none

def newer (s : Surroundings) (missingCounts : Bool) (a b : Octets) : Bool :=
  match s.time? a, s.time? b with
  | some x, some y => y < x
  | some _, none => missingCounts
  | none, _ => false

/-- Whether two paths lead to one file. -/
def same (s : Surroundings) (a b : Octets) : Bool :=
  match s.files.placeAt a, s.files.placeAt b with
  | .ok x, .ok y => s.files.isSame x y
  | _, _ => false

end Surroundings

/-- The integer that a text denotes in decimal, with blanks around it. -/
def decimal? (text : Octets) : Option Int :=
  let body := text.dropWhile isBlankOctet
  let (negative, body) := match body with
    | '-' :: rest => (true, rest)
    | '+' :: rest => (false, rest)
    | rest => (false, rest)
  let digits := body.takeWhile Char.isDigit
  if digits.isEmpty || !(body.drop digits.length).all isBlankOctet then none
  else
    let n : Nat := digits.foldl (fun n c => 10 * n + (c.toNat - 48)) 0
    some (if negative then -(n : Int) else n)

/-- The integer that a text denotes within 64 bits. -/
def narrow? (text : Octets) : Option Int :=
  (decimal? text).filter fun n => (saturate n).toInt == n

namespace Condition

def unaryOperators : List String :=
  ["-r", "-w", "-x", "-e", "-f", "-d", "-c", "-b", "-p", "-u", "-g", "-k", "-s", "-t", "-z", "-n",
    "-h", "-L", "-S", "-O", "-G"]

def binaryOperators : List String :=
  ["=", "!=", "<", ">", "-eq", "-ne", "-ge", "-gt", "-le", "-lt", "-nt", "-ot", "-ef"]

/-- What a word does where nothing is known of its place. -/
def roleOf (w : Octets) : Role :=
  let s := String.ofList w
  if unaryOperators.contains s then .unary
  else if binaryOperators.contains s then .binary
  else match s with
    | "!" => .not
    | "-a" => .and
    | "-o" => .or
    | "(" => .openParen
    | ")" => .closeParen
    | _ => .operand

/-- What the first of the words does; there is nothing behind the last. -/
def role : List Octets → Option Role
  | [] => none
  | w :: rest =>
    match roleOf w, rest with
    | .unary, [] => some .operand
    | .unary, [_] => some .unary
    | .unary, next :: _ => some (if roleOf next = .binary then .operand else .unary)
    | .openParen, [] => some .operand
    | r, _ => some r

/-- Reads a condition: the words from the last one used on are kept. What is wrong is thrown. -/
abbrev Check := StateT (List Octets) (Except Octets)

def current : Check Octets :=
  return (← get).head?.getD []

def advance : Check Unit :=
  modify List.tail

def nextRole : Check (Option Role) :=
  return role (← get).tail

def number (w : Octets) : Check Int := do
  match narrow? w with
  | some n => pure n
  | none => throw ("Illegal number: ".toList ++ w)

def testUnary (fs : Surroundings) (op : Octets) (operand : Octets) : Check Bool :=
  match String.ofList op with
  | "-z" => pure operand.isEmpty
  | "-n" => pure !operand.isEmpty
  | "-t" => do
    let _ ← number operand
    pure false
  | op => pure (fs.fileIs op operand)

def testBinary (fs : Surroundings) (op a b : Octets) : Check Bool := do
  let order : Ordering := compareOfLessAndEq a b
  match String.ofList op with
  | "=" => pure (a == b)
  | "!=" => pure (a != b)
  | "<" => pure (order == .lt)
  | ">" => pure (order == .gt)
  | "-eq" => return (← number a) == (← number b)
  | "-ne" => return (← number a) != (← number b)
  | "-lt" => return decide ((← number a) < (← number b))
  | "-le" => return decide ((← number a) ≤ (← number b))
  | "-gt" => return decide ((← number b) < (← number a))
  | "-ge" => return decide ((← number b) ≤ (← number a))
  | "-nt" => pure (fs.newer false a b)
  | "-ot" => pure (fs.newer false b a)
  | _ => pure (fs.same a b)

mutual

def alternatives (fs : Surroundings) : Nat → Option Role → Check Bool
  | 0, _ => pure false
  | fuel + 1, r => do
    let first ← conjunction fs fuel r
    if (← nextRole) = some .or then
      advance
      advance
      let second ← alternatives fs fuel (role (← get))
      pure (first || second)
    else pure first

def conjunction (fs : Surroundings) : Nat → Option Role → Check Bool
  | 0, _ => pure false
  | fuel + 1, r => do
    let first ← negation fs fuel r
    if (← nextRole) = some .and then
      advance
      advance
      let second ← conjunction fs fuel (role (← get))
      pure (first && second)
    else pure first

/-- Reads a test with the signs that turn it around. -/
def negation (fs : Surroundings) : Nat → Option Role → Check Bool
  | 0, _ => pure false
  | fuel + 1, r => do
    if r = some .not then
      let next ← nextRole
      if next.isSome then advance
      return !(← negation fs fuel next)
    else primary fs fuel r

def primary (fs : Surroundings) : Nat → Option Role → Check Bool
  | 0, _ => pure false
  | fuel + 1, r => do
    match r with
    | none => pure false
    | some .openParen =>
      advance
      let inner := role (← get)
      if inner = some .closeParen then pure false
      else
        let result ← alternatives fs fuel inner
        advance
        if role (← get) = some .closeParen then pure result
        else throw "closing paren expected".toList
    | some .unary =>
      let op ← current
      advance
      match ← get with
      | [] => throw (op ++ ": argument expected".toList)
      | operand :: _ => testUnary fs op operand
    | some _ =>
      if (← nextRole) = some .binary then
        let a ← current
        advance
        let op ← current
        advance
        match ← get with
        | [] => throw (op ++ ": argument expected".toList)
        | b :: _ => testBinary fs op a b
      else return !(← current).isEmpty

end

def whole (fs : Surroundings) (words : List Octets) (r : Option Role) : Except Octets Bool := do
  let (result, rest) ← alternatives fs (8 * words.length + 8) r words
  match rest with
  | w :: _ :: _ => throw (w ++ ": unexpected operator".toList)
  | _ => pure result

/-- The outcome of a condition. Three words with an operator in the middle are a comparison, four
at most may be turned around as a whole, and parentheses around all of them are dropped. -/
def evaluate (fs : Surroundings) : Nat → List Octets → Except Octets Bool
  | 0, _ | _, [] => .ok false
  | fuel + 1, words@(first :: rest) =>
    let short := words.length = 3 ∨ words.length = 4
    let comparison : Bool := match words with
      | [_, op, _] => decide (roleOf op = .binary)
      | _ => false
    if comparison then whole fs words (some .operand)
    else if short ∧ first = ['('] ∧ words.getLast? = some [')'] then
      let inner := rest.dropLast
      whole fs inner (role inner)
    else if short ∧ first = ['!'] then return !(← evaluate fs fuel rest)
    else whole fs words (role words)

end Condition

def condition (s : Surroundings) (words : List Octets) : Except Octets Bool :=
  Condition.evaluate s (words.length + 1) words

/-! ### By the number of words -/

structure Counted where
  printer : Printer
  surroundings : Surroundings
  behind : Option Octets

namespace Counted

def isProgram (c : Counted) : Bool :=
  c.printer == .program

def named (c : Counted) (w : Octets) : Octets :=
  if c.isProgram then Quoting.plain w else w

def unaryOperators (c : Counted) : List String :=
  Condition.unaryOperators ++ (if c.isProgram then ["-N"] else ["-a", "-o", "-v", "-N", "-R"])

def binaryOperators (c : Counted) : List String :=
  "==" :: Condition.binaryOperators.filter fun op => !(c.isProgram && (op == "<" || op == ">"))

def isUnary (c : Counted) (w : Octets) : Bool :=
  c.unaryOperators.contains (String.ofList w)

def isBinary (c : Counted) (w : Octets) : Bool :=
  c.binaryOperators.contains (String.ofList w)

def number (c : Counted) (w : Octets) : Except Octets Int :=
  match if c.isProgram then decimal? w else narrow? w with
  | some n => .ok n
  | none => .error (if c.isProgram then "invalid integer ".toList ++ Quoting.plain w
    else w ++ ": integer expression expected".toList)

def testUnary (c : Counted) (op operand : Octets) : Except Octets Bool :=
  match String.ofList op with
  | "-z" => .ok operand.isEmpty
  | "-n" => .ok !operand.isEmpty
  | "-v" | "-R" => .ok (c.surroundings.isSet operand)
  | "-o" => .ok (c.surroundings.isOn operand)
  | "-t" => do
    if c.isProgram then
      let _ ← c.number operand
    pure false
  | op => .ok (c.surroundings.fileIs op operand)

def testBinary (c : Counted) (op a b : Octets) : Except Octets Bool := do
  let order : Ordering := compareOfLessAndEq a b
  match String.ofList op with
  | "=" | "==" => pure (a == b)
  | "!=" => pure (a != b)
  | "<" => pure (order == .lt)
  | ">" => pure (order == .gt)
  | "-eq" => return (← c.number a) == (← c.number b)
  | "-ne" => return (← c.number a) != (← c.number b)
  | "-lt" => return decide ((← c.number a) < (← c.number b))
  | "-le" => return decide ((← c.number a) ≤ (← c.number b))
  | "-gt" => return decide ((← c.number b) < (← c.number a))
  | "-ge" => return decide ((← c.number b) ≤ (← c.number a))
  | "-nt" => pure (c.surroundings.newer true a b)
  | "-ot" => pure (c.surroundings.newer true b a)
  | _ => pure (c.surroundings.same a b)

/-- What is said where a word is missing behind the last one. -/
def beyond {α : Type} (c : Counted) (last : Octets) : Except Octets α :=
  .error (if c.isProgram then "missing argument after ".toList ++ Quoting.plain last
    else "argument expected".toList)

def two (c : Counted) (a b : Octets) : Except Octets Bool :=
  if a == ['!'] then .ok b.isEmpty
  else if c.isUnary a then c.testUnary a b
  else if c.isProgram && !(a.length = 2 && a.head? == some '-') then c.beyond b
  else .error (c.named a ++ ": unary operator expected".toList)

/-- A part of a condition: its outcome and the words behind it. -/
abbrev Part := Except Octets (Bool × List Octets)

mutual

def three (c : Counted) : Nat → Octets → Octets → Octets → Except Octets Bool
  | 0, _, _, _ => .ok false
  | fuel + 1, a, op, b =>
    if c.isBinary op then c.testBinary op a b
    else if !c.isProgram && op == ['-', 'a'] then .ok (!a.isEmpty && !b.isEmpty)
    else if !c.isProgram && op == ['-', 'o'] then .ok (!a.isEmpty || !b.isEmpty)
    else if a == ['!'] then return !(← c.two op b)
    else if a == ['('] && b == [')'] then .ok (!op.isEmpty)
    else if op == ['-', 'a'] || op == ['-', 'o'] then
      (either c fuel op [a, op, b]).map Prod.fst
    else .error (c.named op ++ ": binary operator expected".toList)

/-- Tests words by their number. What is left of them is given too. -/
def whole (c : Counted) : Nat → List Octets → Part
  | 0, words => .ok (false, words)
  | fuel + 1, words => do
    let done (b : Except Octets Bool) : Part := return (← b, [])
    match words with
    | [] => pure (false, [])
    | [a] => pure (!a.isEmpty, [])
    | [a, b] => done (c.two a b)
    | [a, b, d] => done (three c fuel a b d)
    | [a, b, d, e] =>
      if a == ['!'] then return (!(← three c fuel b d e), [])
      else if a == ['('] && e == [')'] then done (c.two b d)
      else either c fuel e words
    | words => either c fuel (words.getLast?.getD []) words

def either (c : Counted) : Nat → Octets → List Octets → Part
  | 0, _, words => .ok (false, words)
  | fuel + 1, last, words => do
    let (a, rest) ← both c fuel last words
    match rest with
    | ['-', 'o'] :: rest => do
      let (b, rest) ← either c fuel last rest
      pure (a || b, rest)
    | rest => pure (a, rest)

def both (c : Counted) : Nat → Octets → List Octets → Part
  | 0, _, words => .ok (false, words)
  | fuel + 1, last, words => do
    let (a, rest) ← term c fuel last words
    match rest with
    | ['-', 'a'] :: rest => do
      let (b, rest) ← both c fuel last rest
      pure (a && b, rest)
    | rest => pure (a, rest)

def term (c : Counted) : Nat → Octets → List Octets → Part
  | 0, _, words => .ok (false, words)
  | fuel + 1, last, words =>
    match words with
    | [] => c.beyond last
    | ['!'] :: rest => do
      let (a, rest) ← term c fuel last rest
      pure (!a, rest)
    | ['('] :: rest => do
      let inside := rest.takeWhile (· != [')'])
      let (a, rest) ←
        if rest.isEmpty then c.beyond last
        else if c.isProgram && inside.length ≤ 4 && inside.length < rest.length && !inside.isEmpty then
          return (← whole c fuel inside).map id fun left => left ++ rest.drop inside.length
        else either c fuel last rest
      match rest with
      | [')'] :: rest => pure (a, rest)
      | [] => match c.behind with
        | some w => throw ("\x60)' expected, found ".toList ++ w)
        | none => throw (if c.isProgram then "')' expected".toList else "\x60)' expected".toList)
      | w :: _ =>
        throw ((if c.isProgram then "')' expected, found " else "\x60)' expected, found ").toList ++
          c.named w)
    | [a] =>
      if c.isProgram && a.length = 2 && a.head? == some '-' then
        if c.isUnary a then c.beyond last
        else .error (c.named a ++ ": unary operator expected".toList)
      else .ok (!a.isEmpty, [])
    | a :: b :: rest =>
      match rest with
      | d :: behind =>
        if c.isBinary b then do
          let value ← c.testBinary b a d
          pure (value, behind)
        else if c.isUnary a then do
          let value ← c.testUnary a b
          pure (value, rest)
        else pure (!a.isEmpty, b :: rest)
      | [] =>
        if c.isUnary a then do
          let value ← c.testUnary a b
          pure (value, [])
        else pure (!a.isEmpty, [b])

end

def evaluate (c : Counted) (words : List Octets) : Except Octets Bool := do
  let (value, rest) ← whole c (8 * words.length + 8) words
  match rest with
  | [] => pure value
  | w :: _ =>
    if c.isProgram then throw ("extra argument ".toList ++ Quoting.plain w)
    else if w.head? == some '-' then
      throw ("syntax error: \x60".toList ++ w ++ "' unexpected".toList)
    else throw "too many arguments".toList

end Counted

end MediaPipeline.Shell
