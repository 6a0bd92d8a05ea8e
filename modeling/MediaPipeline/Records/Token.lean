import MediaPipeline.Records.Format

/-!
The tokens of a script, and the state in which it is read. What a sign means depends on what has been
read: a slash divides behind a value and begins a pattern elsewhere, and an angle bracket sends output
to a file, or takes a record from one, where a statement asks for that.
-/

namespace MediaPipeline.Records

inductive Token where
  | finish
  | newline
  | semicolon
  /-- The end of a statement in front of a closing brace. -/
  | implied
  | sign (s : String)
  | number (x : Float) (written : Octets)
  | text (t : Octets)
  | pattern (t : Octets)
  | name (t : Octets)
  | function (t : Octets)
  | keyword (w : String)
  | standard (w : String)
  | field (n : Nat)
  | output (d : Destination) (written : String)
  /-- The sign in front of a file that a record is taken from. -/
  | input
  | stray (c : Char)
  deriving Inhabited

namespace Token

def shown : Token → Octets
  | finish => "end of file".toList
  | newline => "end of line".toList
  | semicolon => [';']
  | implied => ['\x7d']
  | sign s | keyword s | standard s | output _ s => s.toList
  | number _ t | text t | name t | function t => t
  | pattern t => '/' :: t ++ ['/']
  | field _ => ['$']
  | input => ['<']
  | stray c => [c]

def isSign (t : Token) (s : String) : Bool :=
  match t with
  | sign u => u == s
  | _ => false

def isKeyword (t : Token) (w : String) : Bool :=
  match t with
  | keyword u => u == w
  | _ => false

def endsStatement : Token → Bool
  | newline | semicolon | implied => true
  | _ => false

def isOperand : Token → Bool
  | number .. | text _ | pattern _ | name _ | function _ | field _ => true
  | sign s => [")", "]", "++", "--"].contains s
  | keyword w => w == "getline"
  | standard w => w == "length"
  | _ => false

end Token

def keywords : List String := [
  "BEGIN", "END", "function", "if", "else", "for", "while", "do", "break", "continue", "next",
  "nextfile", "exit", "return", "delete", "in", "getline", "print", "printf"]

/-- The functions that are always there, with how many arguments they take; some take arguments of
another kind. -/
def standardFunctions : List (String × Standard × Nat × Nat) := [
  ("length", .length, 0, 1), ("index", .index, 2, 2), ("substr", .substr, 2, 3),
  ("sprintf", .sprintf, 1, 255), ("sin", .sin, 1, 1), ("cos", .cos, 1, 1),
  ("atan2", .atan2, 2, 2), ("exp", .exp, 1, 1), ("log", .log, 1, 1), ("int", .int, 1, 1),
  ("sqrt", .sqrt, 1, 1), ("rand", .rand, 0, 0), ("srand", .srand, 0, 1),
  ("close", .close, 1, 1), ("system", .system, 1, 1), ("toupper", .toupper, 1, 1),
  ("tolower", .tolower, 1, 1), ("fflush", .fflush, 0, 1), ("systime", .time, 0, 0),
  ("strftime", .timeText, 0, 3), ("mktime", .timeOf, 1, 1)]

def otherFunctions : List String :=
  ["split", "match", "sub", "gsub"]

/-- Signs, those that begin like others in front of them. -/
def signs : List String := [
  "+=", "++", "+", "-=", "--", "-", "*=", "*", "/=", "/", "%=", "%", "^=", "^", "==", "=", "!=", "!~",
  "!", "<=", "<", ">=", ">", "&&", "||", "|", "~", "?", ":", ",", "(", ")", "[", "]", "\x7b", "\x7d", "$"]

/-! ### The state of reading -/

inductive Use where
  | unknown
  | value
  | table
  deriving DecidableEq

inductive Part where
  | before
  | behind
  | rule
  | function
  deriving DecidableEq

structure Source where
  reader : Octets
  file : Option Octets := none
  rest : Octets
  later : List (Octets × Octets) := []
  line : Nat := 1
  tokenLine : Nat := 1
  last : Token := .newline
  ahead : Option Token := none
  parens : Nat := 0
  braces : Nat := 0
  /-- An angle bracket outside parentheses sends output, and the other one takes a record. -/
  prints : Bool := false
  takes : Bool := false
  names : Array (Octets × Use) := (standingNames.map fun n =>
    (n.toList, if n == "ENVIRON" || n == "ARGV" then Use.table else Use.value)).toArray
  functions : Array (Octets × Option Definition) := #[]
  parameters : Array (Octets × Use) := #[]
  part : Part := .rule
  loops : Nat := 0
  calls : Array (Nat × Nat × Nat) := #[]
  faults : Array Octets := #[]
  /-- So many tokens have to be read before a further fault is told. -/
  quiet : Nat := 0

inductive Halt where
  /-- A token is out of place; reading may go on behind it. -/
  | misplaced
  | forGood

abbrev Reader := ExceptT Halt (StateM Source)

namespace Reader

def faultBound : Nat := 5

def faultFront (s : Source) : Octets :=
  s.reader ++ ": ".toList ++ (match s.file with
    | some f => f ++ ": ".toList
    | none => []) ++ "line ".toList ++ Octets.ofNat s.tokenLine ++ ": ".toList

def tell (text : Octets) : Reader Unit := do
  modify fun s => { s with faults := s.faults.push (text ++ ['\n']) }
  if (← get).faults.size ≥ faultBound then throw .forGood

def fault (text : Octets) : Reader Unit := do
  tell (faultFront (← get) ++ text)

def strayText (s : Source) (c : Char) : Octets :=
  let shown := if 32 ≤ c.toNat && c.toNat < 127 then '\'' :: c :: ['\'']
    else "0x".toList ++ (if c.toNat < 16 then ['0'] else []) ++ Nat.toDigits 16 c.toNat
  s.reader ++ ": ".toList ++ Octets.ofNat s.tokenLine ++ ": unexpected character ".toList ++ shown

def stop {α : Type} (text : Octets) : Reader α := do
  fault text
  throw .forGood

/-! ### Characters -/

def isBlank (c : Char) : Bool :=
  c == ' ' || c == '\t' || c == '\x0b' || c == '\x0c' || c == '\r'

def isNameStart (c : Char) : Bool :=
  c.isAlpha || c == '_'

def isNameChar (c : Char) : Bool :=
  c.isAlphanum || c == '_'

def skipBlanks : Reader Unit :=
  modify fun s => { s with rest := s.rest.dropWhile isBlank }

def behindLines : Nat → Nat → Octets → Octets × Nat
  | 0, line, text => (text, line)
  | _, line, [] => ([], line)
  | fuel + 1, line, c :: rest =>
    if c == '\n' then behindLines fuel (line + 1) rest
    else if isBlank c then behindLines fuel line rest
    else if c == '#' then behindLines fuel line (rest.dropWhile (· != '\n'))
    else if c == '\\' then
      match rest.dropWhile isBlank with
      | '\n' :: rest => behindLines fuel (line + 1) rest
      | _ => (c :: rest, line)
    else (c :: rest, line)

def skipLines : Reader Unit :=
  modify fun s =>
    let (rest, line) := behindLines (s.rest.length + 1) s.line s.rest
    { s with rest, line }

/-! ### Texts, patterns and numbers -/

/-- A text with its escapes replaced. Characters without a meaning keep their backslash. -/
def unescaped : Nat → Octets → Octets
  | 0, t => t
  | _, [] => []
  | fuel + 1, '\\' :: c :: rest =>
    let digits := ((c :: rest).take 3).takeWhile fun d => '0' ≤ d && d ≤ '7'
    if !digits.isEmpty then
      let n := digits.foldl (fun n d => 8 * n + (d.toNat - 48)) 0
      Char.ofNat (n % 256) :: unescaped fuel ((c :: rest).drop digits.length)
    else match c, Shell.takeCode? 16 2 rest, Shell.RegexReader.controlLetter? c with
      | 'x', some (n, rest), _ => Char.ofNat n :: unescaped fuel rest
      | _, _, some d => d :: unescaped fuel rest
      | _, _, none =>
        if c == '"' || c == '\\' then c :: unescaped fuel rest
        else if c == '\n' then unescaped fuel rest
        else '\\' :: c :: unescaped fuel rest
  | fuel + 1, c :: rest => c :: unescaped fuel rest

/-- The text up to a closing quote, and what follows; none if the line ends first. -/
def quoted? : Nat → Octets → Octets → Option (Octets × Octets)
  | 0, _, _ | _, _, [] => none
  | fuel + 1, done, c :: rest =>
    if c == '"' then some (done.reverse, rest)
    else if c == '\n' then none
    else match c, rest with
      | '\\', d :: rest => quoted? fuel (d :: c :: done) rest
      | _, rest => quoted? fuel (c :: done) rest

/-- The text up to a closing slash outside brackets, and what follows; none if the line ends first. -/
def slashed? : Nat → Option Nat → Octets → Octets → Option (Octets × Octets)
  | 0, _, _, _ | _, _, _, [] => none
  | fuel + 1, set, done, c :: rest =>
    if c == '\n' then none
    else match c, set, rest with
      | '\\', set, d :: rest =>
        if d == '/' then slashed? fuel (set.map (· + 1)) (d :: done) rest
        else slashed? fuel (set.map (· + 1)) (d :: c :: done) rest
      | '/', none, rest => some (done.reverse, rest)
      | '[', none, '^' :: rest => slashed? fuel (some 0) ('^' :: c :: done) rest
      | '[', none, rest => slashed? fuel (some 0) (c :: done) rest
      | '[', some n, ':' :: rest =>
        let inside := rest.takeWhile Char.isAlpha
        match rest.drop inside.length with
        | ':' :: ']' :: behind =>
          slashed? fuel (some (n + 1)) ((c :: ':' :: inside ++ [':', ']']).reverse ++ done) behind
        | _ => slashed? fuel (some (n + 1)) (':' :: c :: done) rest
      | ']', some 0, rest => slashed? fuel (some 1) (c :: done) rest
      | ']', some _, rest => slashed? fuel none (c :: done) rest
      | c, set, rest => slashed? fuel (set.map (· + 1)) (c :: done) rest

def beginning (text : Octets) : Octets :=
  (text.takeWhile (· != '\n')).take 10

def digitsOf (text : Octets) : Octets :=
  let whole := text.takeWhile Char.isDigit
  let rest := text.drop whole.length
  let fraction := match rest with
    | '.' :: rest => '.' :: rest.takeWhile Char.isDigit
    | _ => []
  let exponent := match rest.drop fraction.length with
    | e :: rest =>
      if e == 'e' || e == 'E' then
        let (sign, rest) := match rest with
          | '+' :: rest => (['+'], rest)
          | '-' :: rest => (['-'], rest)
          | rest => ([], rest)
        let digits := rest.takeWhile Char.isDigit
        if digits.isEmpty then [] else e :: sign ++ digits
      else []
    | [] => []
  whole ++ fraction ++ exponent

/-! ### Tokens -/

def functionNumber? (s : Source) (name : Octets) : Option Nat :=
  s.functions.findIdx? (·.1 == name)

/-- What a name stands for. A name in front of a parenthesis is a function where it is not known
as anything else. -/
def nameToken (name : Octets) : Reader Token := do
  let s ← get
  let word := String.ofList name
  if keywords.contains word then pure (.keyword word)
  else if otherFunctions.contains word || (standardFunctions.lookup word).isSome then
    pure (.standard word)
  else if s.parameters.any (·.1 == name) then pure (.name name)
  else if (functionNumber? s name).isSome then pure (.function name)
  else if s.rest.head? == some '(' && !s.names.any (·.1 == name) then
    set { s with functions := s.functions.push (name, none) }
    pure (.function name)
  else pure (.name name)

def signToken (c : Char) : Reader Token := do
  let s ← get
  match signs.find? fun g => g.toList.isPrefixOf s.rest with
  | none => do
    set { s with rest := s.rest.drop 1 }
    pure (.stray c)
  | some g =>
    let rest := s.rest.drop g.length
    let plain : Reader Token := do
      set { s with rest }
      pure (.sign g)
    let free := s.prints && s.parens = 0
    match g with
    | "(" => do
      set { s with rest, parens := s.parens + 1 }
      pure (.sign g)
    | ")" => do
      set { s with rest, parens := s.parens - 1 }
      pure (.sign g)
    | "\x7b" => do
      set { s with rest, braces := s.braces + 1 }
      skipLines
      pure (.sign g)
    | "&&" | "||" | "," => do
      set { s with rest }
      skipLines
      pure (.sign g)
    | "|" =>
      if free then do
        set { s with rest, prints := false }
        pure (.output .command g)
      else plain
    | ">" | ">=" =>
      if free then do
        let append := s.rest.tail.head? == some '>'
        set { s with rest := s.rest.drop (if append then 2 else 1), prints := false }
        pure (if append then .output .append ">>" else .output .file ">")
      else plain
    | "<" =>
      if s.takes then do
        set { s with rest, takes := false }
        pure .input
      else plain
    | "$" => do
      let behind := rest.dropWhile isBlank
      match behind with
      | d :: _ =>
        if d.isDigit || d == '.' then do
          let digits := digitsOf behind
          set { s with rest := behind.drop digits.length }
          let x := Number.ofText digits
          match Number.short? x with
          | some n => pure (.field n.toNat)
          | none => do
            fault ('$' :: formattedNumber "%g".toList x ++ " is invalid field index".toList)
            pure (.field 1)
        else plain
      | [] => plain
    | _ => plain

def nextToken : Nat → Reader Token
  | 0 => pure .finish
  | fuel + 1 => do
    skipBlanks
    modify fun s => { s with tokenLine := s.line }
    let s ← get
    match s.rest with
    | [] =>
      match s.later with
      | [] => pure .finish
      | (file, text) :: later => do
        set { s with file := some file, rest := text, later, line := 1 }
        skipLines
        nextToken fuel
    | '\n' :: rest => do
      set { s with rest, line := s.line + 1 }
      skipLines
      pure .newline
    | '#' :: rest => do
      set { s with rest := rest.dropWhile (· != '\n') }
      nextToken fuel
    | ';' :: rest => do
      set { s with rest }
      skipLines
      pure .semicolon
    | '\\' :: rest =>
      match rest.dropWhile isBlank with
      | '\n' :: rest => do
        set { s with rest, line := s.line + 1 }
        nextToken fuel
      | _ => do
        set { s with rest }
        pure (.stray '\\')
    | '\x7d' :: rest =>
      if s.braces = 0 then do
        fault "extra '\x7d'".toList
        set { (← get) with rest }
        skipSemicolon
        nextToken fuel
      else if s.last.endsStatement || s.last.isSign "\x7d" then do
        set { s with rest, braces := s.braces - 1 }
        if s.braces = 1 then
          skipSemicolon
          skipLines
        pure (.sign "\x7d")
      else pure .implied
    | ')' :: rest =>
      if s.parens = 0 then do
        fault "extra ')'".toList
        set { (← get) with rest }
        nextToken fuel
      else signToken ')'
    | '"' :: rest =>
      match quoted? (rest.length + 1) [] rest with
      | some (t, rest) => do
        set { s with rest, line := s.line + t.count '\n' }
        pure (.text (unescaped (t.length + 1) t))
      | none =>
        stop ("runaway string constant \"".toList ++ beginning rest ++ " ...".toList)
    | '/' :: rest =>
      if s.last.isOperand then signToken '/'
      else match slashed? (rest.length + 1) none [] rest with
        | some (t, rest) => do
          set { s with rest }
          pure (.pattern t)
        | none =>
          stop ("runaway regular expression /".toList ++ beginning rest ++ " ...".toList)
    | c :: rest =>
      if c.isDigit || (c == '.' && rest.head?.any Char.isDigit) then do
        let digits := digitsOf s.rest
        set { s with rest := s.rest.drop digits.length }
        match Shell.Real.take? .double digits with
        | some (⟨_, .infinite⟩, _, true) => fault (digits ++ " : decimal overflow".toList)
        | some (_, _, true) => fault (digits ++ " : decimal underflow".toList)
        | _ => pure ()
        pure (.number (Number.ofText digits) digits)
      else if isNameStart c then do
        let name := s.rest.takeWhile isNameChar
        set { s with rest := s.rest.drop name.length }
        nameToken name
      else signToken c
where
  skipSemicolon : Reader Unit := do
    skipBlanks
    modify fun s => match s.rest with
      | ';' :: rest => { s with rest }
      | _ => s

def peek : Reader Token := do
  match (← get).ahead with
  | some t => pure t
  | none => do
    let t ← nextToken ((← get).rest.length + 2)
    modify fun s => { s with ahead := some t, last := t }
    pure t

def advance : Reader Unit :=
  modify fun s => { s with ahead := none, quiet := s.quiet - 1 }

def misplaced {α : Type} : Reader α := do
  let t ← peek
  let s ← get
  match t, s.quiet with
  | .stray c, 0 => tell (strayText s c)
  | t, 0 =>
    let closes := t.endsStatement || t.isSign "\x7d"
    let text :=
      if closes && s.parens != 0 then "missing ) near ".toList
      else if t matches .finish && s.braces != 0 then "missing \x7d near ".toList
      else "syntax error at or near ".toList
    fault (text ++ t.shown)
  | _, _ => pure ()
  modify fun s => { s with quiet := 3 }
  throw .misplaced

def expect (s : String) : Reader Unit := do
  if (← peek).isSign s then advance else misplaced

/-- Steps over a sign if it comes next, and says whether it did. -/
def accept (s : String) : Reader Bool := do
  if (← peek).isSign s then
    advance
    pure true
  else pure false

end Reader

end MediaPipeline.Records
