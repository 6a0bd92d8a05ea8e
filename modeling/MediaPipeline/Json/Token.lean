import MediaPipeline.Json.Text

/-!
The lexemes of a document. A scanner walks the text character by character; its mode holds what it
has seen of the current lexeme. White space between lexemes leaves no trace. Where the text is no
document, the last token says what is wrong, separately for a reader that wants the value there and
for one that only steps over it.
-/

namespace MediaPipeline.Json

inductive Token where
  | openBrace
  | closeBrace
  | openBracket
  | closeBracket
  | comma
  | colon
  | null
  | boolean (b : Bool)
  | number (text : List Char)
  | text (spelling : Spelling)
  /-- No lexeme: the fault for a reader, the fault for one that steps over it, and whether it begins
  like a number or a truth value. -/
  | broken (read skipped : Fault) (scalar : Bool)
  deriving DecidableEq

inductive NumeralState where
  | sign
  | zero
  | whole
  | point
  | fraction
  | mark
  | markSign
  | exponent
  deriving DecidableEq

/-- What a character means inside a numeral. -/
inductive NumeralStep where
  | more (state : NumeralState)
  | stop
  | fault

namespace NumeralState

/-- Whether a numeral may end here. -/
def isFinal : NumeralState → Bool
  | zero | whole | fraction | exponent => true
  | sign | point | mark | markSign => false

private def isDigit (c : Char) : Bool :=
  '0' ≤ c && c ≤ '9'

private def isMark (c : Char) : Bool :=
  c == 'e' || c == 'E'

def step (s : NumeralState) (c : Char) : NumeralStep :=
  match s with
  | sign => if c == '0' then .more zero else if isDigit c then .more whole else .fault
  | zero => if isDigit c then .fault else if c == '.' then .more point
      else if isMark c then .more mark else .stop
  | whole => if isDigit c then .more whole else if c == '.' then .more point
      else if isMark c then .more mark else .stop
  | point => if isDigit c then .more fraction else .fault
  | fraction => if isDigit c then .more fraction else if isMark c then .more mark else .stop
  | mark => if isDigit c then .more exponent else if c == '+' || c == '-' then .more markSign
      else .fault
  | markSign => if isDigit c then .more exponent else .fault
  | exponent => if isDigit c then .more exponent else .stop

end NumeralState

/-- What a scanner has seen of the current lexeme; lists are reversed. -/
inductive Mode where
  | between
  | word (due : List Char) (token : Token)
  | text (units : List TextUnit)
  | escape (units : List TextUnit)
  /-- Inside a code unit, with the digits seen and their value. -/
  | code (units : List TextUnit) (count value : Nat)
  | numeral (text : List Char) (state : NumeralState)

def hexValue? (c : Char) : Option Nat :=
  if '0' ≤ c ∧ c ≤ '9' then some (c.toNat - '0'.toNat)
  else if 'a' ≤ c ∧ c ≤ 'f' then some (c.toNat - 'a'.toNat + 10)
  else if 'A' ≤ c ∧ c ≤ 'F' then some (c.toNat - 'A'.toNat + 10)
  else none

def byteLength (text : List Char) : Nat :=
  text.foldl (fun n c => n + c.utf8Size) 0

/-- Handles the first character of a lexeme, where `rest` scans what follows it. -/
def Token.start (c : Char) (rest : Mode → List Token) : List Token :=
  match c with
  | ' ' | '\t' | '\n' | '\r' => rest .between
  | '{' => openBrace :: rest .between
  | '}' => closeBrace :: rest .between
  | '[' => openBracket :: rest .between
  | ']' => closeBracket :: rest .between
  | ',' => comma :: rest .between
  | ':' => colon :: rest .between
  | 'n' => rest (.word ['u', 'l', 'l'] null)
  | 't' => rest (.word ['r', 'u', 'e'] (boolean true))
  | 'f' => rest (.word ['a', 'l', 's', 'e'] (boolean false))
  | '"' => rest (.text [])
  | '-' => rest (.numeral ['-'] .sign)
  | '0' => rest (.numeral ['0'] .zero)
  | c => if '1' ≤ c ∧ c ≤ '9' then rest (.numeral [c] .whole)
      else [broken .valueExpected .valueExpected false]

def Token.ofText (units : List TextUnit) (ending : TextEnd) : Token :=
  text ⟨units.reverse, ending⟩

def Token.scan : Mode → List Char → List Token
  | .between, [] => []
  | .between, c :: rest => start c fun mode => scan mode rest
  | .word _ token, [] => [broken .unfinishedValue .unfinishedValue (token != null)]
  | .word due token, c :: rest =>
    match due with
    | [] => token :: start c fun mode => scan mode rest
    | [d] =>
      if c = d then token :: scan .between rest
      else [broken .wordExpected .wordExpected (token != null)]
    | d :: due =>
      if c = d then scan (.word due token) rest
      else [broken .wordExpected .wordExpected (token != null)]
  | .text units, [] => [ofText units .missing]
  | .text units, c :: rest =>
    if c = '"' then ofText units .quote :: scan .between rest
    else if c = '\\' then scan (.escape units) rest
    else if c.toNat < 0x20 then [ofText units .control]
    else scan (.text (.plain c :: units)) rest
  | .escape units, [] => [ofText units .missing]
  | .escape units, c :: rest =>
    if c = 'u' then scan (.code units 0 0) rest
    else if (unescape? c).isSome then scan (.text (.escape c :: units)) rest
    else [ofText units .letter]
  | .code units _ _, [] => [ofText units .fewDigits]
  | .code units count value, c :: rest =>
    match hexValue? c with
    | some d =>
      if count = 3 then scan (.text (.code (16 * value + d) :: units)) rest
      else scan (.code units (count + 1) (16 * value + d)) rest
    | none => [ofText units (if count + byteLength (c :: rest) < 4 then .fewDigits else .digits)]
  | .numeral seen state, [] =>
    if state.isFinal then [number seen.reverse] else [broken .unfinishedValue .invalidNumber true]
  | .numeral seen state, c :: rest =>
    match state.step c with
    | .more state => scan (.numeral (c :: seen) state) rest
    | .stop => number seen.reverse :: start c fun mode => scan mode rest
    | .fault => [broken .invalidNumber .invalidNumber true]

def Token.ofDocument (text : String) : List Token :=
  scan .between text.toList

end MediaPipeline.Json
