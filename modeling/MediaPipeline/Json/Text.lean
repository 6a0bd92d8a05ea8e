import MediaPipeline.Json.Fault

/-!
Texts inside a document: the units they are spelled with, how the units are read as characters,
and the spelling chosen when a text is written. Escaped code units above the basic plane come in
pairs of surrogates; a reader that only steps over a text does not look at the pairing.
-/

namespace MediaPipeline.Json

inductive TextUnit where
  | plain (c : Char)
  | escape (letter : Char)
  /-- A code unit of 16 bits, given by four hexadecimal digits. -/
  | code (unit : Nat)
  deriving DecidableEq

def unescape? : Char → Option Char
  | '"' => some '"'
  | '\\' => some '\\'
  | '/' => some '/'
  | 'b' => some '\x08'
  | 'f' => some '\x0c'
  | 'n' => some '\n'
  | 'r' => some '\r'
  | 't' => some '\t'
  | _ => none

inductive TextEnd where
  | quote
  /-- The end of the document, also right after a backslash. -/
  | missing
  /-- A character that may only appear escaped. -/
  | control
  | letter
  /-- A code unit whose digits are not hexadecimal. -/
  | digits
  /-- A code unit with fewer digits than it needs before the end of the document. -/
  | fewDigits
  deriving DecidableEq

def TextEnd.fault? : TextEnd → Option Fault
  | quote => none
  | missing => some .unfinishedText
  | control => some .controlCharacter
  | letter => some .invalidEscape
  | digits => some .invalidEscape
  | fewDigits => some .unfinishedText

/-- The fault of a text that ends so where the second half of a pair is due. -/
def TextEnd.faultInPair : TextEnd → Fault
  | quote => .unfinishedSurrogatePair
  | missing => .unfinishedText
  | control => .unfinishedSurrogatePair
  | letter => .unfinishedSurrogatePair
  | digits => .invalidEscape
  | fewDigits => .unfinishedText

structure Spelling where
  units : List TextUnit
  ending : TextEnd
  deriving DecidableEq

def isHighSurrogate (unit : Nat) : Bool :=
  0xD800 ≤ unit && unit ≤ 0xDBFF

def isLowSurrogate (unit : Nat) : Bool :=
  0xDC00 ≤ unit && unit ≤ 0xDFFF

/-- The characters that units stand for; the first fault from the left wins. -/
def readUnits (ending : TextEnd) : List TextUnit → Except Fault (List Char)
  | [] => match ending.fault? with
    | none => .ok []
    | some f => .error f
  | .plain c :: rest => (c :: ·) <$> readUnits ending rest
  | .escape letter :: rest => ((unescape? letter).getD letter :: ·) <$> readUnits ending rest
  | .code high :: rest =>
    if isLowSurrogate high then .error .loneSurrogate
    else if isHighSurrogate high then
      match rest with
      | [] => .error ending.faultInPair
      | .code low :: rest =>
        if isLowSurrogate low then
          (Char.ofNat (0x10000 + (high - 0xD800) * 0x400 + (low - 0xDC00)) :: ·) <$>
            readUnits ending rest
        else .error .loneSurrogate
      | _ => .error .unfinishedSurrogatePair
    else (Char.ofNat high :: ·) <$> readUnits ending rest

def Spelling.read (s : Spelling) : Except Fault String :=
  String.ofList <$> readUnits s.ending s.units

def Spelling.skip (s : Spelling) : Except Fault Unit :=
  match s.ending.fault? with
  | none => .ok ()
  | some f => .error f

/-- The unit a character is written with: quotes, backslashes and control characters are escaped,
by a letter where there is one. -/
def TextUnit.ofChar (c : Char) : TextUnit :=
  match c with
  | '"' => .escape '"'
  | '\\' => .escape '\\'
  | '\x08' => .escape 'b'
  | '\x0c' => .escape 'f'
  | '\n' => .escape 'n'
  | '\r' => .escape 'r'
  | '\t' => .escape 't'
  | c => if c.toNat < 0x20 then .code c.toNat else .plain c

def Spelling.ofString (s : String) : Spelling :=
  ⟨s.toList.map .ofChar, .quote⟩

def hexDigit (n : Nat) : Char :=
  "0123456789abcdef".toList.getD n '0'

def TextUnit.print : TextUnit → List Char
  | plain c => [c]
  | escape letter => ['\\', letter]
  | code n => ['\\', 'u', hexDigit (n / 4096 % 16), hexDigit (n / 256 % 16), hexDigit (n / 16 % 16),
      hexDigit (n % 16)]

def Spelling.print (s : Spelling) : List Char :=
  '"' :: s.units.flatMap TextUnit.print ++ ['"']

end MediaPipeline.Json
