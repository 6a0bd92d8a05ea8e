import MediaPipeline.Text.Octets

/-!
The characters that bytes make in UTF-8, and what kind of character each of them is. A byte that
belongs to no character stands for itself, as one of the private characters at the end of the code
space, so that the bytes can be had back.
-/

namespace MediaPipeline

namespace Octets

/-- Where the characters begin that stand for bytes. -/
def strayBase : Nat := 0x10FF00

def stray (c : Char) : Char :=
  Char.ofNat (strayBase + c.toNat)

/-- Whether a character stands for a byte that belongs to none. -/
def isStray (c : Char) : Bool :=
  strayBase ≤ c.toNat

/-- The low bits of a byte that goes on with a character. -/
def continuation? (c : Char) : Option Nat :=
  if 0x80 ≤ c.toNat && c.toNat < 0xC0 then some (c.toNat - 0x80) else none

/-- The characters of a text whose bytes are in order. A lead byte is followed by as many others as it
asks for, or it belongs to no character. -/
def decode : Octets → List Char
  | [] => []
  | a :: rest =>
    let n := a.toNat
    let kept (code : Nat) : Bool := code < 0xD800 || (0xDFFF < code && code < strayBase)
    if n < 0x80 then a :: decode rest
    else if 0xC2 ≤ n && n < 0xE0 then
      match rest with
      | b :: more =>
        match continuation? b with
        | some x => Char.ofNat ((n - 0xC0) * 64 + x) :: decode more
        | none => stray a :: decode (b :: more)
      | [] => [stray a]
    else if 0xE0 ≤ n && n < 0xF0 then
      match rest with
      | b :: c :: more =>
        match continuation? b, continuation? c with
        | some x, some y =>
          let code := (n - 0xE0) * 4096 + x * 64 + y
          if 0x800 ≤ code && kept code then Char.ofNat code :: decode more
          else stray a :: decode (b :: c :: more)
        | _, _ => stray a :: decode (b :: c :: more)
      | rest => stray a :: decode rest
    else if 0xF0 ≤ n && n < 0xF5 then
      match rest with
      | b :: c :: d :: more =>
        match continuation? b, continuation? c, continuation? d with
        | some x, some y, some z =>
          let code := (n - 0xF0) * 262144 + x * 4096 + y * 64 + z
          if 0x10000 ≤ code && kept code then Char.ofNat code :: decode more
          else stray a :: decode (b :: c :: d :: more)
        | _, _, _ => stray a :: decode (b :: c :: d :: more)
      | rest => stray a :: decode rest
    else stray a :: decode rest

def characters (text : Octets) : List Char :=
  if text.all fun c => c.toNat < 0x80 then text else decode text

def ofCharacter (c : Char) : Octets :=
  if c.toNat < 0x80 then [c]
  else if isStray c then [Char.ofNat (c.toNat - strayBase)]
  else ofBytes (String.utf8EncodeChar c)

/-- The bytes of a code, which may lie beyond those of all characters. -/
def ofCode (n : Nat) : Octets :=
  let low (shift : Nat) : Char := Char.ofNat (0x80 + n / Nat.pow 64 shift % 64)
  if n < 0x80 then [Char.ofNat n]
  else if n < 0x800 then [Char.ofNat (0xC0 + n / 64), low 0]
  else if n < 0x10000 then [Char.ofNat (0xE0 + n / 4096), low 1, low 0]
  else if n < 0x200000 then [Char.ofNat (0xF0 + n / 262144), low 2, low 1, low 0]
  else if n < 0x4000000 then [Char.ofNat (0xF8 + n / Nat.pow 64 4), low 3, low 2, low 1, low 0]
  else [Char.ofNat (0xFC + n / Nat.pow 64 5 % 4), low 4, low 3, low 2, low 1, low 0]

/-- The number of the first character of a text, or of its first byte where that belongs to none. -/
def firstCode (text : Octets) : Nat :=
  match characters (text.take 4) with
  | c :: _ => if isStray c then c.toNat - strayBase else c.toNat
  | [] => 0

def ofCharacters (cs : List Char) : Octets :=
  if cs.all fun c => c.toNat < 0x80 then cs else cs.flatMap ofCharacter

end Octets

/-! ### Kinds of characters -/

namespace Letter

/-- Ranges of letters beyond ASCII. -/
def alphabets : List (Nat × Nat) := [
  (0xAA, 0xAA), (0xB5, 0xB5), (0xBA, 0xBA), (0xC0, 0xD6), (0xD8, 0xF6), (0xF8, 0x2C1),
  (0x2C6, 0x2D1), (0x2E0, 0x2E4), (0x345, 0x345), (0x370, 0x374), (0x376, 0x377), (0x37A, 0x37D),
  (0x37F, 0x37F), (0x386, 0x386), (0x388, 0x3F5), (0x3F7, 0x481), (0x48A, 0x52F), (0x531, 0x556),
  (0x559, 0x559), (0x560, 0x588), (0x5D0, 0x5EA), (0x5EF, 0x5F2), (0x620, 0x657), (0x66E, 0x6D3),
  (0x904, 0x939), (0xE01, 0xE3A), (0x10A0, 0x10FA), (0x10FC, 0x135A), (0x13A0, 0x13FD),
  (0x1E00, 0x1FBC), (0x1FC2, 0x1FCC), (0x1FD0, 0x1FDB), (0x1FE0, 0x1FEC), (0x1FF2, 0x1FFC),
  (0x2071, 0x2071), (0x207F, 0x207F), (0x2160, 0x2188), (0x24B6, 0x24E9), (0x2C00, 0x2CE4),
  (0x3005, 0x3007), (0x3031, 0x3035), (0x3041, 0x3096), (0x309D, 0x309F), (0x30A1, 0x30FA),
  (0x30FC, 0x30FF), (0x3105, 0x312F), (0x3131, 0x318E), (0x3400, 0x4DBF), (0x4E00, 0x9FFF),
  (0xA000, 0xA48C), (0xA640, 0xA66E), (0xA722, 0xA788), (0xAC00, 0xD7A3), (0xF900, 0xFAD9),
  (0xFB00, 0xFB06), (0xFF21, 0xFF3A), (0xFF41, 0xFF5A), (0xFF66, 0xFFDC), (0x10400, 0x1044F),
  (0x20000, 0x323AF)]

/-- Runs of small letters: the first and the last of them, how far one is from the next, and where
their capitals are. -/
def smallRuns : List (Nat × Nat × Nat × Int) := [
  (0xB5, 0xB5, 1, 743), (0xE0, 0xF6, 1, -32), (0xF8, 0xFE, 1, -32), (0xFF, 0xFF, 1, 121),
  (0x101, 0x12F, 2, -1), (0x131, 0x131, 1, -232), (0x133, 0x137, 2, -1), (0x13A, 0x148, 2, -1),
  (0x14B, 0x177, 2, -1), (0x17A, 0x17E, 2, -1), (0x17F, 0x17F, 1, -300), (0x1CE, 0x1DC, 2, -1),
  (0x1DF, 0x1EF, 2, -1), (0x1F9, 0x21F, 2, -1), (0x223, 0x233, 2, -1), (0x3AC, 0x3AC, 1, -38),
  (0x3AD, 0x3AF, 1, -37), (0x3B1, 0x3C1, 1, -32), (0x3C2, 0x3C2, 1, -31), (0x3C3, 0x3CB, 1, -32),
  (0x3CC, 0x3CC, 1, -64), (0x3CD, 0x3CE, 1, -63), (0x430, 0x44F, 1, -32), (0x450, 0x45F, 1, -80),
  (0x461, 0x481, 2, -1), (0x48B, 0x4BF, 2, -1), (0x4C2, 0x4CE, 2, -1), (0x4D1, 0x52F, 2, -1),
  (0x561, 0x586, 1, -48), (0x1E01, 0x1E95, 2, -1), (0x1EA1, 0x1EFF, 2, -1), (0xFF41, 0xFF5A, 1, -32),
  (0x10428, 0x1044F, 1, -40)]

def upper (c : Char) : Char :=
  let n := c.toNat
  if n < 0x80 then c.toUpper
  else match smallRuns.find? fun (first, last, step, _) =>
      first ≤ n && n ≤ last && (n - first) % step = 0 with
    | some (_, _, _, offset) => Char.ofNat (n + offset).toNat
    | none => c

/-- The small letter of a capital. -/
def lower (c : Char) : Char :=
  let n := c.toNat
  if n < 0x80 then c.toLower
  else match smallRuns.find? fun (first, last, step, offset) =>
      let small := (n : Int) - offset
      0x80 ≤ n && (first : Int) ≤ small && small ≤ last && (small - first) % step = 0 &&
        first != 0x3C2 && first != 0x17F && first != 0xB5 && first != 0x131 with
    | some (_, _, _, offset) => Char.ofNat ((n : Int) - offset).toNat
    | none => c

def isWithin (ranges : List (Nat × Nat)) (c : Char) : Bool :=
  ranges.any fun r => r.1 ≤ c.toNat && c.toNat ≤ r.2

def isAlpha (c : Char) : Bool :=
  if c.toNat < 0x80 then c.isAlpha else isWithin alphabets c

def isAlphanum (c : Char) : Bool :=
  isAlpha c || c.isDigit

def isUpper (c : Char) : Bool :=
  if c.toNat < 0x80 then c.isUpper else lower c != c

def isLower (c : Char) : Bool :=
  if c.toNat < 0x80 then c.isLower else upper c != c || c.toNat == 0xDF

/-- Blanks, and what moves the place of writing. -/
def isSpace (c : Char) : Bool :=
  let n := c.toNat
  c == ' ' || (9 ≤ n && n ≤ 13) || n = 0x1680 || (0x2000 ≤ n && n ≤ 0x200A && n != 0x2007) ||
    n = 0x2028 || n = 0x2029 || n = 0x205F || n = 0x3000

def isPrintable (c : Char) : Bool :=
  let n := c.toNat
  if n < 0xA0 then 32 ≤ n && n < 127
  else n != 0x2028 && n != 0x2029 && !(0xFFFE ≤ n && n ≤ 0xFFFF) && !Octets.isStray c

def isControl (c : Char) : Bool :=
  let n := c.toNat
  n < 32 || (127 ≤ n && n < 0xA0) || n = 0x2028 || n = 0x2029

def wideRanges : List (Nat × Nat) := [
  (0x1100, 0x115F), (0x231A, 0x231B), (0x23E9, 0x23EC), (0x2614, 0x2615), (0x26A1, 0x26A1),
  (0x2705, 0x2705), (0x274C, 0x274C), (0x2B50, 0x2B50), (0x2E80, 0x303E), (0x3041, 0x33FF),
  (0x3400, 0x4DBF), (0x4E00, 0xA4CF), (0xA960, 0xA97C), (0xAC00, 0xD7A3), (0xF900, 0xFAFF),
  (0xFE30, 0xFE6F), (0xFF01, 0xFF60), (0xFFE0, 0xFFE6), (0x1F300, 0x1F64F), (0x1F680, 0x1F6FF),
  (0x1F900, 0x1F9FF), (0x20000, 0x3FFFD)]

def width (c : Char) : Nat :=
  let n := c.toNat
  if n < 0x300 then (if isPrintable c then 1 else 0)
  else if (0x300 ≤ n && n ≤ 0x36F) || (0x200B ≤ n && n ≤ 0x200F) || n = 0xFEFF ||
      (0xFE00 ≤ n && n ≤ 0xFE0F) then 0
  else if isWithin wideRanges c then 2
  else if isPrintable c then 1 else 0

def class? (name : String) : Option (Char → Bool) :=
  match name with
  | "alpha" => some isAlpha
  | "digit" => some Char.isDigit
  | "alnum" => some isAlphanum
  | "upper" => some isUpper
  | "lower" => some isLower
  | "space" => some isSpace
  | "blank" => some fun c => c == '\t' || (isSpace c && !(9 ≤ c.toNat && c.toNat ≤ 13) &&
      c.toNat != 0x2028 && c.toNat != 0x2029)
  | "cntrl" => some isControl
  | "print" => some isPrintable
  | "graph" => some fun c => isPrintable c && !isSpace c
  | "punct" => some fun c => isPrintable c && !isSpace c && !isAlphanum c
  | "xdigit" => some fun c => c.isDigit || "abcdefABCDEF".toList.contains c
  | _ => none

end Letter

end MediaPipeline
