/-!
UTF-8 between characters and bytes. Reading goes one byte at a time: a state holds the bytes a
character still lacks and the bounds of the next one, so that every maximal run of bytes that no
character can start or continue with is one fault.
-/

namespace MediaPipeline.Utf8

def encode (text : List Char) : List UInt8 :=
  text.flatMap String.utf8EncodeChar

inductive State where
  | start
  /-- Inside one: bytes still owed, bounds of the next byte, and the bits so far. -/
  | inside (owed : Nat) (low high : UInt8) (bits : Nat)

/-- What the first byte of a character says of the rest; `none` for a byte that starts none. -/
def lead (b : UInt8) : Option State :=
  if 0xC2 ≤ b ∧ b ≤ 0xDF then some (.inside 1 0x80 0xBF (b.toNat - 0xC0))
  else if b = 0xE0 then some (.inside 2 0xA0 0xBF 0)
  else if b = 0xED then some (.inside 2 0x80 0x9F 0xD)
  else if 0xE1 ≤ b ∧ b ≤ 0xEF then some (.inside 2 0x80 0xBF (b.toNat - 0xE0))
  else if b = 0xF0 then some (.inside 3 0x90 0xBF 0)
  else if 0xF1 ≤ b ∧ b ≤ 0xF3 then some (.inside 3 0x80 0xBF (b.toNat - 0xF0))
  else if b = 0xF4 then some (.inside 3 0x80 0x8F 4)
  else none

/-- Handles a byte between characters, where `next` reads the rest of the bytes. -/
def begin (b : UInt8) (next : State → List (Option Char)) : List (Option Char) :=
  if b < 0x80 then some (Char.ofNat b.toNat) :: next .start
  else match lead b with
    | some state => next state
    | none => none :: next .start

/-- The characters of a byte sequence in order, with `none` for each fault. -/
def scan : State → List UInt8 → List (Option Char)
  | .start, [] => []
  | .inside .., [] => [none]
  | .start, b :: rest => begin b fun state => scan state rest
  | .inside owed low high bits, b :: rest =>
    if low ≤ b ∧ b ≤ high then
      let bits := bits * 64 + (b.toNat - 0x80)
      match owed with
      | owed + 2 => scan (.inside (owed + 1) 0x80 0xBF bits) rest
      | _ => some (Char.ofNat bits) :: scan .start rest
    else
      none :: begin b fun state => scan state rest

/-- The text of a byte sequence, each fault replaced by U+FFFD. -/
def decodeLossy (bytes : List UInt8) : String :=
  String.ofList ((scan .start bytes).map (·.getD '\uFFFD'))

def decode? (bytes : List UInt8) : Option String :=
  ((scan .start bytes).mapM id).map String.ofList

end MediaPipeline.Utf8
