import MediaPipeline.Text.Utf8

/-!
Byte sequences written as characters, one for each byte, so that text with arbitrary bytes in it
can be taken apart like any other text.
-/

namespace MediaPipeline

/-- A text of which every character stands for one byte. -/
abbrev Octets := List Char

namespace Octets

def ofBytes (bytes : List UInt8) : Octets :=
  bytes.map fun b => Char.ofNat b.toNat

def toBytes (o : Octets) : List UInt8 :=
  o.map fun c => c.toNat.toUInt8

def ofString (s : String) : Octets :=
  ofBytes (Utf8.encode s.toList)

/-- A natural number in decimal. -/
def ofNat (n : Nat) : Octets :=
  (toString n).toList

def ofInt (n : Int) : Octets :=
  (toString n).toList

end Octets

def padLeft (width : Nat) (text : Octets) : Octets :=
  List.replicate (width - text.length) ' ' ++ text

def padRight (width : Nat) (text : Octets) : Octets :=
  text ++ List.replicate (width - text.length) ' '

def natural (digits : Octets) : Nat :=
  digits.foldl (fun n c => 10 * n + (c.toNat - 48)) 0

def joinOctets (separator : Octets) (texts : List Octets) : Octets :=
  (texts.intersperse separator).flatten

/-- Lines put one behind the other, each with a line feed. -/
def unlines (ls : List Octets) : Octets :=
  ls.flatMap fun l => l ++ ['\n']

end MediaPipeline
