import MediaPipeline.Text.Combining
import MediaPipeline.Text.Shapeless

/-!
Which characters a message may show as they are. Characters without a shape of their own would not
be seen, and marks that combine with the character before them would run into the quotes around a
text.
-/

namespace MediaPipeline.Text

/-- Ranges of letters that only fill the place of another one and are not seen. -/
def fillers : List (Nat × Nat) :=
  [(0x115F, 0x1160), (0x3164, 0x3164), (0xFFA0, 0xFFA0)]

def within (ranges : List (Nat × Nat)) (c : Char) : Bool :=
  ranges.any fun r => r.1 ≤ c.toNat && c.toNat ≤ r.2

def isPrintable (c : Char) : Bool :=
  if c.toNat < 0x7F then 0x20 ≤ c.toNat
  else c.toNat ≠ 0x7F && !within shapeless c && !within combining c && !within fillers c

end MediaPipeline.Text
