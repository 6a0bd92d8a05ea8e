/-!
The ChaCha keystream with twelve rounds, as a source of 32-bit words, and the expansion of a
64-bit seed into its key. A keystream hands out the sixteen words of each block in order, block
after block, and never goes back.
-/

namespace MediaPipeline.Random

/-- Sixteen words: constants, key, block counter and stream number. -/
abbrev Block := Vector UInt32 16

/-- Eight words that fix a keystream. -/
abbrev Key := Vector UInt32 8

def rotateLeft (x n : UInt32) : UInt32 :=
  (x <<< n) ||| (x >>> (32 - n))

def rotateRight (x n : UInt32) : UInt32 :=
  (x >>> n) ||| (x <<< (32 - n))

namespace Block

def quarterRound (s : Block) (a b c d : Fin 16) : Block :=
  let s := s.set a (s[a] + s[b])
  let s := s.set d (rotateLeft (s[d] ^^^ s[a]) 16)
  let s := s.set c (s[c] + s[d])
  let s := s.set b (rotateLeft (s[b] ^^^ s[c]) 12)
  let s := s.set a (s[a] + s[b])
  let s := s.set d (rotateLeft (s[d] ^^^ s[a]) 8)
  let s := s.set c (s[c] + s[d])
  s.set b (rotateLeft (s[b] ^^^ s[c]) 7)

def doubleRound (s : Block) : Block :=
  let s := s.quarterRound 0 4 8 12
  let s := s.quarterRound 1 5 9 13
  let s := s.quarterRound 2 6 10 14
  let s := s.quarterRound 3 7 11 15
  let s := s.quarterRound 0 5 10 15
  let s := s.quarterRound 1 6 11 12
  let s := s.quarterRound 2 7 8 13
  s.quarterRound 3 4 9 14

/-- The block of a key and a counter before any round; the stream number is zero. -/
def start (key : Key) (counter : UInt64) : Block :=
  #v[0x61707865, 0x3320646e, 0x79622d32, 0x6b206574,
     key[0], key[1], key[2], key[3], key[4], key[5], key[6], key[7],
     counter.toUInt32, (counter >>> 32).toUInt32, 0, 0]

/-- Six double rounds, with the starting words added at the end. -/
def output (key : Key) (counter : UInt64) : Block :=
  let s := start key counter
  Vector.zipWith (· + ·) (Nat.repeat doubleRound 6 s) s

end Block

/-- A source of words: a key, the counter of the next block, and what is left of this one. -/
structure Keystream where
  key : Key
  counter : UInt64
  pending : List UInt32

namespace Keystream

def ofKey (key : Key) : Keystream :=
  ⟨key, 0, []⟩

def next (k : Keystream) : UInt32 × Keystream :=
  match k.pending with
  | w :: rest => (w, { k with pending := rest })
  | [] =>
    let block := Block.output k.key k.counter
    (block[0], { k with counter := k.counter + 1, pending := block.toList.tail })

end Keystream

/-! ### Keys from seeds -/

/-- One step of the linear congruential generator that spreads a seed over a key. -/
def spread (state : UInt64) : UInt64 :=
  state * 6364136223846793005 + 11634580027462260723

/-- The word a state yields: its high bits folded over and rotated by the highest five. -/
def permuted (state : UInt64) : UInt32 :=
  rotateRight ((((state >>> 18) ^^^ state) >>> 27).toUInt32) ((state >>> 59).toUInt32)

def keyWords : Nat → UInt64 → List UInt32
  | 0, _ => []
  | n + 1, state => permuted (spread state) :: keyWords n (spread state)

theorem length_keyWords (n : Nat) (state : UInt64) : (keyWords n state).length = n := by
  induction n generalizing state with
  | zero => rfl
  | succ n ih => simp [keyWords, ih]

def Key.ofSeed (seed : UInt64) : Key :=
  ⟨(keyWords 8 seed).toArray, by simp [length_keyWords]⟩

end MediaPipeline.Random
