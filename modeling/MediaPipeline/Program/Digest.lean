import MediaPipeline.Program.Lines

/-!
Digests of files. The constants of most of them are the fractions of the roots of primes, so they
are calculated here.
-/

namespace MediaPipeline.Program.Digest

/-! ### Constants -/

/-- The greatest number below a bound of `bits` bits whose power is at most `n`. -/
def root (power n : Nat) : Nat → Nat → Nat
  | 0, found => found
  | bits + 1, found =>
    let next := found + Nat.pow 2 bits
    root power n bits (if Nat.pow next power ≤ n then next else found)

def primesFrom : Nat → Nat → Nat → List Nat
  | 0, _, _ => []
  | _, 0, _ => []
  | fuel + 1, count + 1, n =>
    if ((List.range n).drop 2).all fun d => n % d != 0 then n :: primesFrom fuel count (n + 1)
    else primesFrom fuel (count + 1) (n + 1)

def primes (count : Nat) : List Nat :=
  primesFrom (10 * count + 10) count 2

def fraction (power bits n : Nat) : Nat :=
  root power (n * Nat.pow 2 (power * bits)) (bits + 8) 0 % Nat.pow 2 bits

/-! ### Blocks -/

/-- A text filled up to whole blocks: a one bit, zeros, and the number of its bits. -/
def padded (block : Nat) (high : Bool) (text : List Nat) : List Nat :=
  let size := text.length
  let place := block / 8
  let zeros := (2 * block - (size + 1 + place) % block) % block
  let bits := (List.range place).map fun k => 8 * size / Nat.pow 256 k % 256
  text ++ 128 :: List.replicate zeros 0 ++ (if high then bits.reverse else bits)

def pieces {α : Type} (size : Nat) : Nat → List α → List (List α)
  | 0, _ | _, [] => []
  | fuel + 1, l => l.take size :: pieces size fuel (l.drop size)

def wordOf (bytes : List Nat) : Nat :=
  bytes.foldl (fun n b => 256 * n + b) 0

/-- Digits of a number in base sixteen, as many as are asked for. -/
def hexText (digits n : Nat) : Octets :=
  let own := Nat.toDigits 16 n
  List.replicate (digits - own.length) '0' ++ own

/-! ### The families -/

def rotateLeft (x n : UInt32) : UInt32 :=
  (x <<< n) ||| (x >>> (32 - n))

def rotateRight (x n : UInt32) : UInt32 :=
  (x >>> n) ||| (x <<< (32 - n))

def rotateRight64 (x n : UInt64) : UInt64 :=
  (x >>> n) ||| (x <<< (64 - n))

/-- The constants of the rounds of the oldest digest. -/
def sines : Array UInt32 := #[
  0xd76aa478, 0xe8c7b756, 0x242070db, 0xc1bdceee, 0xf57c0faf, 0x4787c62a, 0xa8304613, 0xfd469501,
  0x698098d8, 0x8b44f7af, 0xffff5bb1, 0x895cd7be, 0x6b901122, 0xfd987193, 0xa679438e, 0x49b40821,
  0xf61e2562, 0xc040b340, 0x265e5a51, 0xe9b6c7aa, 0xd62f105d, 0x02441453, 0xd8a1e681, 0xe7d3fbc8,
  0x21e1cde6, 0xc33707d6, 0xf4d50d87, 0x455a14ed, 0xa9e3e905, 0xfcefa3f8, 0x676f02d9, 0x8d2a4c8a,
  0xfffa3942, 0x8771f681, 0x6d9d6122, 0xfde5380c, 0xa4beea44, 0x4bdecfa9, 0xf6bb4b60, 0xbebfbc70,
  0x289b7ec6, 0xeaa127fa, 0xd4ef3085, 0x04881d05, 0xd9d4d039, 0xe6db99e5, 0x1fa27cf8, 0xc4ac5665,
  0xf4292244, 0x432aff97, 0xab9423a7, 0xfc93a039, 0x655b59c3, 0x8f0ccc92, 0xffeff47d, 0x85845dd1,
  0x6fa87e4f, 0xfe2ce6e0, 0xa3014314, 0x4e0811a1, 0xf7537e82, 0xbd3af235, 0x2ad7d2bb, 0xeb86d391]

def sineShifts : Array UInt32 := #[7, 12, 17, 22, 5, 9, 14, 20, 4, 11, 16, 23, 6, 10, 15, 21]

def md5 (text : List Nat) : Octets :=
  let start : UInt32 × UInt32 × UInt32 × UInt32 :=
    (0x67452301, 0xefcdab89, 0x98badcfe, 0x10325476)
  let block (h : UInt32 × UInt32 × UInt32 × UInt32) (bytes : List Nat) :
      UInt32 × UInt32 × UInt32 × UInt32 :=
    let w := ((pieces 4 17 bytes).map fun b => UInt32.ofNat (wordOf b.reverse)).toArray
    let (a, b, c, d) := (List.range 64).foldl (fun (a, b, c, d) n =>
      let (f, g) : UInt32 × Nat :=
        if n < 16 then ((b &&& c) ||| (~~~b &&& d), n)
        else if n < 32 then ((d &&& b) ||| (~~~d &&& c), (5 * n + 1) % 16)
        else if n < 48 then (b ^^^ c ^^^ d, (3 * n + 5) % 16)
        else (c ^^^ (b ||| ~~~d), 7 * n % 16)
      let x := a + f + sines[n]?.getD 0 + w[g]?.getD 0
      (d, b + rotateLeft x (sineShifts[n / 16 * 4 + n % 4]?.getD 0), b, c)) h
    (h.1 + a, h.2.1 + b, h.2.2.1 + c, h.2.2.2 + d)
  let whole := padded 64 false text
  let (a, b, c, d) := (pieces 64 (whole.length + 1) whole).foldl block start
  [a, b, c, d].flatMap fun w =>
    (List.range 4).flatMap fun k => hexText 2 (w.toNat / Nat.pow 256 k % 256)

def sha1 (text : List Nat) : Octets :=
  let start : List UInt32 := [0x67452301, 0xefcdab89, 0x98badcfe, 0x10325476, 0xc3d2e1f0]
  let block (h : List UInt32) (bytes : List Nat) : List UInt32 :=
    let first := ((pieces 4 17 bytes).map fun b => UInt32.ofNat (wordOf b)).toArray
    let w := (List.range 64).foldl (fun (w : Array UInt32) k =>
      let at_ (n : Nat) : UInt32 := w[n]?.getD 0
      w.push (rotateLeft (at_ (k + 13) ^^^ at_ (k + 8) ^^^ at_ (k + 2) ^^^ at_ k) 1)) first
    match h with
    | [a, b, c, d, e] =>
      let (a', b', c', d', e') := (List.range 80).foldl (fun (a, b, c, d, e) n =>
        let (f, k) : UInt32 × UInt32 :=
          if n < 20 then ((b &&& c) ||| (~~~b &&& d), 0x5a827999)
          else if n < 40 then (b ^^^ c ^^^ d, 0x6ed9eba1)
          else if n < 60 then ((b &&& c) ||| (b &&& d) ||| (c &&& d), 0x8f1bbcdc)
          else (b ^^^ c ^^^ d, 0xca62c1d6)
        (rotateLeft a 5 + f + e + k + w[n]?.getD 0, a, rotateLeft b 30, c, d)) (a, b, c, d, e)
      [a + a', b + b', c + c', d + d', e + e']
    | h => h
  let whole := padded 64 true text
  ((pieces 64 (whole.length + 1) whole).foldl block start).flatMap fun w => hexText 8 w.toNat

/-- A digest over words of 32 bits, cut to a number of words. -/
def sha256 (start : List Nat) (kept : Nat) (text : List Nat) : Octets :=
  let k := ((primes 64).map fun p => UInt32.ofNat (fraction 3 32 p)).toArray
  let block (h : List UInt32) (bytes : List Nat) : List UInt32 :=
    let first := ((pieces 4 17 bytes).map fun b => UInt32.ofNat (wordOf b)).toArray
    let w := (List.range 48).foldl (fun (w : Array UInt32) n =>
      let at_ (n : Nat) : UInt32 := w[n]?.getD 0
      let x := at_ (n + 1)
      let y := at_ (n + 14)
      let s₀ := rotateRight x 7 ^^^ rotateRight x 18 ^^^ (x >>> 3)
      let s₁ := rotateRight y 17 ^^^ rotateRight y 19 ^^^ (y >>> 10)
      w.push (at_ n + s₀ + at_ (n + 9) + s₁)) first
    let last := (List.range 64).foldl (fun (s : List UInt32) n =>
      match s with
      | [a, b, c, d, e, f, g, h] =>
        let t₁ := h + (rotateRight e 6 ^^^ rotateRight e 11 ^^^ rotateRight e 25) +
          ((e &&& f) ^^^ (~~~e &&& g)) + k[n]?.getD 0 + w[n]?.getD 0
        let t₂ := (rotateRight a 2 ^^^ rotateRight a 13 ^^^ rotateRight a 22) +
          ((a &&& b) ^^^ (a &&& c) ^^^ (b &&& c))
        [t₁ + t₂, a, b, c, d + t₁, e, f, g]
      | s => s) h
    List.zipWith (· + ·) h last
  let whole := padded 64 true text
  let h := (pieces 64 (whole.length + 1) whole).foldl block (start.map UInt32.ofNat)
  (h.take kept).flatMap fun w => hexText 8 w.toNat

/-- A digest over words of 64 bits, cut to a number of words. -/
def sha512 (start : List Nat) (kept : Nat) (text : List Nat) : Octets :=
  let k := ((primes 80).map fun p => UInt64.ofNat (fraction 3 64 p)).toArray
  let block (h : List UInt64) (bytes : List Nat) : List UInt64 :=
    let first := ((pieces 8 17 bytes).map fun b => UInt64.ofNat (wordOf b)).toArray
    let w := (List.range 64).foldl (fun (w : Array UInt64) n =>
      let at_ (n : Nat) : UInt64 := w[n]?.getD 0
      let x := at_ (n + 1)
      let y := at_ (n + 14)
      let s₀ := rotateRight64 x 1 ^^^ rotateRight64 x 8 ^^^ (x >>> 7)
      let s₁ := rotateRight64 y 19 ^^^ rotateRight64 y 61 ^^^ (y >>> 6)
      w.push (at_ n + s₀ + at_ (n + 9) + s₁)) first
    let last := (List.range 80).foldl (fun (s : List UInt64) n =>
      match s with
      | [a, b, c, d, e, f, g, h] =>
        let t₁ := h + (rotateRight64 e 14 ^^^ rotateRight64 e 18 ^^^ rotateRight64 e 41) +
          ((e &&& f) ^^^ (~~~e &&& g)) + k[n]?.getD 0 + w[n]?.getD 0
        let t₂ := (rotateRight64 a 28 ^^^ rotateRight64 a 34 ^^^ rotateRight64 a 39) +
          ((a &&& b) ^^^ (a &&& c) ^^^ (b &&& c))
        [t₁ + t₂, a, b, c, d + t₁, e, f, g]
      | s => s) h
    List.zipWith (· + ·) h last
  let whole := padded 128 true text
  let h := (pieces 128 (whole.length + 1) whole).foldl block (start.map UInt64.ofNat)
  (h.take kept).flatMap fun w => hexText 16 w.toNat

def squareStart (skipped bits : Nat) : List Nat :=
  ((primes (skipped + 8)).drop skipped).map (fraction 2 bits)

def sha256Of : List Nat → Octets :=
  sha256 (squareStart 0 32) 8

def sha224Of : List Nat → Octets :=
  sha256 ((squareStart 8 64).map (· % Nat.pow 2 32)) 7

def sha512Of : List Nat → Octets :=
  sha512 (squareStart 0 64) 8

def sha384Of : List Nat → Octets :=
  sha512 (squareStart 8 64) 6

/-! ### A digest of any length -/

def mixOrders : Array (Array Nat) := #[
  #[0, 1, 2, 3, 4, 5, 6, 7, 8, 9, 10, 11, 12, 13, 14, 15],
  #[14, 10, 4, 8, 9, 15, 13, 6, 1, 12, 0, 2, 11, 7, 5, 3],
  #[11, 8, 12, 0, 5, 2, 15, 13, 10, 14, 3, 6, 7, 1, 9, 4],
  #[7, 9, 3, 1, 13, 12, 11, 14, 2, 6, 5, 10, 4, 0, 15, 8],
  #[9, 0, 5, 7, 2, 4, 10, 15, 14, 1, 11, 12, 6, 8, 3, 13],
  #[2, 12, 6, 10, 0, 11, 8, 3, 4, 13, 7, 5, 15, 14, 1, 9],
  #[12, 5, 1, 15, 14, 13, 4, 10, 0, 7, 6, 3, 9, 2, 8, 11],
  #[13, 11, 7, 14, 12, 1, 3, 9, 5, 0, 15, 4, 8, 6, 2, 10],
  #[6, 15, 14, 9, 11, 3, 0, 8, 12, 2, 13, 7, 1, 4, 10, 5],
  #[10, 2, 8, 4, 7, 6, 1, 5, 15, 11, 9, 14, 3, 12, 13, 0]]

/-- Mixes two words of a block into four words of the state. -/
def mix (v : Array UInt64) (a b c d : Nat) (x y : UInt64) : Array UInt64 :=
  let word (v : Array UInt64) (n : Nat) : UInt64 := v[n]?.getD 0
  let v := v.set! a (word v a + word v b + x)
  let v := v.set! d (rotateRight64 (word v d ^^^ word v a) 32)
  let v := v.set! c (word v c + word v d)
  let v := v.set! b (rotateRight64 (word v b ^^^ word v c) 24)
  let v := v.set! a (word v a + word v b + y)
  let v := v.set! d (rotateRight64 (word v d ^^^ word v a) 16)
  let v := v.set! c (word v c + word v d)
  v.set! b (rotateRight64 (word v b ^^^ word v c) 63)

/-- The digest of the second generation with a number of bytes. -/
def blake (size : Nat) (text : List Nat) : Octets :=
  let start := ((squareStart 0 64).map UInt64.ofNat).toArray
  let columns : List (Nat × Nat × Nat × Nat) := [
    (0, 4, 8, 12), (1, 5, 9, 13), (2, 6, 10, 14), (3, 7, 11, 15),
    (0, 5, 10, 15), (1, 6, 11, 12), (2, 7, 8, 13), (3, 4, 9, 14)]
  let block (h : Array UInt64) (bytes : List Nat) (count : Nat) (last : Bool) : Array UInt64 :=
    let full := bytes ++ List.replicate (128 - bytes.length) 0
    let words := ((pieces 8 17 full).map fun b => UInt64.ofNat (wordOf b.reverse)).toArray
    let v := (h ++ start).modify 12 (· ^^^ UInt64.ofNat (count % Nat.pow 2 64))
    let v := if last then v.modify 14 (~~~ ·) else v
    let v := (List.range 12).foldl (fun v round =>
      let order := mixOrders[round % 10]?.getD #[]
      let word (n : Nat) : UInt64 := words[order[n]?.getD 0]?.getD 0
      columns.zipIdx.foldl (fun v ((a, b, c, d), n) =>
        mix v a b c d (word (2 * n)) (word (2 * n + 1))) v) v
    (Array.range 8).map fun n => h[n]?.getD 0 ^^^ v[n]?.getD 0 ^^^ v[n + 8]?.getD 0
  let parts := if text.isEmpty then [[]] else pieces 128 (text.length + 1) text
  let first := start.modify 0 (· ^^^ UInt64.ofNat (0x01010000 + size))
  let (h, _) := parts.zipIdx.foldl (fun ((h, count) : Array UInt64 × Nat) (p, n) =>
    let count := count + p.length
    (block h p count (n + 1 = parts.length), count)) (first, 0)
  let bytes (w : UInt64) : List Nat :=
    (List.range 8).map fun k => w.toNat / Nat.pow 256 k % 256
  ((h.toList.flatMap bytes).take size).flatMap (hexText 2)

/-! ### Checksums -/

def checksumStep (crc : UInt32) (byte : Nat) : UInt32 :=
  (List.range 8).foldl (fun (c : UInt32) _ =>
    if c &&& 0x80000000 != 0 then (c <<< 1) ^^^ 0x04c11db7 else c <<< 1)
    (crc ^^^ (UInt32.ofNat byte <<< 24))

/-- The bytes of a number, the lowest first, without zeros at its end. -/
def lowBytes : Nat → Nat → List Nat
  | 0, _ => []
  | fuel + 1, n => if n = 0 then [] else n % 256 :: lowBytes fuel (n / 256)

def checksum (text : List Nat) : UInt32 :=
  ~~~((text ++ lowBytes 20 text.length).foldl checksumStep 0)

def rotatingSum (text : List Nat) : Nat :=
  text.foldl (fun n b => (n / 2 + n % 2 * 32768 + b) % 65536) 0

def foldedSum (text : List Nat) : Nat :=
  let s := text.foldl (· + ·) 0
  let r := s % 65536 + s % 4294967296 / 65536
  r % 65536 + r / 65536

end MediaPipeline.Program.Digest
