import Mathlib.Data.List.Basic
import Mathlib.Tactic.SplitIfs
import MediaPipeline.Text.Utf8

/-!
Reading bytes as UTF-8. `Reads` says what the characters of a byte sequence are: those whose
encodings it is made of, with a fault for each run of bytes where no character stands. The scanner
reads every byte sequence so, and the encoding of a text as that text. The state of the scanner
inside a character stands for the encodings that begin with the bytes seen so far (`Begun`).
-/

namespace MediaPipeline.Utf8

open String (utf8EncodeChar)

/-! ### Encodings as numbers -/

/-- The bytes of the character with a number. -/
def bytesOf (v : Nat) : List Nat :=
  if v ≤ 0x7F then [v]
  else if v ≤ 0x7FF then [v / 64 + 0xC0, v % 64 + 0x80]
  else if v ≤ 0xFFFF then [v / 4096 + 0xE0, v / 64 % 64 + 0x80, v % 64 + 0x80]
  else [v / 262144 + 0xF0, v / 4096 % 64 + 0x80, v / 64 % 64 + 0x80, v % 64 + 0x80]

section

variable {v x y z w : Nat}

theorem bytesOf_eq_one_iff : bytesOf v = [x] ↔ x ≤ 0x7F ∧ v = x := by
  unfold bytesOf
  split_ifs <;> simp <;> omega

theorem bytesOf_eq_two_iff :
    bytesOf v = [x, y] ↔ (0xC2 ≤ x ∧ x ≤ 0xDF) ∧ (0x80 ≤ y ∧ y ≤ 0xBF) ∧
      v = (x - 0xC0) * 64 + (y - 0x80) := by
  unfold bytesOf
  split_ifs <;> simp <;> omega

/-- Three bytes do for less than `0x800` as well, and for surrogates; the second byte tells. -/
theorem bytesOf_eq_three_iff (hv : v.isValidChar) :
    bytesOf v = [x, y, z] ↔ (0xE0 ≤ x ∧ x ≤ 0xEF) ∧
      (((0x80 ≤ y ∧ y ≤ 0xBF) ∧ (x = 0xE0 → 0xA0 ≤ y) ∧ (x = 0xED → y ≤ 0x9F)) ∧
        (0x80 ≤ z ∧ z ≤ 0xBF)) ∧
      v = ((x - 0xE0) * 64 + (y - 0x80)) * 64 + (z - 0x80) := by
  unfold bytesOf
  split_ifs <;> simp <;> omega

/-- Four bytes do for less than `0x10000` as well, and for more than there are characters. -/
theorem bytesOf_eq_four_iff (hv : v.isValidChar) :
    bytesOf v = [x, y, z, w] ↔ (0xF0 ≤ x ∧ x ≤ 0xF4) ∧
      (((0x80 ≤ y ∧ y ≤ 0xBF) ∧ (x = 0xF0 → 0x90 ≤ y) ∧ (x = 0xF4 → y ≤ 0x8F)) ∧
        (0x80 ≤ z ∧ z ≤ 0xBF) ∧ (0x80 ≤ w ∧ w ≤ 0xBF)) ∧
      v = (((x - 0xF0) * 64 + (y - 0x80)) * 64 + (z - 0x80)) * 64 + (w - 0x80) := by
  unfold bytesOf
  split_ifs <;> simp <;> omega

/-- The first byte tells how many bytes follow. -/
theorem length_of_bytesOf_eq_cons (hv : v.isValidChar) {rest : List Nat}
    (h : bytesOf v = x :: rest) :
    x ≤ 0x7F ∧ rest.length = 0 ∨ (0xC2 ≤ x ∧ x ≤ 0xDF) ∧ rest.length = 1 ∨
      (0xE0 ≤ x ∧ x ≤ 0xEF) ∧ rest.length = 2 ∨ (0xF0 ≤ x ∧ x ≤ 0xF4) ∧ rest.length = 3 := by
  unfold bytesOf at h
  split_ifs at h <;> cases h <;> simp <;> omega

end

theorem utf8EncodeChar_eq_iff {c : Char} {bytes : List UInt8} :
    utf8EncodeChar c = bytes ↔ bytesOf c.toNat = bytes.map UInt8.toNat := by
  have hbytes : (utf8EncodeChar c).map UInt8.toNat = bytesOf c.toNat := by
    have hvalid : c.toNat.isValidChar := c.valid
    simp only [utf8EncodeChar, Char.toNat_val, bytesOf]
    split_ifs <;> simp <;> omega
  rw [← hbytes]
  exact (List.map_injective_iff.mpr fun a b => UInt8.toNat_inj.mp).eq_iff.symm

theorem toNat_ofNat {n : Nat} (h : n.isValidChar) : (Char.ofNat n).toNat = n := by
  rw [Char.ofNat, dif_pos h]
  rfl

/-! ### Characters that have begun -/

/-- The bytes that follow the first byte of a character: the next one between two bounds, and then
any that continue one. -/
def Continues (low high : UInt8) : List UInt8 → Prop
  | [] => False
  | b :: rest => (low ≤ b ∧ b ≤ high) ∧ ∀ b ∈ rest, 0x80 ≤ b ∧ b ≤ 0xBF

/-- The bits of a character after the bytes that follow the first. -/
def extend (bits : Nat) (following : List UInt8) : Nat :=
  following.foldl (fun bits b => bits * 64 + (b.toNat - 0x80)) bits

/-- The bytes `seen` begin those characters that the state of a scanner allows. -/
structure Begun (seen : List UInt8) (owed : Nat) (low high : UInt8) (bits : Nat) : Prop where
  encode_iff : ∀ c following, utf8EncodeChar c = seen ++ following ↔
    following.length = owed ∧ Continues low high following ∧ c = Char.ofNat (extend bits following)
  le : low ≤ high
  seen_ne_nil : seen ≠ []
  /-- No character ends among them. -/
  isPrefix : ∀ c rest, utf8EncodeChar c <+: seen ++ rest → seen <+: utf8EncodeChar c

/-- What a first byte says of the number and the bounds of the bytes to come. -/
theorem lead_cases {b : UInt8} {owed bits : Nat} {low high : UInt8}
    (h : lead b = some (.inside owed low high bits)) :
    (owed = 1 ∧ (0xC2 ≤ b.toNat ∧ b.toNat ≤ 0xDF) ∧ bits = b.toNat - 0xC0 ∧
      ∀ n, low.toNat ≤ n ∧ n ≤ high.toNat ↔ 0x80 ≤ n ∧ n ≤ 0xBF) ∨
    (owed = 2 ∧ (0xE0 ≤ b.toNat ∧ b.toNat ≤ 0xEF) ∧ bits = b.toNat - 0xE0 ∧
      ∀ n, low.toNat ≤ n ∧ n ≤ high.toNat ↔
        (0x80 ≤ n ∧ n ≤ 0xBF) ∧ (b.toNat = 0xE0 → 0xA0 ≤ n) ∧ (b.toNat = 0xED → n ≤ 0x9F)) ∨
    (owed = 3 ∧ (0xF0 ≤ b.toNat ∧ b.toNat ≤ 0xF4) ∧ bits = b.toNat - 0xF0 ∧
      ∀ n, low.toNat ≤ n ∧ n ≤ high.toNat ↔
        (0x80 ≤ n ∧ n ≤ 0xBF) ∧ (b.toNat = 0xF0 → 0x90 ≤ n) ∧ (b.toNat = 0xF4 → n ≤ 0x8F)) := by
  simp only [lead, ← UInt8.toNat_inj, UInt8.le_iff_toNat_le, UInt8.reduceToNat] at h
  split_ifs at h <;> cases h
  · exact .inl ⟨rfl, by omega, rfl, fun n => Iff.rfl⟩
  -- Two more bytes are announced by three ranges of first bytes, and so are three more.
  iterate 3
    refine .inr (.inl ⟨rfl, by omega, by omega, fun n => ?_⟩)
    simp only [UInt8.reduceToNat]
    omega
  iterate 3
    refine .inr (.inr ⟨rfl, by omega, by omega, fun n => ?_⟩)
    simp only [UInt8.reduceToNat]
    omega

theorem low_le_of_lead {b : UInt8} {owed bits : Nat} {low high : UInt8}
    (h : lead b = some (.inside owed low high bits)) : low ≤ high := by
  unfold lead at h
  split_ifs at h <;> cases h <;> decide

theorem exists_of_lead {b : UInt8} {state : State} (h : lead b = some state) :
    ∃ owed low high bits, state = .inside (owed + 1) low high bits := by
  unfold lead at h
  split_ifs at h <;> cases h <;> exact ⟨_, _, _, _, rfl⟩

theorem eq_ofNat_iff {c : Char} {n : Nat} (h : n.isValidChar) : c = Char.ofNat n ↔ c.toNat = n :=
  ⟨fun hc => by rw [hc, toNat_ofNat h], fun hn => by rw [← hn, Char.ofNat_toNat]⟩

/-- The first byte of a character that takes more than one says which bytes may follow. -/
theorem encode_iff_of_lead {b : UInt8} {owed bits : Nat} {low high : UInt8}
    (h : lead b = some (.inside owed low high bits)) (c : Char) (following : List UInt8) :
    utf8EncodeChar c = b :: following ↔ following.length = owed ∧ Continues low high following ∧
      c = Char.ofNat (extend bits following) := by
  have hc : c.toNat.isValidChar := c.valid
  have hcases := lead_cases h
  rw [utf8EncodeChar_eq_iff]
  have hlength : bytesOf c.toNat = (b :: following).map UInt8.toNat →
      following.length = owed := by
    intro hbytes
    have := length_of_bytesOf_eq_cons hc hbytes
    rw [List.length_map] at this
    omega
  -- For each number of bytes both sides are inequalities between numbers.
  have hbytes : following.length = owed → (bytesOf c.toNat = (b :: following).map UInt8.toNat ↔
      Continues low high following ∧ c = Char.ofNat (extend bits following)) := by
    rintro rfl
    obtain ⟨howed, hlead, hbits, hnext⟩ | ⟨howed, hlead, hbits, hnext⟩ |
      ⟨howed, hlead, hbits, hnext⟩ := hcases
    · obtain ⟨b₁, rfl⟩ := List.length_eq_one_iff.mp howed
      simp only [List.map, bytesOf_eq_two_iff, Continues, extend, List.foldl, hbits,
        UInt8.le_iff_toNat_le, hnext, List.not_mem_nil, false_imp_iff, implies_true, and_true]
      rw [and_iff_right hlead]
      exact and_congr_right fun hb => (eq_ofNat_iff (by omega)).symm
    · obtain ⟨b₁, b₂, rfl⟩ := List.length_eq_two.mp howed
      simp only [List.map, bytesOf_eq_three_iff hc, Continues, extend, List.foldl, hbits,
        UInt8.le_iff_toNat_le, hnext, UInt8.reduceToNat, List.forall_mem_singleton]
      rw [and_iff_right hlead]
      exact and_congr_right fun hb => (eq_ofNat_iff (by omega)).symm
    · obtain ⟨b₁, b₂, b₃, rfl⟩ := List.length_eq_three.mp howed
      simp only [List.map, bytesOf_eq_four_iff hc, Continues, extend, List.foldl, hbits,
        UInt8.le_iff_toNat_le, hnext, UInt8.reduceToNat, List.forall_mem_cons,
        List.not_mem_nil, false_imp_iff, implies_true, and_true]
      rw [and_iff_right hlead]
      exact and_congr_right fun hb => (eq_ofNat_iff (by omega)).symm
  exact ⟨fun h => ⟨hlength h, (hbytes (hlength h)).mp h⟩, fun ⟨hl, h⟩ => (hbytes hl).mpr h⟩

theorem begun_of_lead {b : UInt8} {owed bits : Nat} {low high : UInt8}
    (h : lead b = some (.inside owed low high bits)) : Begun [b] owed low high bits := by
  refine ⟨encode_iff_of_lead h, low_le_of_lead h, List.cons_ne_nil _ _, fun c rest hbegins => ?_⟩
  cases hc : utf8EncodeChar c with
  | nil => exact absurd hc String.utf8EncodeChar_ne_nil
  | cons d ds =>
      rw [hc, List.singleton_append, List.cons_prefix_cons] at hbegins
      rw [hbegins.1, List.cons_prefix_cons]
      exact ⟨rfl, List.nil_prefix⟩

/-- A byte that begins no character and is none by itself. -/
theorem encode_ne_of_lead {b : UInt8} (hb : ¬ b < 0x80) (h : lead b = none) (c : Char)
    (following : List UInt8) : utf8EncodeChar c ≠ b :: following := by
  have hc : c.toNat.isValidChar := c.valid
  rw [Ne, utf8EncodeChar_eq_iff]
  intro hbytes
  have hlength := length_of_bytesOf_eq_cons hc hbytes
  simp only [lead, ← UInt8.toNat_inj, UInt8.le_iff_toNat_le, UInt8.lt_iff_toNat_lt,
    UInt8.reduceToNat] at h hb
  split_ifs at h
  omega

/-- A character of one byte. -/
theorem encode_eq_singleton {b : UInt8} (hb : b < 0x80) :
    utf8EncodeChar (Char.ofNat b.toNat) = [b] := by
  simp only [UInt8.lt_iff_toNat_lt, UInt8.reduceToNat] at hb
  rw [utf8EncodeChar_eq_iff, List.map, List.map, bytesOf_eq_one_iff, toNat_ofNat (by omega)]
  omega

/-- A byte that may come next brings a character closer to its end. -/
theorem Begun.concat {seen : List UInt8} {owed bits : Nat} {low high b : UInt8}
    (h : Begun seen (owed + 2) low high bits) (hb : low ≤ b ∧ b ≤ high) :
    Begun (seen ++ [b]) (owed + 1) 0x80 0xBF (bits * 64 + (b.toNat - 0x80)) := by
  refine ⟨fun c following => ?_, by decide, by simp, fun c rest hbegins => ?_⟩
  · rw [List.append_assoc, List.singleton_append, h.encode_iff]
    cases following with
    | nil => simp [Continues]
    | cons d ds => simp [Continues, extend, hb]
  · rw [List.append_assoc, List.singleton_append] at hbegins
    obtain ⟨following, hc⟩ := h.isPrefix c _ hbegins
    obtain ⟨hlength, -⟩ := (h.encode_iff c following).mp hc.symm
    rw [← hc, List.prefix_append_right_inj] at hbegins ⊢
    cases following with
    | nil => cases hlength
    | cons d ds =>
        rw [List.cons_prefix_cons] at hbegins
        rw [hbegins.1, List.cons_prefix_cons]
        exact ⟨rfl, List.nil_prefix⟩

/-- Bytes that a character begins with. -/
def Starts (run : List UInt8) : Prop :=
  ∃ c, run <+: utf8EncodeChar c

theorem Starts.of_isPrefix {run more : List UInt8} (h : Starts more) (hbegins : run <+: more) :
    Starts run :=
  let ⟨c, hc⟩ := h
  ⟨c, hbegins.trans hc⟩

theorem Begun.starts {seen : List UInt8} {owed bits : Nat} {low high : UInt8}
    (h : Begun seen (owed + 1) low high bits) : Starts seen := by
  have hcontinues : Continues low high (low :: List.replicate owed 0x80) := by
    refine ⟨⟨UInt8.le_refl low, h.le⟩, fun b hb => ?_⟩
    rw [List.eq_of_mem_replicate hb]
    decide
  have hc := (h.encode_iff _ _).mpr ⟨by simp, hcontinues, rfl⟩
  exact ⟨_, _, hc.symm⟩

/-- A byte out of bounds is not the next one of a character. -/
theorem Begun.not_starts_concat {seen : List UInt8} {owed bits : Nat} {low high b : UInt8}
    (h : Begun seen owed low high bits) (hb : ¬ (low ≤ b ∧ b ≤ high)) : ¬ Starts (seen ++ [b]) := by
  rintro ⟨c, following, hc⟩
  rw [List.append_assoc, List.singleton_append] at hc
  obtain ⟨-, hcontinues, -⟩ := (h.encode_iff c _).mp hc.symm
  exact hb hcontinues.1

/-! ### What is read -/

/-- A run of bytes where no character stands: the bytes that a character begins with, as many as
there are, or one byte that begins none. -/
structure Fault (run rest : List UInt8) : Prop where
  ne_nil : run ≠ []
  starts : 1 < run.length → Starts run
  encodes_none : ∀ c, ¬ utf8EncodeChar c <+: run ++ rest
  not_starts_concat : ∀ b ∈ rest.head?, ¬ Starts (run ++ [b])

/-- The characters of a byte sequence are those whose encodings it is made of, with `none` for each
fault between them. -/
inductive Reads : List UInt8 → List (Option Char) → Prop
  | nil : Reads [] []
  | char {bytes : List UInt8} {cs : List (Option Char)} (c : Char) : Reads bytes cs →
    Reads (utf8EncodeChar c ++ bytes) (some c :: cs)
  | fault {run bytes : List UInt8} {cs : List (Option Char)} : Fault run bytes →
    Reads bytes cs → Reads (run ++ bytes) (none :: cs)

/-- A character that does not go on is a fault. -/
theorem Begun.fault {seen rest : List UInt8} {owed bits : Nat} {low high : UInt8}
    (h : Begun seen (owed + 1) low high bits)
    (hrest : ∀ b ∈ rest.head?, ¬ (low ≤ b ∧ b ≤ high)) : Fault seen rest := by
  refine ⟨h.seen_ne_nil, fun _ => h.starts, fun c hbegins => ?_,
    fun b hb => h.not_starts_concat (hrest b hb)⟩
  obtain ⟨following, hc⟩ := h.isPrefix c rest hbegins
  obtain ⟨hlength, hcontinues, -⟩ := (h.encode_iff c following).mp hc.symm
  rw [← hc, List.prefix_append_right_inj] at hbegins
  cases following with
  | nil => cases hlength
  | cons b bs =>
      obtain ⟨more, rfl⟩ := hbegins
      exact hrest b rfl hcontinues.1

/-- So is a byte that no character begins with. -/
theorem fault_of_lead {b : UInt8} (hb : ¬ b < 0x80) (h : lead b = none) (rest : List UInt8) :
    Fault [b] rest := by
  have hne : ∀ c following, utf8EncodeChar c ≠ b :: following := encode_ne_of_lead hb h
  refine ⟨List.cons_ne_nil b [], fun hlong => absurd hlong (Nat.lt_irrefl 1),
    fun c hbegins => ?_, fun b' _ ⟨c, following, hc⟩ => hne c _ hc.symm⟩
  cases hc : utf8EncodeChar c with
  | nil => exact String.utf8EncodeChar_ne_nil hc
  | cons d ds =>
      rw [hc, List.singleton_append, List.cons_prefix_cons] at hbegins
      exact hne c ds (hbegins.1 ▸ hc)

/-- The scanner reads every byte sequence, between characters as well as inside one. -/
theorem reads_scan (bytes : List UInt8) :
    Reads bytes (scan .start bytes) ∧
      ∀ seen owed low high bits, Begun seen (owed + 1) low high bits →
        Reads (seen ++ bytes) (scan (.inside (owed + 1) low high bits) bytes) := by
  induction bytes with
  | nil =>
      refine ⟨.nil, fun seen owed low high bits h => ?_⟩
      rw [scan]
      exact .fault (h.fault (by simp)) .nil
  | cons b rest ih =>
      obtain ⟨hstart, hinside⟩ := ih
      have hread : Reads (b :: rest) (begin b fun state => scan state rest) := by
        rw [begin]
        split
        next hb =>
          have := hstart.char (Char.ofNat b.toNat)
          rwa [encode_eq_singleton hb] at this
        next hb =>
          cases hlead : lead b with
          | none => exact .fault (fault_of_lead hb hlead rest) hstart
          | some state =>
              obtain ⟨owed, low, high, bits, rfl⟩ := exists_of_lead hlead
              exact hinside _ _ _ _ _ (begun_of_lead hlead)
      refine ⟨by rwa [scan], fun seen owed low high bits h => ?_⟩
      rw [scan]
      -- A byte in bounds ends the character or takes it further; any other one is read afresh.
      split
      next hb =>
        cases owed with
        | zero =>
            have hc := (h.encode_iff _ [b]).mpr ⟨rfl, ⟨hb, by simp⟩, rfl⟩
            have := hstart.char (Char.ofNat (extend bits [b]))
            rwa [hc, List.append_assoc] at this
        | succ owed =>
            have := hinside _ _ _ _ _ (h.concat hb)
            rwa [List.append_assoc] at this
      next hb => exact .fault (h.fault (by simpa using hb)) hread

/-! ### One reading -/

theorem encode_append_inj {c c' : Char} {bytes bytes' : List UInt8}
    (h : utf8EncodeChar c ++ bytes = utf8EncodeChar c' ++ bytes') : c = c' ∧ bytes = bytes' := by
  have hdecode : ∀ (c : Char) (bytes : List UInt8),
      (utf8EncodeChar c ++ bytes).toByteArray.utf8DecodeChar? 0 = some c := by
    intro c bytes
    rw [List.toByteArray_append]
    exact ByteArray.utf8DecodeChar?_utf8EncodeChar_append
  have hc : some c = some c' := by rw [← hdecode c bytes, h, hdecode]
  cases hc
  exact ⟨rfl, List.append_cancel_left h⟩

/-- No fault ends where another one, read from the same bytes, goes on. -/
theorem Fault.length_le {run run' rest rest' : List UInt8} (h : Fault run rest)
    (h' : Fault run' rest') (heq : run ++ rest = run' ++ rest') : run'.length ≤ run.length := by
  by_contra! hlonger
  obtain ⟨more, hrun, hrest⟩ : ∃ more, run' = run ++ more ∧ rest = more ++ rest' := by
    obtain ⟨more, h₁, h₂⟩ | ⟨more, h₁, h₂⟩ := List.append_eq_append_iff.mp heq
    · exact ⟨more, h₁, h₂⟩
    · simp [h₁] at hlonger
  cases more with
  | nil => simp [hrun] at hlonger
  | cons b more =>
      have hlong : 1 < run'.length := by
        have := List.length_pos_iff.mpr h.ne_nil
        omega
      -- With its next byte the shorter one is still the start of a character.
      refine h.not_starts_concat b (by simp [hrest]) ((h'.starts hlong).of_isPrefix ⟨more, ?_⟩)
      rw [hrun, List.append_assoc, List.singleton_append]

theorem Fault.unique {run run' rest rest' : List UInt8} (h : Fault run rest)
    (h' : Fault run' rest') (heq : run ++ rest = run' ++ rest') : run = run' ∧ rest = rest' :=
  List.append_inj heq (Nat.le_antisymm (h'.length_le h heq.symm) (h.length_le h' heq))

theorem Reads.unique {bytes : List UInt8} {cs cs' : List (Option Char)} (h : Reads bytes cs)
    (h' : Reads bytes cs') : cs = cs' := by
  induction h generalizing cs' with
  | nil =>
      generalize hbytes : ([] : List UInt8) = bytes at h'
      cases h' with
      | nil => rfl
      | char c => simp [String.utf8EncodeChar_ne_nil] at hbytes
      | fault hfault => simp [hfault.ne_nil] at hbytes
  | @char bytes cs c _ ih =>
      generalize hbytes : utf8EncodeChar c ++ bytes = all at h'
      cases h' with
      | nil => simp [String.utf8EncodeChar_ne_nil] at hbytes
      | char c' h' =>
          obtain ⟨rfl, rfl⟩ := encode_append_inj hbytes
          rw [ih h']
      | fault hfault => exact absurd ⟨_, hbytes⟩ (hfault.encodes_none c)
  | @fault run bytes cs hfault _ ih =>
      generalize hbytes : run ++ bytes = all at h'
      cases h' with
      | nil => simp [hfault.ne_nil] at hbytes
      | char c' => exact absurd ⟨_, hbytes.symm⟩ (hfault.encodes_none c')
      | fault hfault' h' =>
          obtain ⟨rfl, rfl⟩ := hfault.unique hfault' hbytes
          rw [ih h']

/-- What the scanner reads is all there is to read. -/
theorem reads_iff {bytes : List UInt8} {cs : List (Option Char)} :
    Reads bytes cs ↔ scan .start bytes = cs :=
  ⟨fun h => (reads_scan bytes).1.unique h, fun h => h ▸ (reads_scan bytes).1⟩

theorem reads_encode (text : List Char) : Reads (encode text) (text.map some) := by
  induction text with
  | nil => exact .nil
  | cons c text ih => exact ih.char c

/-- The encoding is that of strings in memory. -/
theorem encode_toList (text : String) : encode text.toList = text.toUTF8.data.toList := by
  rw [String.toUTF8, ← String.utf8Encode_toList, List.utf8Encode, List.toList_data_toByteArray]
  rfl

/-- The text of some characters, with a mark for each fault. -/
def marked (cs : List (Option Char)) : String :=
  String.ofList (cs.map (·.getD '\uFFFD'))

theorem marked_map_some (text : String) : marked (text.toList.map some) = text := by
  rw [marked, List.map_map]
  exact (congrArg String.ofList (List.map_id text.toList)).trans String.ofList_toList

theorem reads_toUTF8 (text : String) : Reads text.toUTF8.data.toList (text.toList.map some) := by
  rw [← encode_toList]
  exact reads_encode text.toList

theorem decodeLossy_eq {bytes : List UInt8} {cs : List (Option Char)} (h : Reads bytes cs) :
    decodeLossy bytes = marked cs := by
  rw [decodeLossy, reads_iff.mp h, marked]

end MediaPipeline.Utf8
