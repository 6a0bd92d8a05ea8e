import Mathlib.Data.List.Nodup
import MediaPipeline.Random.Sample

/-!
Sampling without replacement. A word is scaled down to a choice below the bound, and the carry that a
second word may bring never reaches it. A choice that has been made before gives its place to the
number of the round, which no round before could choose, and so all that is chosen is different.
Nothing is assumed of the words.
-/

namespace MediaPipeline.Random

variable {σ : Type} (draw : σ → UInt32 × σ)

/-! ### One choice -/

/-- Where a second word is drawn, the choice is not yet the last one below the bound, so that a carry
leaves it below. -/
theorem below_lt {n : Nat} (hpos : 0 < n) (hn : n ≤ wordCount) (s : σ) : (below draw n s).1 < n := by
  have hword : (draw s).1.toNat < wordCount := (draw s).1.toNat_lt
  have hcount : wordCount = 4294967296 := rfl
  have hscaled : (draw s).1.toNat * n ≤ 4294967295 * n := Nat.mul_le_mul_right n (by omega)
  rw [below]
  simp only [hcount] at hn ⊢
  generalize (draw s).1.toNat * n = scaled at hscaled
  split
  · next hlow =>
      have hhigh : scaled / 4294967296 + 1 < n := by omega
      split
      · exact hhigh
      · exact Nat.lt_of_succ_lt hhigh
  · show scaled / 4294967296 < n
    omega

/-! ### Several choices -/

/-- Different numbers below a bound. -/
structure Distinct (bound : Nat) (chosen : List Nat) : Prop where
  nodup : chosen.Nodup
  lt : ∀ i ∈ chosen, i < bound

theorem Distinct.nil (bound : Nat) : Distinct bound [] :=
  ⟨List.nodup_nil, nofun⟩

variable {chosen : List Nat} {t j : Nat}

theorem length_place : (place chosen t j).length = chosen.length + 1 := by
  simp [place]

/-- A round adds its choice, and stays below the bound of the next round. -/
theorem Distinct.place (h : Distinct j chosen) (ht : t < j + 1) :
    Distinct (j + 1) (place chosen t j) := by
  have hreplaced : ∀ x ∈ chosen, (if x = t then j else x) ≠ t := by
    intro x hx
    have hlt := h.lt x hx
    split <;> omega
  have hinjective : ∀ x ∈ chosen, ∀ y ∈ chosen,
      (if x = t then j else x) = (if y = t then j else y) → x = y := by
    intro x hx y hy
    have hxlt := h.lt x hx
    have hylt := h.lt y hy
    split <;> split <;> omega
  constructor
  · rw [Random.place, List.nodup_append]
    refine ⟨h.nodup.map_on hinjective, List.nodup_singleton t, ?_⟩
    intro x hx y hy
    obtain ⟨z, hz, rfl⟩ := List.mem_map.mp hx
    rw [List.mem_singleton.mp hy]
    exact hreplaced z hz
  · intro x hx
    rw [Random.place, List.mem_append, List.mem_map, List.mem_singleton] at hx
    obtain ⟨z, hz, rfl⟩ | rfl := hx
    · have hlt := h.lt z hz
      split <;> omega
    · exact ht

theorem choose_succ (count j : Nat) (chosen : List Nat) (s : σ) :
    choose draw (count + 1) j chosen s =
      choose draw count (j + 1) (place chosen (below draw (j + 1) s).1 j)
        (below draw (j + 1) s).2 := rfl

/-- What some rounds leave behind, if all their bounds can be reached by words. -/
theorem Distinct.choose {count : Nat} (h : Distinct j chosen) (hj : j + count ≤ wordCount) (s : σ) :
    Distinct (j + count) (choose draw count j chosen s).1 ∧
      (choose draw count j chosen s).1.length = chosen.length + count := by
  induction count generalizing j chosen s with
  | zero => exact ⟨h, rfl⟩
  | succ count ih =>
      have hlt : (below draw (j + 1) s).1 < j + 1 := below_lt draw (by omega) (by omega) s
      obtain ⟨hdistinct, hlength⟩ := ih (h.place hlt) (by omega) (below draw (j + 1) s).2
      rw [length_place] at hlength
      rw [choose_succ, Nat.add_succ, ← Nat.succ_add]
      exact ⟨hdistinct, by omega⟩

/-- A sample has as many numbers as are asked for, which are different and below the length. -/
theorem distinct_sample {length amount : Nat} (hamount : amount ≤ length)
    (hlength : length ≤ wordCount) (s : σ) :
    Distinct length (sample draw length amount s).1 ∧
      (sample draw length amount s).1.length = amount := by
  have hbound : length - amount + amount ≤ wordCount := by omega
  obtain ⟨hdistinct, hcount⟩ := (Distinct.nil (length - amount)).choose draw hbound s
  rw [Nat.sub_add_cancel hamount] at hdistinct
  rw [List.length_nil, Nat.zero_add] at hcount
  exact ⟨hdistinct, hcount⟩

end MediaPipeline.Random
