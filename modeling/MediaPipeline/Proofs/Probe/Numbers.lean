import MediaPipeline.Proofs.Decimal.Numerals
import MediaPipeline.Proofs.Probe.Texts

/-!
Times and rates in a report. They are floating-point numbers, and not every text that is read as one
is read as a finite one. Only a second number that is zero is refused, so that the words for infinity and
for what is not a number, numerals out of range and quotients out of range all come through.
-/

namespace MediaPipeline

open Decimal (float? FiniteText NonFiniteText)
open Binary64 (QuotientInRange)

/-! ### Rates -/

/-- The text is two numbers with the first slash between them, where the second number is not zero. -/
def IsQuotient (text : List Char) (x y : Float) : Prop :=
  ∃ first second, text = first ++ '/' :: second ∧ '/' ∉ first ∧
    float? first = some x ∧ float? second = some y ∧ (y == 0) = false

/-- The text is a number in range, or a quotient in range. -/
def FiniteRate (text : List Char) : Prop :=
  '/' ∉ text ∧ FiniteText text ∨ ∃ x y, IsQuotient text x y ∧ QuotientInRange x y

/-- The text is read as a number, or a quotient, that is not finite. -/
def NonFiniteRate (text : List Char) : Prop :=
  '/' ∉ text ∧ NonFiniteText text ∨ ∃ x y, IsQuotient text x y ∧ ¬ QuotientInRange x y

theorem frameRate?_of_not_mem {text : String} (h : '/' ∉ text.toList) :
    frameRate? text = float? text.toList := by
  have hslash : ∀ c ∈ text.toList, (c ≠ '/' : Bool) = true := by
    intro c hc
    simpa using fun heq : c = '/' => h (heq ▸ hc)
  have htake : text.toList.takeWhile (· ≠ '/') = text.toList := List.takeWhile_eq_self_iff.mpr hslash
  have hdrop : text.toList.dropWhile (· ≠ '/') = [] := List.dropWhile_eq_nil_iff.mpr hslash
  unfold frameRate?
  rw [htake, hdrop]

theorem frameRate?_quotient {text : String} {first second : List Char}
    (htext : text.toList = first ++ '/' :: second) (h : '/' ∉ first) :
    frameRate? text = (float? first).bind fun x => (float? second).bind fun y =>
      if y == 0 then none else some (x / y) := by
  have hslash : ∀ c ∈ first, (c ≠ '/' : Bool) = true := by
    intro c hc
    simpa using fun heq : c = '/' => h (heq ▸ hc)
  unfold frameRate?
  rw [htext, List.takeWhile_append_of_pos hslash, List.dropWhile_append_of_pos hslash]
  simp

theorem frameRate?_eq_some_iff {text : String} {z : Float} :
    frameRate? text = some z ↔ '/' ∉ text.toList ∧ float? text.toList = some z ∨
      ∃ x y, IsQuotient text.toList x y ∧ x / y = z := by
  by_cases hslash : '/' ∈ text.toList
  · simp only [hslash, not_true, false_and, false_or]
    constructor
    · intro h
      obtain ⟨first, second, htext, hfirst⟩ := List.eq_append_cons_of_mem hslash
      rw [frameRate?_quotient htext hfirst] at h
      obtain ⟨x, hx, h⟩ := Option.bind_eq_some_iff.mp h
      obtain ⟨y, hy, h⟩ := Option.bind_eq_some_iff.mp h
      obtain ⟨hzero, h⟩ := Option.ite_none_left_eq_some.mp h
      exact ⟨x, y, ⟨first, second, htext, hfirst, hx, hy, Bool.eq_false_iff.mpr hzero⟩,
        Option.some.inj h⟩
    · rintro ⟨x, y, ⟨first, second, htext, hfirst, hx, hy, hzero⟩, rfl⟩
      rw [frameRate?_quotient htext hfirst, hx, hy, Option.bind_some, Option.bind_some, hzero]
      rfl
  · rw [frameRate?_of_not_mem hslash]
    constructor
    · exact fun h => .inl ⟨hslash, h⟩
    · rintro (⟨-, h⟩ | ⟨x, y, ⟨first, second, htext, -⟩, -⟩)
      · exact h
      · exact absurd (htext ▸ List.mem_append_right _ List.mem_cons_self) hslash

theorem exists_frameRate?_iff {text : String} {p : Float → Prop} :
    (∃ z, frameRate? text = some z ∧ p z) ↔
      '/' ∉ text.toList ∧ (∃ z, float? text.toList = some z ∧ p z) ∨
        ∃ x y, IsQuotient text.toList x y ∧ p (x / y) := by
  simp only [frameRate?_eq_some_iff]
  constructor
  · rintro ⟨z, ⟨hslash, hz⟩ | ⟨x, y, hquotient, rfl⟩, hp⟩
    · exact .inl ⟨hslash, z, hz, hp⟩
    · exact .inr ⟨x, y, hquotient, hp⟩
  · rintro (⟨hslash, z, hz, hp⟩ | ⟨x, y, hquotient, hp⟩)
    · exact ⟨z, .inl ⟨hslash, hz⟩, hp⟩
    · exact ⟨_, .inr ⟨x, y, hquotient, rfl⟩, hp⟩

theorem finiteRate_iff {text : String} :
    FiniteRate text.toList ↔ ∃ z, frameRate? text = some z ∧ z.isFinite = true := by
  rw [exists_frameRate?_iff, ← Decimal.finiteText_iff]
  simp only [FiniteRate, Binary64.isFinite_div_iff]

theorem nonFiniteRate_iff {text : String} :
    NonFiniteRate text.toList ↔ ∃ z, frameRate? text = some z ∧ z.isFinite = false := by
  rw [exists_frameRate?_iff, ← Decimal.nonFiniteText_iff]
  simp only [NonFiniteRate, ← Binary64.isFinite_div_iff, Bool.not_eq_true]

/-! ### Reports -/

/-- A number is there and finite exactly if its text is of one kind, and there and not finite exactly if
its text is of another kind; so it is absent if the text is, or is of neither. -/
structure SortedBy (text : Option String) (number : Option Float) (finite nonFinite : List Char → Prop) :
    Prop where
  finite_iff : (∃ x, number = some x ∧ x.isFinite = true) ↔ ∃ t, text = some t ∧ finite t.toList
  nonFinite_iff : (∃ x, number = some x ∧ x.isFinite = false) ↔
    ∃ t, text = some t ∧ nonFinite t.toList

theorem SortedBy.bind {text : Option String} {read : String → Option Float}
    {finite nonFinite : List Char → Prop}
    (hfinite : ∀ t : String, finite t.toList ↔ ∃ x, read t = some x ∧ x.isFinite = true)
    (hnonFinite : ∀ t : String, nonFinite t.toList ↔ ∃ x, read t = some x ∧ x.isFinite = false) :
    SortedBy text (text.bind read) finite nonFinite := by
  cases text with
  | none => exact ⟨by simp, by simp⟩
  | some t => exact ⟨by simp [hfinite], by simp [hnonFinite]⟩

/-- The times and rates of a report are finite where a text is in range. Where a text is read as a number
that is not finite, the number is there nevertheless. -/
theorem numbers_sorted {text : String} {m : MediaMetadata} (hm : MediaMetadata.ofReport text = .ok m) :
    SortedBy (reportText? text (.format .duration)) m.format.duration FiniteText NonFiniteText ∧
    ∀ i s, m.streams[i]? = some s →
      SortedBy (reportText? text (.stream i .duration)) s.duration FiniteText NonFiniteText ∧
      SortedBy (reportText? text (.stream i .frameRate)) s.frameRate FiniteRate NonFiniteRate := by
  have hseconds : ∀ o : Option String, SortedBy o (o.bind seconds?) FiniteText NonFiniteText :=
    fun o => .bind (fun _ => Decimal.finiteText_iff) fun _ => Decimal.nonFiniteText_iff
  refine ⟨?_, fun i s hs => ?_⟩
  · obtain ⟨f, hf, htext⟩ := exists_reportedFormat hm
    rw [hf, htext]
    exact hseconds f.duration
  · obtain ⟨s₀, rfl, htext⟩ := exists_reportedStream hm hs
    rw [htext, htext]
    exact ⟨hseconds s₀.duration, .bind (fun _ => finiteRate_iff) fun _ => nonFiniteRate_iff⟩

/-- A report of an infinite time, and of a rate by what is no number. -/
def endlessText : String :=
  "\x7b\"format\":\x7b\"duration\":\"inf\"\x7d," ++
    "\"streams\":[\x7b\"index\":0,\"r_frame_rate\":\"30/nan\"\x7d]\x7d"

def endlessReport : ProbeReport where
  format := ⟨none, none, some "inf", none, none, none, none⟩
  streams := [⟨0, none, none, none, none, none, some "30/nan", none, none, none, none, none, none⟩]

theorem ofReport_endlessText : MediaMetadata.ofReport endlessText = .ok endlessReport.metadata := by
  have hread : ProbeReport.read (Json.root endlessText) = .ok endlessReport := by cbv
  exact MediaMetadata.ofReport_eq_ok_iff.mpr ⟨_, by cbv, hread, rfl⟩

theorem numbers_sorted_endlessText :
    MediaMetadata.ofReport endlessText = .ok endlessReport.metadata ∧
    (∃ x, endlessReport.metadata.format.duration = some x ∧ x.isFinite = false) ∧
    ∃ s, endlessReport.metadata.streams[0]? = some s ∧
      ∃ x, s.frameRate = some x ∧ x.isFinite = false := by
  obtain ⟨hduration, hstreams⟩ := numbers_sorted ofReport_endlessText
  obtain ⟨-, hrate⟩ := hstreams 0 _ rfl
  have htime : reportText? endlessText (.format .duration) = some "inf" := by cbv
  have hword : NonFiniteText "inf".toList := .inl (.inl ⟨_, _, .bare, by decide⟩)
  have hquotient : reportText? endlessText (.stream 0 .frameRate) = some "30/nan" := by cbv
  have hnumber : NonFiniteRate "30/nan".toList :=
    nonFiniteRate_iff.mpr ⟨_, rfl, by decide⟩
  exact ⟨ofReport_endlessText, hduration.nonFinite_iff.mpr ⟨_, htime, hword⟩,
    _, rfl, hrate.nonFinite_iff.mpr ⟨_, hquotient, hnumber⟩⟩

end MediaPipeline
