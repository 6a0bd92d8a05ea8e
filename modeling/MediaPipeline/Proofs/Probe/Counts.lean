import Mathlib
import MediaPipeline.Proofs.Decimal.Counting
import MediaPipeline.Proofs.Probe.Replacing

/-!
Counts in a report. A count is there exactly if its text spells one that fits, and then it is this
one. A text that spells none leaves its own field absent, and whatever stands in its place, the
report is read and says the same of all the rest.
-/

namespace MediaPipeline

open Decimal (Spells)

theorem count64?_eq_some_iff {text : String} {n : UInt64} :
    count64? text = some n ↔ Spells text.toList n.toNat := by
  rw [count64?, Option.map_eq_map, Option.map_eq_some_iff]
  simp only [Decimal.unsigned?_eq_some_iff]
  constructor
  · rintro ⟨k, ⟨hk, hlt⟩, rfl⟩
    rwa [UInt64.toNat_ofNat_of_lt' hlt]
  · intro h
    exact ⟨n.toNat, ⟨h, n.toNat_lt⟩, UInt64.ofNat_toNat⟩

theorem count32?_eq_some_iff {text : String} {n : UInt32} :
    count32? text = some n ↔ Spells text.toList n.toNat := by
  rw [count32?, Option.map_eq_map, Option.map_eq_some_iff]
  simp only [Decimal.unsigned?_eq_some_iff]
  constructor
  · rintro ⟨k, ⟨hk, hlt⟩, rfl⟩
    rwa [UInt32.toNat_ofNat_of_lt' hlt]
  · intro h
    exact ⟨n.toNat, ⟨h, n.toNat_lt⟩, UInt32.ofNat_toNat⟩

section

variable {o : Option String}

theorem bind_count64?_eq_some_iff {n : UInt64} :
    o.bind count64? = some n ↔ ∃ t, o = some t ∧ Spells t.toList n.toNat := by
  simp only [Option.bind_eq_some_iff, count64?_eq_some_iff]

theorem bind_count32?_eq_some_iff {n : UInt32} :
    o.bind count32? = some n ↔ ∃ t, o = some t ∧ Spells t.toList n.toNat := by
  simp only [Option.bind_eq_some_iff, count32?_eq_some_iff]

end

/-- A count of a report is there exactly if its text spells it and it fits. Any text can be put in
the place of another one; the report is still read then, however the document with this text in it
is laid out, and nothing but what the text says changes. -/
theorem counts_read_exactly {text : String} {m : MediaMetadata}
    (hm : MediaMetadata.ofReport text = .ok m) :
    (∀ n, m.format.size = some n ↔
      ∃ t, reportText? text (.format .size) = some t ∧ Spells t.toList n.toNat) ∧
    (∀ n, m.format.bitRate = some n ↔
      ∃ t, reportText? text (.format .bitRate) = some t ∧ Spells t.toList n.toNat) ∧
    (∀ i s, m.streams[i]? = some s →
      (∀ n, s.bitRate = some n ↔
        ∃ t, reportText? text (.stream i .bitRate) = some t ∧ Spells t.toList n.toNat) ∧
      ∀ n, s.sampleRate = some n ↔
        ∃ t, reportText? text (.stream i .sampleRate) = some t ∧ Spells t.toList n.toNat) ∧
    ∀ t, (reportText? text t).isSome → ∀ new : String,
      (∃ text', Json.Document (ProbeReport.put (Json.ofString new) (Json.root text) t) text') ∧
      ∀ s : Json.Spelling, s.read = .ok new →
        ProbeReport.metadata <$> ProbeReport.read (ProbeReport.put (.text s) (Json.root text) t) =
          .ok (m.retold new t) ∧
        ∀ text', Json.Document (ProbeReport.put (.text s) (Json.root text) t) text' →
          MediaMetadata.ofReport text' = .ok (m.retold new t) := by
  obtain ⟨f, hf, hformat⟩ := exists_reportedFormat hm
  rw [hf, hformat, hformat]
  refine ⟨fun n => bind_count64?_eq_some_iff, fun n => bind_count64?_eq_some_iff, fun i s hs => ?_,
    fun t ht new => ⟨exists_document_put hm t new, fun s hs =>
      ⟨metadata_read_put hm ht hs, fun text' => ofReport_put hm ht hs⟩⟩⟩
  obtain ⟨s₀, rfl, hstream⟩ := exists_reportedStream hm hs
  rw [hstream, hstream]
  exact ⟨fun n => bind_count64?_eq_some_iff, fun n => bind_count32?_eq_some_iff⟩

/-- A report with zeros and a plus sign before a size, and with counts at the limits of their types,
one of them just above. -/
def limitsText : String :=
  "\x7b\"format\":\x7b\"size\":\"+007\",\"bit_rate\":\"18446744073709551616\"\x7d," ++
    "\"streams\":[\x7b\"index\":0,\"sample_rate\":\"4294967295\"\x7d]\x7d"

/-- The same report with a sample rate that is no count. -/
def uncountedText : String :=
  "\x7b\"format\":\x7b\"size\":\"+007\",\"bit_rate\":\"18446744073709551616\"\x7d," ++
    "\"streams\":[\x7b\"index\":0,\"sample_rate\":\"48 kHz\"\x7d]\x7d"

def limitsMetadata : MediaMetadata where
  format := ⟨none, none, none, some 7, none, 0, []⟩
  streams := [⟨0, none, none, none, none, none, none, none, some 4294967295, none, none, none, none⟩]

theorem ofReport_limitsText : MediaMetadata.ofReport limitsText = .ok limitsMetadata := by
  have hread : ProbeReport.read (Json.root limitsText) = .ok
      ⟨⟨none, none, none, some "+007", some "18446744073709551616", none, none⟩,
        [⟨0, none, none, none, none, none, none, none, some "4294967295", none, none, none, none⟩]⟩ := by
    cbv
  exact MediaMetadata.ofReport_eq_ok_iff.mpr ⟨_, by cbv, hread, by decide +kernel⟩

theorem counts_read_exactly_limitsText :
    MediaMetadata.ofReport limitsText = .ok limitsMetadata ∧
    (∃ t, reportText? limitsText (.format .size) = some t ∧ Spells t.toList 7) ∧
    MediaMetadata.ofReport uncountedText =
      .ok (limitsMetadata.retold "48 kHz" (.stream 0 .sampleRate)) := by
  obtain ⟨hsize, -, -, hput⟩ := counts_read_exactly ofReport_limitsText
  have ht : (reportText? limitsText (.stream 0 .sampleRate)).isSome = true := by cbv
  have htext : Json.Document (ProbeReport.put (Json.ofString "48 kHz") (Json.root limitsText)
      (.stream 0 .sampleRate)) uncountedText := Json.document_of_ofText (by cbv) (by cbv)
  exact ⟨ofReport_limitsText, (hsize 7).mp rfl,
    ((hput _ ht "48 kHz").2 _ (Json.Spelling.read_ofString "48 kHz")).2 _ htext⟩

end MediaPipeline
