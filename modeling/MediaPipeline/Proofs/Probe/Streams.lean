import Mathlib
import MediaPipeline.Proofs.Probe.Texts

/-!
The streams of a report. Each element that stands for a stream gives one stream, in its place, and
nothing else has a say in it. A stream belongs to the type that its element names, so that each is
listed under one type or under none.
-/

namespace MediaPipeline

open Json (Reader Record Value)

theorem StreamType.ofName?_eq_some_iff {word : String} {t : StreamType} :
    ofName? word = some t ↔ word = t.name := by
  constructor
  · intro h
    have hname := List.find?_some h
    simpa [eq_comm] using hname
  · rintro rfl
    exact ofName?_name t

/-! ### Types -/

namespace ReportedStream

theorem streamType_metadata_iff {s : ReportedStream} {t : StreamType} :
    s.metadata.streamType = some t ↔ s.codecType = some t.name := by
  simp [metadata, Option.bind_eq_some_iff, StreamType.ofName?_eq_some_iff]

/-- A stream has no type if its element names none: the word is left out, null or another one. -/
theorem streamType_eq_none_iff {v : Value} {s : ReportedStream} (h : read v = .ok s) :
    s.metadata.streamType = none ↔
      Record.value? record.fields "codec_type" v = none ∨
      Record.value? record.fields "codec_type" v = some .null ∨
      ∃ word, s.codecType = some word ∧ ∀ t : StreamType, word ≠ t.name := by
  have hnone : s.metadata.streamType = none ↔
      s.codecType = none ∨ ∃ word, s.codecType = some word ∧ ∀ t : StreamType, word ≠ t.name := by
    rw [metadata]
    cases s.codecType with
    | none => simp
    | some word =>
        simp [Option.eq_none_iff_forall_ne_some, StreamType.ofName?_eq_some_iff]
  simp only [read, bind_eq_ok_iff] at h
  obtain ⟨values, hvalues, _, -, codecType, hcodecType, h⟩ := h
  have hs : s.codecType = codecType := by
    obtain ⟨_, -, _, -, _, -, _, -, _, -, _, -, _, -, _, -, _, -, _, -, _, -, h⟩ := h
    cases h
    rfl
  have hlookup : values.lookup "codec_type" = Record.value? record.fields "codec_type" v :=
    Record.lookup_of_read rfl hvalues
  have habsent : s.codecType = none ↔ Record.value? record.fields "codec_type" v = none ∨
      Record.value? record.fields "codec_type" v = some .null := by
    have hnullable : values.nullable "codec_type" Reader.text = .ok none ↔ _ :=
      Record.Values.nullable_eq_none_iff
    rw [hs, ← hlookup, ← hnullable, hcodecType, Except.ok.injEq]
  rw [hnone, habsent, or_assoc]

end ReportedStream

namespace MediaMetadata

variable {m : MediaMetadata} {s : StreamMetadata} {t : StreamType}

theorem mem_streamsOf_iff : s ∈ m.streamsOf t ↔ s ∈ m.streams ∧ s.streamType = some t := by
  rw [streamsOf, List.mem_filter, beq_iff_eq]

end MediaMetadata

/-- A stream has a type exactly if the report names it in the place of the stream. -/
theorem streamType_eq_some_iff {text : String} {m : MediaMetadata}
    (hm : MediaMetadata.ofReport text = .ok m) {i : Nat} {s : StreamMetadata}
    (hs : m.streams[i]? = some s) {t : StreamType} :
    s.streamType = some t ↔ reportText? text (.stream i .codecType) = some t.name := by
  obtain ⟨s₀, rfl, htext⟩ := exists_reportedStream hm hs
  rw [ReportedStream.streamType_metadata_iff, htext]
  rfl

/-- The streams of a type are those of which the report names it, in the order of their places. -/
theorem streamsOf_eq {text : String} {m : MediaMetadata}
    (hm : MediaMetadata.ofReport text = .ok m) (t : StreamType) :
    m.streamsOf t = (m.streams.zipIdx.filter fun s =>
      reportText? text (.stream s.2 .codecType) = some t.name).map Prod.fst := by
  have hfilter : ∀ s ∈ m.streams.zipIdx, (s.1.streamType == some t) =
      decide (reportText? text (.stream s.2 .codecType) = some t.name) := by
    intro s hs
    have hget : m.streams[s.2]? = some s.1 := List.mem_zipIdx_iff_getElem?.mp hs
    rw [Bool.eq_iff_iff, beq_iff_eq, decide_eq_true_iff]
    exact streamType_eq_some_iff hm hget
  -- the places are paired with the streams and dropped again behind the filter
  calc m.streamsOf t
      = (m.streams.zipIdx.map Prod.fst).filter (·.streamType == some t) := by
        rw [List.zipIdx_map_fst, MediaMetadata.streamsOf]
    _ = (m.streams.zipIdx.filter fun s => s.1.streamType == some t).map Prod.fst := by
        rw [List.filter_map]
        rfl
    _ = _ := by rw [List.filter_congr hfilter]

/-- A stream is listed under no type if its element names none. -/
theorem forall_not_mem_streamsOf_iff {text : String} {m : MediaMetadata}
    (hm : MediaMetadata.ofReport text = .ok m) {i : Nat} {s : StreamMetadata}
    (hs : m.streams[i]? = some s) :
    (∀ t, s ∉ m.streamsOf t) ↔
      ProbeReport.value? (Json.root text) (.stream i .codecType) = none ∨
      ProbeReport.value? (Json.root text) (.stream i .codecType) = some .null ∨
      ∃ word, reportText? text (.stream i .codecType) = some word ∧
        ∀ t : StreamType, word ≠ t.name := by
  have hlisted : (∀ t, s ∉ m.streamsOf t) ↔ s.streamType = none := by
    simp [MediaMetadata.mem_streamsOf_iff, List.mem_of_getElem? hs,
      Option.eq_none_iff_forall_ne_some]
  obtain ⟨r, -, hr, rfl⟩ := MediaMetadata.ofReport_eq_ok_iff.mp hm
  rw [ProbeReport.metadata, List.getElem?_map, Option.map_eq_some_iff] at hs
  obtain ⟨s₀, hs₀, rfl⟩ := hs
  obtain ⟨hi, rfl⟩ := List.getElem?_eq_some_iff.mp hs₀
  have hstreams := ProbeReport.forall₂_elements hr
  have hi' : i < (ProbeReport.elements (Json.root text)).length := hstreams.length_eq ▸ hi
  have hread := hstreams.get hi' hi
  have hvalue : ProbeReport.value? (Json.root text) (.stream i .codecType) =
      Record.value? ReportedStream.record.fields "codec_type"
        (ProbeReport.elements (Json.root text))[i] := by
    rw [ProbeReport.value?, List.getElem?_eq_getElem hi']
    rfl
  have hword : reportText? text (.stream i .codecType) = r.streams[i].codecType := by
    rw [reportText?, ← ProbeReport.text?_of_read hr, ProbeReport.text?, hs₀]
    rfl
  rw [hlisted, hvalue, hword]
  exact ReportedStream.streamType_eq_none_iff hread

/-- Every stream of a report is kept in its place and listed under the type that its element names, and
only there. -/
theorem streams_classified {text : String} {m : MediaMetadata}
    (hm : MediaMetadata.ofReport text = .ok m) :
    List.Forall₂ (fun e s => ReportedStream.metadata <$> ReportedStream.read e = .ok s)
      (ProbeReport.elements (Json.root text)) m.streams ∧
    (Record.value? ProbeReport.record.fields "streams" (Json.root text) = none → m.streams = []) ∧
    (∀ t, m.streamsOf t =
      (m.streams.zipIdx.filter fun s =>
        reportText? text (.stream s.2 .codecType) = some t.name).map Prod.fst) ∧
    (∀ i s, m.streams[i]? = some s →
      (∀ t t', s ∈ m.streamsOf t → s ∈ m.streamsOf t' → t = t') ∧
      ((∀ t, s ∉ m.streamsOf t) ↔
        ProbeReport.value? (Json.root text) (.stream i .codecType) = none ∨
        ProbeReport.value? (Json.root text) (.stream i .codecType) = some .null ∨
        ∃ word, reportText? text (.stream i .codecType) = some word ∧
          ∀ t : StreamType, word ≠ t.name)) ∧
    (m.firstVideo = (m.streamsOf .video).head? ∧
      (m.firstVideo = none ↔ m.streamsOf .video = [])) ∧
    m.firstAudio = (m.streamsOf .audio).head? ∧ (m.firstAudio = none ↔ m.streamsOf .audio = []) := by
  obtain ⟨r, -, hr, rfl⟩ := MediaMetadata.ofReport_eq_ok_iff.mp hm
  refine ⟨?_, ?_, ?_, ?_, ⟨rfl, List.head?_eq_none_iff⟩, rfl, List.head?_eq_none_iff⟩
  · rw [ProbeReport.metadata, List.forall₂_map_right_iff]
    exact (ProbeReport.forall₂_elements hr).imp fun e s hs => map_eq_ok_iff.mpr ⟨s, hs, rfl⟩
  · intro hnone
    obtain ⟨-, hempty⟩ | ⟨w, hw, -⟩ := ProbeReport.streams_of_read hr
    · rw [ProbeReport.metadata, hempty, List.map_nil]
    · rw [hnone] at hw
      cases hw
  · exact streamsOf_eq hm
  · refine fun i s hs => ⟨fun t t' ht ht' => ?_, forall_not_mem_streamsOf_iff hm hs⟩
    have htype := (MediaMetadata.mem_streamsOf_iff.mp ht).2
    have htype' := (MediaMetadata.mem_streamsOf_iff.mp ht').2
    exact Option.some.inj (htype.symm.trans htype')

/-- A report of a stream of an unknown type and of a picture. -/
def mixedText : String :=
  "\x7b\"format\":\x7b\x7d,\"streams\":[\x7b\"index\":0,\"codec_type\":\"Video\"\x7d," ++
    "\x7b\"index\":1,\"codec_type\":\"video\"\x7d]\x7d"

def mixedMetadata : MediaMetadata where
  format := ⟨none, none, none, none, none, 0, []⟩
  streams := [
    ⟨0, none, none, none, none, none, none, none, none, none, none, none, none⟩,
    ⟨1, some .video, none, none, none, none, none, none, none, none, none, none, none⟩]

theorem ofReport_mixedText : MediaMetadata.ofReport mixedText = .ok mixedMetadata := by
  have hread : ProbeReport.read (Json.root mixedText) = .ok
      ⟨⟨none, none, none, none, none, none, none⟩, [
        ⟨0, some "Video", none, none, none, none, none, none, none, none, none, none, none⟩,
        ⟨1, some "video", none, none, none, none, none, none, none, none, none, none, none⟩]⟩ := by
    cbv
  exact MediaMetadata.ofReport_eq_ok_iff.mpr ⟨_, by cbv, hread, by decide⟩

theorem streams_classified_mixedText :
    MediaMetadata.ofReport mixedText = .ok mixedMetadata ∧
    (∀ s ∈ mixedMetadata.streams[0]?, ∀ t, s ∉ mixedMetadata.streamsOf t) ∧
    mixedMetadata.firstVideo = mixedMetadata.streams[1]? := by
  obtain ⟨-, -, -, hstreams, ⟨hvideo, -⟩, -⟩ := streams_classified ofReport_mixedText
  have hword : reportText? mixedText (.stream 0 .codecType) = some "Video" := by cbv
  have hother : ∀ t : StreamType, "Video" ≠ t.name := by
    intro t
    cases t <;> decide
  have hunlisted : ∀ s ∈ mixedMetadata.streams[0]?, ∀ t, s ∉ mixedMetadata.streamsOf t :=
    fun s hs => (hstreams 0 s hs).2.mpr (.inr (.inr ⟨_, hword, hother⟩))
  exact ⟨ofReport_mixedText, hunlisted, hvideo⟩

end MediaPipeline
