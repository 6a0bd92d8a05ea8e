import MediaPipeline.Probe.Report
import MediaPipeline.Proofs.Json.Fields
import MediaPipeline.Proofs.Json.Rearranging

/-!
The texts in a report that numbers and types are read from: where they stand in the document, and
what becomes of the report when one of them is replaced.
-/

namespace MediaPipeline

open Json (Reader ReadError Field Record Value Items Spelling)

/-! ### Texts in a document -/

namespace Json

/-- The text that a value is. -/
def Value.text? : Value → Option String
  | .text spelling => spelling.read.toOption
  | _ => none

theorem Value.text?_of_read {spelling : Spelling} {t : String} (h : spelling.read = .ok t) :
    Value.text? (.text spelling) = some t := by
  rw [Value.text?, h]
  rfl

/-- A text that may be absent is absent where there is none. -/
theorem Record.Values.eq_text?_of_nullable {values : Record.Values} {name : String}
    {o : Option String} (h : values.nullable name Reader.text = .ok o) :
    o = (values.lookup name).bind Value.text? := by
  rw [Record.Values.nullable_eq] at h
  cases hv : values.lookup name with
  | none =>
      rw [hv] at h
      exact (Except.ok.inj h).symm
  | some v =>
      rw [hv] at h
      unfold Reader.nullable at h
      simp only [Option.elim_some] at h
      split at h
      · exact (Except.ok.inj h).symm
      · obtain ⟨t, ht, rfl⟩ := map_eq_ok_iff.mp h
        unfold Reader.text at ht
        split at ht
        · rw [orMalformed_eq_ok_iff] at ht
          exact (Value.text?_of_read ht).symm
        · cases ht

/-- A value that may be absent is absent where there is nothing or null. -/
theorem Record.Values.nullable_eq_none_iff {α : Type} {values : Record.Values} {name : String}
    {read : Reader α} :
    values.nullable name read = .ok none ↔
      values.lookup name = none ∨ values.lookup name = some .null := by
  rw [Record.Values.nullable_eq]
  cases values.lookup name with
  | none => simp
  | some v =>
      simp only [Option.elim_some, reduceCtorEq, Option.some.injEq, false_or]
      unfold Reader.nullable
      split
      · simp
      · next hnull => exact iff_of_false (by simp [map_eq_ok_iff]) hnull

/-- The values of a record before and after a text is put in the place of one field. -/
structure Record.Retold (fields : List Field) (name text : String)
    (values values' : Record.Values) : Prop where
  nullable_text : values'.nullable name Reader.text = .ok (some text)
  lookup : ∀ other, (Record.field? fields other).isSome → other ≠ name →
    values'.lookup other = values.lookup other

namespace Record.Retold

variable {fields : List Field} {name text other : String} {values values' : Record.Values}

theorem nullable {α : Type} (h : Retold fields name text values values') (read : Reader α)
    (hother : (field? fields other).isSome) (hne : other ≠ name) :
    values'.nullable other read = values.nullable other read := by
  rw [Values.nullable_eq, Values.nullable_eq, h.lookup other hother hne]

theorem required {α : Type} (h : Retold fields name text values values') (read : Reader α)
    (hother : (field? fields other).isSome) (hne : other ≠ name) :
    values'.required other read = values.required other read := by
  rw [Values.required_eq, Values.required_eq, h.lookup other hother hne]

end Record.Retold

/-- A record is still read after a text is put in the place of a field that may have one. -/
theorem Record.read_retold {r : Record} {v : Value} {values : Record.Values} {name : String}
    (hf : Record.field? r.fields name = some (.nullable name Reader.text))
    (hv : r.read v = .ok values) (hname : (values.lookup name).isSome) {s : Spelling}
    {text : String} (hs : s.read = .ok text) :
    ∃ values', r.read (Record.modify r.fields name (fun _ => .text s) v) = .ok values' ∧
      Record.Retold r.fields name text values values' := by
  have htext : Reader.nullable Reader.text (.text s) = .ok (some text) := by
    rw [Reader.nullable, Reader.text, hs]
    · rfl
    · intro hnull
      cases hnull
  have hcheck : (Field.nullable name Reader.text).check (.text s) = .ok () :=
    map_eq_ok_iff.mpr ⟨_, htext, rfl⟩
  obtain ⟨values', hvalues', hlookup⟩ :=
    Record.read_modify (g := fun _ => .text s) hf (fun _ _ => hcheck) hv
  refine ⟨values', hvalues', ?_, fun other hother hne => ?_⟩
  · obtain ⟨old, hold⟩ := Option.isSome_iff_exists.mp hname
    have hnew := hlookup name (Option.isSome_of_eq_some hf)
    rw [if_pos rfl, hold, Option.map_some] at hnew
    rw [Record.Values.nullable_eq, hnew]
    exact htext
  · rw [hlookup other hother, if_neg hne]

end Json

/-- A text in what a report says of the container. -/
inductive FormatText where
  | duration
  | size
  | bitRate

/-- A text in what a report says of a stream. -/
inductive StreamText where
  | codecType
  | frameRate
  | sampleRate
  | bitRate
  | duration

/-- A text in a report: one of the container, or one of the stream at a position. -/
inductive ReportText where
  | format (t : FormatText)
  | stream (i : Nat) (t : StreamText)

namespace FormatText

def name : FormatText → String
  | duration => "duration"
  | size => "size"
  | bitRate => "bit_rate"

end FormatText

namespace StreamText

def name : StreamText → String
  | codecType => "codec_type"
  | frameRate => "r_frame_rate"
  | sampleRate => "sample_rate"
  | bitRate => "bit_rate"
  | duration => "duration"

end StreamText

namespace ReportedFormat

def text? (f : ReportedFormat) : FormatText → Option String
  | .duration => f.duration
  | .size => f.size
  | .bitRate => f.bitRate

/-- The same with another text. -/
def replace (f : ReportedFormat) (text : String) : FormatText → ReportedFormat
  | .duration => { f with duration := some text }
  | .size => { f with size := some text }
  | .bitRate => { f with bitRate := some text }

theorem field?_text (t : FormatText) :
    Record.field? record.fields t.name = some (.nullable t.name Reader.text) := by
  cases t <;> rfl

theorem text?_of_read {v : Value} {f : ReportedFormat} (h : read v = .ok f) (t : FormatText) :
    f.text? t = (Record.value? record.fields t.name v).bind Json.Value.text? := by
  simp only [read, bind_eq_ok_iff] at h
  obtain ⟨values, hvalues, _, -, _, -, duration, hduration, size, hsize, bitRate, hbitRate, _, -, _,
    -, hf⟩ := h
  cases hf
  rw [← Record.lookup_of_read (field?_text t) hvalues]
  cases t with
  | duration => exact Record.Values.eq_text?_of_nullable hduration
  | size => exact Record.Values.eq_text?_of_nullable hsize
  | bitRate => exact Record.Values.eq_text?_of_nullable hbitRate

theorem read_retold {v : Value} {f : ReportedFormat} (h : read v = .ok f) {t : FormatText}
    (ht : (f.text? t).isSome) {s : Spelling} {text : String} (hs : s.read = .ok text) :
    read (Record.modify record.fields t.name (fun _ => .text s) v) = .ok (f.replace text t) := by
  rw [text?_of_read h] at ht
  simp only [read, bind_eq_ok_iff] at h
  obtain ⟨values, hvalues, _, h₁, _, h₂, _, h₃, _, h₄, _, h₅, _, h₆, _, h₇, hf⟩ := h
  cases hf
  have hsome : (values.lookup t.name).isSome := by
    rw [Record.lookup_of_read (field?_text t) hvalues]
    exact Option.isSome_of_isSome_bind ht
  obtain ⟨values', hvalues', hretold⟩ :=
    Json.Record.read_retold (field?_text t) hvalues hsome hs
  refine bind_eq_ok_iff.mpr ⟨values', hvalues', ?_⟩
  have hnew := hretold.nullable_text
  cases t with
  | duration | size | bitRate =>
      simp (disch := decide) only [FormatText.name, hretold.nullable] at hnew ⊢
      simp only [hnew, h₁, h₂, h₃, h₄, h₅, h₆, h₇]
      rfl

end ReportedFormat

namespace ReportedStream

def text? (s : ReportedStream) : StreamText → Option String
  | .codecType => s.codecType
  | .frameRate => s.frameRate
  | .sampleRate => s.sampleRate
  | .bitRate => s.bitRate
  | .duration => s.duration

/-- The same with another text. -/
def replace (s : ReportedStream) (text : String) : StreamText → ReportedStream
  | .codecType => { s with codecType := some text }
  | .frameRate => { s with frameRate := some text }
  | .sampleRate => { s with sampleRate := some text }
  | .bitRate => { s with bitRate := some text }
  | .duration => { s with duration := some text }

theorem field?_text (t : StreamText) :
    Record.field? record.fields t.name = some (.nullable t.name Reader.text) := by
  cases t <;> rfl

theorem text?_of_read {v : Value} {s : ReportedStream} (h : read v = .ok s) (t : StreamText) :
    s.text? t = (Record.value? record.fields t.name v).bind Json.Value.text? := by
  simp only [read, bind_eq_ok_iff] at h
  obtain ⟨values, hvalues, _, -, codecType, hcodecType, _, -, _, -, _, -, _, -, frameRate,
    hframeRate, _, -, sampleRate, hsampleRate, _, -, _, -, bitRate, hbitRate, duration, hduration,
    hs⟩ := h
  cases hs
  rw [← Record.lookup_of_read (field?_text t) hvalues]
  cases t with
  | codecType => exact Record.Values.eq_text?_of_nullable hcodecType
  | frameRate => exact Record.Values.eq_text?_of_nullable hframeRate
  | sampleRate => exact Record.Values.eq_text?_of_nullable hsampleRate
  | bitRate => exact Record.Values.eq_text?_of_nullable hbitRate
  | duration => exact Record.Values.eq_text?_of_nullable hduration

theorem read_retold {v : Value} {s : ReportedStream} (h : read v = .ok s) {t : StreamText}
    (ht : (s.text? t).isSome) {spelling : Spelling} {text : String}
    (hspelling : spelling.read = .ok text) :
    read (Record.modify record.fields t.name (fun _ => .text spelling) v) =
      .ok (s.replace text t) := by
  rw [text?_of_read h] at ht
  simp only [read, bind_eq_ok_iff] at h
  obtain ⟨values, hvalues, _, h₁, _, h₂, _, h₃, _, h₄, _, h₅, _, h₆, _, h₇, _, h₈, _, h₉, _, h₁₀, _,
    h₁₁, _, h₁₂, _, h₁₃, hs⟩ := h
  cases hs
  have hsome : (values.lookup t.name).isSome := by
    rw [Record.lookup_of_read (field?_text t) hvalues]
    exact Option.isSome_of_isSome_bind ht
  obtain ⟨values', hvalues', hretold⟩ :=
    Json.Record.read_retold (field?_text t) hvalues hsome hspelling
  refine bind_eq_ok_iff.mpr ⟨values', hvalues', ?_⟩
  have hnew := hretold.nullable_text
  cases t with
  | codecType | frameRate | sampleRate | bitRate | duration =>
      simp (disch := decide) only [StreamText.name, hretold.nullable, hretold.required] at hnew ⊢
      simp only [hnew, h₁, h₂, h₃, h₄, h₅, h₆, h₇, h₈, h₉, h₁₀, h₁₁, h₁₂, h₁₃]
      rfl

end ReportedStream

/-! ### Reports -/

namespace ProbeReport

def text? (r : ProbeReport) : ReportText → Option String
  | .format t => r.format.text? t
  | .stream i t => r.streams[i]?.bind fun s => s.text? t

/-- The same with another text. -/
def replace (r : ProbeReport) (text : String) : ReportText → ProbeReport
  | .format t => { r with format := r.format.replace text t }
  | .stream i t => { r with streams := r.streams.modify i fun s => s.replace text t }

/-- What stands in a document for the streams. -/
def elements (v : Value) : List Value :=
  match Record.value? record.fields "streams" v with
  | some (.list is) => Items.values is
  | _ => []

/-- What stands in a document in the place of a text. -/
def value? (v : Value) : ReportText → Option Value
  | .format t =>
    (Record.value? record.fields "format" v).bind
      (Record.value? ReportedFormat.record.fields t.name)
  | .stream i t => (elements v)[i]?.bind (Record.value? ReportedStream.record.fields t.name)

/-- A document with something else in the place of a text. -/
def put (w v : Value) : ReportText → Value
  | .format t =>
    Record.modify record.fields "format"
      (Record.modify ReportedFormat.record.fields t.name fun _ => w) v
  | .stream i t =>
    Record.modify record.fields "streams"
      (Json.modifyItem i (Record.modify ReportedStream.record.fields t.name fun _ => w)) v

variable {v : Value} {r : ProbeReport}

theorem read_iff : read v = .ok r ↔ ∃ values, record.read v = .ok values ∧
    values.required "format" ReportedFormat.read = .ok r.format ∧
    values.standard "streams" (Reader.list ReportedStream.read) [] = .ok r.streams := by
  rw [read, bind_eq_ok_iff]
  refine exists_congr fun values => and_congr_right fun _ => ?_
  simp only [bind_eq_ok_iff, pure, Except.pure, Except.ok.injEq]
  constructor
  · rintro ⟨format, hformat, streams, hstreams, rfl⟩
    exact ⟨hformat, hstreams⟩
  · rintro ⟨hformat, hstreams⟩
    exact ⟨_, hformat, _, hstreams, rfl⟩

/-- What is read of the container stands under its name. -/
theorem exists_format (h : read v = .ok r) :
    ∃ w, Record.value? record.fields "format" v = some w ∧ ReportedFormat.read w = .ok r.format := by
  obtain ⟨values, hvalues, hformat, -⟩ := read_iff.mp h
  rw [Record.Values.required_eq, Record.lookup_of_read rfl hvalues] at hformat
  cases hw : Record.value? record.fields "format" v with
  | none =>
      rw [hw] at hformat
      cases hformat
  | some w =>
      rw [hw] at hformat
      exact ⟨w, rfl, hformat⟩

/-- What is read of the streams stands under their name, if there are any. -/
theorem streams_of_read (h : read v = .ok r) :
    (Record.value? record.fields "streams" v = none ∧ r.streams = []) ∨
      ∃ w, Record.value? record.fields "streams" v = some w ∧
        Reader.list ReportedStream.read w = .ok r.streams := by
  obtain ⟨values, hvalues, -, hstreams⟩ := read_iff.mp h
  rw [Record.Values.standard_eq, Record.lookup_of_read rfl hvalues] at hstreams
  cases hw : Record.value? record.fields "streams" v with
  | none =>
      rw [hw] at hstreams
      exact .inl ⟨rfl, (Except.ok.inj hstreams).symm⟩
  | some w =>
      rw [hw] at hstreams
      exact .inr ⟨w, rfl, hstreams⟩

/-- Each stream is read from what stands in its place, and from nothing else. -/
theorem forall₂_elements (h : read v = .ok r) :
    List.Forall₂ (fun e s => ReportedStream.read e = .ok s) (elements v) r.streams := by
  rw [elements]
  obtain ⟨hnone, hstreams⟩ | ⟨w, hw, hstreams⟩ := streams_of_read h
  · rw [hnone, hstreams]
    exact .nil
  · obtain ⟨is, rfl, -, his⟩ := Reader.list_eq_ok_iff.mp hstreams
    rw [hw]
    exact his

theorem text?_of_read (h : read v = .ok r) (t : ReportText) :
    r.text? t = (value? v t).bind Json.Value.text? := by
  cases t with
  | format t =>
      obtain ⟨w, hw, hformat⟩ := exists_format h
      rw [text?, value?, hw, ReportedFormat.text?_of_read hformat]
      rfl
  | stream i t =>
      have hstreams := forall₂_elements h
      rw [text?, value?, Option.bind_assoc]
      by_cases hi : i < (elements v).length
      · have hi' : i < r.streams.length := hstreams.length_eq ▸ hi
        rw [List.getElem?_eq_getElem hi, List.getElem?_eq_getElem hi', Option.bind_some,
          Option.bind_some]
        exact ReportedStream.text?_of_read (hstreams.get hi hi') t
      · have hi' : ¬ i < r.streams.length := hstreams.length_eq ▸ hi
        rw [List.getElem?_eq_none (Nat.le_of_not_lt hi), List.getElem?_eq_none (Nat.le_of_not_lt hi')]
        rfl

section

variable {s : Spelling} {text : String}

theorem read_put_format (h : read v = .ok r) {t : FormatText} (ht : (r.format.text? t).isSome)
    (hs : s.read = .ok text) :
    read (put (.text s) v (.format t)) = .ok (r.replace text (.format t)) := by
  obtain ⟨values, hvalues, -, hstreams⟩ := read_iff.mp h
  obtain ⟨w, hw, hformat⟩ := exists_format h
  have hnew := ReportedFormat.read_retold hformat ht hs
  have hcheck : ∀ w', Record.value? record.fields "format" v = some w' →
      (Field.required "format" ReportedFormat.read).check
        (Record.modify ReportedFormat.record.fields t.name (fun _ => .text s) w') = .ok () := by
    intro w' hw'
    obtain rfl : w = w' := Option.some.inj (hw.symm.trans hw')
    exact map_eq_ok_iff.mpr ⟨_, hnew, rfl⟩
  obtain ⟨values', hvalues', hlookup⟩ := Record.read_modify rfl hcheck hvalues
  refine read_iff.mpr ⟨values', hvalues', ?_, ?_⟩
  · rw [← Record.lookup_of_read rfl hvalues] at hw
    rw [Record.Values.required_eq, hlookup "format" rfl, if_pos rfl, hw]
    exact hnew
  · rw [Record.Values.standard_eq] at hstreams ⊢
    rw [hlookup "streams" rfl, if_neg (by decide)]
    exact hstreams

theorem read_put_stream (h : read v = .ok r) {i : Nat} {t : StreamText}
    (ht : (r.streams[i]?.bind fun s => s.text? t).isSome) (hs : s.read = .ok text) :
    read (put (.text s) v (.stream i t)) = .ok (r.replace text (.stream i t)) := by
  obtain ⟨values, hvalues, hformat, -⟩ := read_iff.mp h
  obtain ⟨-, hempty⟩ | ⟨w, hw, hlist⟩ := streams_of_read h
  · rw [hempty] at ht
    cases ht
  · have hnew := Reader.list_modifyItem (i := i) (k := fun s₀ => s₀.replace text t) hlist
      fun w s₀ hs₀ hread => by
        rw [hs₀] at ht
        exact ReportedStream.read_retold hread ht hs
    have hcheck : ∀ w', Record.value? record.fields "streams" v = some w' →
        (Field.standard "streams" (Reader.list ReportedStream.read)).check
          (Json.modifyItem i
            (Record.modify ReportedStream.record.fields t.name fun _ => .text s) w') = .ok () := by
      intro w' hw'
      obtain rfl : w = w' := Option.some.inj (hw.symm.trans hw')
      exact map_eq_ok_iff.mpr ⟨_, hnew, rfl⟩
    obtain ⟨values', hvalues', hlookup⟩ := Record.read_modify rfl hcheck hvalues
    refine read_iff.mpr ⟨values', hvalues', ?_, ?_⟩
    · rw [Record.Values.required_eq] at hformat ⊢
      rw [hlookup "format" rfl, if_neg (by decide)]
      exact hformat
    · rw [← Record.lookup_of_read rfl hvalues] at hw
      rw [Record.Values.standard_eq, hlookup "streams" rfl, if_pos rfl, hw]
      exact hnew

/-- A report is still read after another text is put in the place of one that was there, and nothing
else in it changes. -/
theorem read_put (h : read v = .ok r) {t : ReportText} (ht : (r.text? t).isSome)
    (hs : s.read = .ok text) : read (put (.text s) v t) = .ok (r.replace text t) := by
  cases t with
  | format t => exact read_put_format h ht hs
  | stream i t => exact read_put_stream h ht hs

end

end ProbeReport

/-! ### Metadata -/

namespace Json

/-- What a text holds as a document. -/
def root (text : String) : Value :=
  (ofText text).1

theorem readText_eq_ok_iff {α : Type} {read : Reader α} {text : String} {a : α} :
    readText read text = .ok a ↔ ofText text = (root text, false) ∧ read (root text) = .ok a := by
  have hpair : ofText text = (root text, false) ↔ (ofText text).2 = false :=
    ⟨fun h => congrArg Prod.snd h, fun h => Prod.ext rfl h⟩
  rw [hpair, readText, bind_eq_ok_iff, root]
  cases (ofText text).2 <;> simp [throw, throwThe, MonadExceptOf.throw, pure, Except.pure]

end Json

/-- The text that stands in a report in a place. -/
def reportText? (text : String) (t : ReportText) : Option String :=
  (ProbeReport.value? (Json.root text) t).bind Json.Value.text?

/-- The same with what another text says instead. -/
def FormatMetadata.retold (m : FormatMetadata) (text : String) : FormatText → FormatMetadata
  | .duration => { m with duration := seconds? text }
  | .size => { m with size := count64? text }
  | .bitRate => { m with bitRate := count64? text }

/-- The same with what another text says instead. -/
def StreamMetadata.retold (m : StreamMetadata) (text : String) : StreamText → StreamMetadata
  | .codecType => { m with streamType := StreamType.ofName? text }
  | .frameRate => { m with frameRate := frameRate? text }
  | .sampleRate => { m with sampleRate := count32? text }
  | .bitRate => { m with bitRate := count64? text }
  | .duration => { m with duration := seconds? text }

namespace MediaMetadata

/-- The same with what another text of the report says instead. -/
def retold (m : MediaMetadata) (text : String) : ReportText → MediaMetadata
  | .format t => { m with format := m.format.retold text t }
  | .stream i t => { m with streams := m.streams.modify i fun s => s.retold text t }

theorem ofReport_eq_ok_iff {text : String} {m : MediaMetadata} :
    ofReport text = .ok m ↔ ∃ r, Json.ofText text = (Json.root text, false) ∧
      ProbeReport.read (Json.root text) = .ok r ∧ r.metadata = m := by
  simp only [ofReport, map_eq_ok_iff, Json.readText_eq_ok_iff, and_assoc]

end MediaMetadata

/-- What is said of a stream comes from its texts in the report. -/
theorem exists_reportedStream {text : String} {m : MediaMetadata}
    (hm : MediaMetadata.ofReport text = .ok m) {i : Nat} {s : StreamMetadata}
    (hs : m.streams[i]? = some s) :
    ∃ s₀ : ReportedStream, s = s₀.metadata ∧ ∀ t, reportText? text (.stream i t) = s₀.text? t := by
  obtain ⟨r, -, hr, rfl⟩ := MediaMetadata.ofReport_eq_ok_iff.mp hm
  rw [ProbeReport.metadata, List.getElem?_map, Option.map_eq_some_iff] at hs
  obtain ⟨s₀, hs₀, rfl⟩ := hs
  refine ⟨s₀, rfl, fun t => ?_⟩
  rw [reportText?, ← ProbeReport.text?_of_read hr, ProbeReport.text?, hs₀]
  rfl

theorem exists_reportedFormat {text : String} {m : MediaMetadata}
    (hm : MediaMetadata.ofReport text = .ok m) :
    ∃ f : ReportedFormat, m.format = f.metadata ∧ ∀ t, reportText? text (.format t) = f.text? t := by
  obtain ⟨r, -, hr, rfl⟩ := MediaMetadata.ofReport_eq_ok_iff.mp hm
  exact ⟨r.format, rfl, fun t => (ProbeReport.text?_of_read hr (.format t)).symm⟩

theorem ReportedFormat.metadata_replace (f : ReportedFormat) (text : String) (t : FormatText) :
    (f.replace text t).metadata = f.metadata.retold text t := by
  cases t <;> rfl

theorem ReportedStream.metadata_replace (s : ReportedStream) (text : String) (t : StreamText) :
    (s.replace text t).metadata = s.metadata.retold text t := by
  cases t <;> rfl

theorem ProbeReport.metadata_replace (r : ProbeReport) (text : String) (t : ReportText) :
    (r.replace text t).metadata = r.metadata.retold text t := by
  cases t with
  | format t => simp [replace, metadata, MediaMetadata.retold, ReportedFormat.metadata_replace]
  | stream i t =>
      have hstreams : (r.streams.modify i fun s => s.replace text t).map ReportedStream.metadata =
          (r.streams.map ReportedStream.metadata).modify i fun s => s.retold text t := by
        refine List.ext_getElem? fun j => ?_
        simp only [List.getElem?_map, List.getElem?_modify]
        cases r.streams[j]? with
        | none => rfl
        | some s => by_cases hij : i = j <;> simp [hij, ReportedStream.metadata_replace]
      simp [replace, metadata, MediaMetadata.retold, hstreams]

end MediaPipeline
