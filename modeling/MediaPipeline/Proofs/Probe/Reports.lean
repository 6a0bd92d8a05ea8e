import Mathlib.Logic.Relation
import MediaPipeline.Probe.Report
import MediaPipeline.Proofs.Json.Rearranging
import MediaPipeline.Proofs.Json.Rendering

/-!
Reports laid out in other ways. Probers differ in the order of the members, in the members they add,
in the white space, and in whether they write what is not known. None of this changes what a report
says. A report is taken apart from the inside to the outside: tags, the container, streams, and the
report itself.
-/

namespace MediaPipeline

open Json (Reader Field Record Value Entry ofEntries)

/-! ### Changes of layout -/

/-- One change of the layout of the tags. Of tags with one name the last counts, so that only tags
with different names can be reordered. -/
inductive TagsEdit : Value → Value → Prop
  | reorder {es es' : List Entry} : es.Perm es' → (es.map fun e => e.1.read).Nodup →
    TagsEdit (.object (ofEntries es)) (.object (ofEntries es'))

/-- One change of the layout of what a report says of the container, or of the tags in it. -/
inductive FormatEdit : Value → Value → Prop
  | members {es es' : List Entry} :
    Record.Edit ReportedFormat.record.fields (fun name v v' => name = "tags" ∧ TagsEdit v v')
      es es' →
    FormatEdit (.object (ofEntries es)) (.object (ofEntries es'))

/-- One change of the layout of what a report says of a stream. -/
inductive StreamEdit : Value → Value → Prop
  | members {es es' : List Entry} :
    Record.Edit ReportedStream.record.fields (fun _ _ _ => False) es es' →
    StreamEdit (.object (ofEntries es)) (.object (ofEntries es'))

/-- One change of the layout of one of several streams. -/
inductive StreamsEdit : Value → Value → Prop
  | stream (vs ws : List Value) {v v' : Value} : StreamEdit v v' →
    StreamsEdit (.ofList (vs ++ v :: ws)) (.ofList (vs ++ v' :: ws))

/-- One change of the layout of a report, or of what it says of the container or the streams. -/
inductive ReportEdit : Value → Value → Prop
  | members {es es' : List Entry} :
    Record.Edit ProbeReport.record.fields
      (fun name v v' => name = "format" ∧ FormatEdit v v' ∨ name = "streams" ∧ StreamsEdit v v')
      es es' →
    ReportEdit (.object (ofEntries es)) (.object (ofEntries es'))

/-! ### Tags -/

theorem members_perm {α : Type} {read : Reader α} {es es' : List Entry} {ms : List (String × α)}
    (h : es.Perm es') (hms : Reader.members read (ofEntries es) = .ok ms) :
    ∃ ms', Reader.members read (ofEntries es') = .ok ms' ∧ ms.Perm ms' := by
  obtain ⟨ms', hms', hperm⟩ := List.perm_comp_forall₂ h.symm (Reader.members_ofEntries_iff.mp hms)
  exact ⟨ms', Reader.members_ofEntries_iff.mpr hms', hperm.symm⟩

theorem names_nodup {α : Type} {read : Reader α} {es : List Entry} {ms : List (String × α)}
    (hnodup : (es.map fun e => e.1.read).Nodup)
    (hms : Reader.members read (ofEntries es) = .ok ms) : (ms.map Prod.fst).Nodup := by
  have hnames : es.map (fun e => e.1.read) = (ms.map Prod.fst).map .ok := by
    rw [List.map_map, ← List.forall₂_eq_eq_eq, List.forall₂_map_left_iff,
      List.forall₂_map_right_iff]
    exact (Reader.members_ofEntries_iff.mp hms).imp fun _ _ h => h.1
  rw [hnames] at hnodup
  exact hnodup.of_map

theorem TagsEdit.read {v v' : Value} (h : TagsEdit v v') :
    Alike List.Perm (Reader.map Reader.text v) (Reader.map Reader.text v') := by
  obtain @⟨es, es', hperm, hnodup⟩ := h
  have hmembers : Alike (fun ms ms' => ms.Perm ms' ∧ (ms.map Prod.fst).Nodup)
      (Reader.members Reader.text (ofEntries es)) (Reader.members Reader.text (ofEntries es')) := by
    refine .of_ok (fun ms hms => ?_) fun ms' hms' => ?_
    · obtain ⟨ms', hms', hms_perm⟩ := members_perm hperm hms
      exact ⟨ms', hms', hms_perm, names_nodup hnodup hms⟩
    · obtain ⟨ms, hms, -⟩ := members_perm hperm.symm hms'
      exact ⟨ms, hms⟩
  -- No value is dropped on either side, since no name comes twice.
  refine hmembers.map fun ms ms' ⟨hms, hnames⟩ => ?_
  have hnames' : (ms'.map Prod.fst).Nodup := (hms.map _).nodup_iff.mp hnames
  rw [Reader.lastOfEach_of_nodup hnames, Reader.lastOfEach_of_nodup hnames']
  exact hms

/-! ### The container -/

theorem rel_perm_refl {α : Type} : (o : Option (List α)) → Option.Rel List.Perm o o
  | none => .none
  | some as => .some (.refl as)

/-- Equal up to the order of the tags. -/
def ReportedFormat.Same (f f' : ReportedFormat) : Prop :=
  ∃ tags, Option.Rel List.Perm f.tags tags ∧ f' = { f with tags }

theorem ReportedFormat.regular : Record.Regular ReportedFormat.record.fields :=
  ⟨by decide, by simp [record]⟩

theorem FormatEdit.read {v v' : Value} (h : FormatEdit v v') :
    Alike ReportedFormat.Same (ReportedFormat.read v) (ReportedFormat.read v') := by
  obtain ⟨h⟩ := h
  have htags : ∀ {v v'}, TagsEdit v v' → Alike (Option.Rel List.Perm)
      (Reader.nullable (Reader.map Reader.text) v) (Reader.nullable (Reader.map Reader.text) v') :=
    fun h => by
      have hmap := h.read.map (S := Option.Rel List.Perm) (f := some) (g := some) fun _ _ => .some
      cases h
      exact hmap
  refine (h.read ReportedFormat.regular fun name v v' hinner => ?_).bind fun values values' hk => ?_
  · obtain ⟨rfl, h⟩ := hinner
    exact ⟨_, rfl, Record.checked_iff (htags h)⟩
  · -- Only the tags can change inside, so all other fields are the same.
    have hnull : ∀ {α : Type} (name : String) (read : Reader α),
        Record.absent? ReportedFormat.record.fields name = some .null → name ≠ "tags" →
        values.nullable name read = values'.nullable name read := fun name read habsent hname =>
      hk.nullable (Q := Eq) (fun _ => rfl) habsent fun v v' hinner => absurd hinner.1 hname
    rw [hnull "format_name" _ rfl (by decide), hnull "format_long_name" _ rfl (by decide),
      hnull "duration" _ rfl (by decide), hnull "size" _ rfl (by decide),
      hnull "bit_rate" _ rfl (by decide), hnull "nb_streams" _ rfl (by decide)]
    iterate 6 refine .bind_self fun _ => ?_
    refine (hk.nullable (fun x => Alike.of_eq rel_perm_refl rfl) rfl fun v v' hinner => ?_).bind
      fun tags tags' h => .ok ?_
    · exact htags hinner.2
    · exact ⟨tags', h, rfl⟩

/-! ### Streams -/

theorem ReportedStream.regular : Record.Regular ReportedStream.record.fields :=
  ⟨by decide, by simp [record]⟩

theorem StreamEdit.read {v v' : Value} (h : StreamEdit v v') :
    Alike Eq (ReportedStream.read v) (ReportedStream.read v') := by
  obtain ⟨h⟩ := h
  refine (h.read ReportedStream.regular fun _ _ _ h => h.elim).bind fun values values' hk => ?_
  have hindex : values.required "index" Reader.size = values'.required "index" Reader.size :=
    hk.required (Q := Eq) (fun _ => rfl) rfl fun _ _ h => h.elim
  have hnull : ∀ {α : Type} (name : String) (read : Reader α),
      Record.absent? ReportedStream.record.fields name = some .null →
      values.nullable name read = values'.nullable name read := fun name read habsent =>
    hk.nullable (Q := Eq) (fun _ => rfl) habsent fun _ _ h => h.elim
  rw [hindex, hnull "codec_type" _ rfl, hnull "codec_name" _ rfl, hnull "codec_long_name" _ rfl,
    hnull "width" _ rfl, hnull "height" _ rfl, hnull "r_frame_rate" _ rfl, hnull "pix_fmt" _ rfl,
    hnull "sample_rate" _ rfl, hnull "channels" _ rfl, hnull "channel_layout" _ rfl,
    hnull "bit_rate" _ rfl, hnull "duration" _ rfl]
  exact .of_eq (fun _ => rfl) rfl

theorem StreamsEdit.read {v v' : Value} (h : StreamsEdit v v') :
    Alike Eq (Reader.list ReportedStream.read v) (Reader.list ReportedStream.read v') := by
  obtain ⟨vs, ws, h⟩ := h
  simp only [Json.ofList, Reader.list]
  induction vs with
  | nil =>
      simp only [List.nil_append, List.foldr_cons, Reader.items]
      exact h.read.bind fun a a' haa' => .bind_self fun as => .ok (by rw [haa'])
  | cons u vs ih =>
      simp only [List.cons_append, List.foldr_cons, Reader.items]
      exact .bind_self fun a => ih.bind fun as as' has => .ok (by rw [has])

/-! ### Reports -/

theorem ProbeReport.regular : Record.Regular ProbeReport.record.fields := by
  have hempty := Reader.list_emptyList ReportedStream.read
  have hstreams := Json.Field.lenient_standard "streams" _ hempty
  exact ⟨by decide, by simpa [record] using hstreams⟩

/-- Equal up to the order of the tags. -/
def ProbeReport.Same (r r' : ProbeReport) : Prop :=
  r.format.Same r'.format ∧ r.streams = r'.streams

theorem ReportEdit.read {v v' : Value} (h : ReportEdit v v') :
    Alike ProbeReport.Same (ProbeReport.read v) (ProbeReport.read v') := by
  obtain ⟨h⟩ := h
  refine (h.read ProbeReport.regular fun name v v' hinner => ?_).bind fun values values' hk => ?_
  · obtain ⟨rfl, h⟩ | ⟨rfl, h⟩ := hinner
    · exact ⟨_, rfl, Record.checked_iff h.read⟩
    · exact ⟨_, rfl, Record.checked_iff h.read⟩
  · have hformat : Alike ReportedFormat.Same (values.required "format" ReportedFormat.read)
        (values'.required "format" ReportedFormat.read) := by
      refine hk.required (fun x => Alike.of_eq (fun f => ⟨f.tags, rel_perm_refl f.tags, rfl⟩) rfl)
        rfl fun v v' hinner => ?_
      obtain ⟨-, h⟩ | ⟨hname, -⟩ := hinner
      · exact h.read
      · exact absurd hname (by decide)
    have hstreams : Alike Eq (values.standard "streams" (Reader.list ReportedStream.read) [])
        (values'.standard "streams" (Reader.list ReportedStream.read) []) := by
      refine hk.standard (fun x => Alike.of_eq (fun _ => rfl) rfl) rfl
        (Alike.of_eq (fun _ => rfl) (Reader.list_emptyList _).symm) fun v v' hinner => ?_
      obtain ⟨hname, -⟩ | ⟨-, h⟩ := hinner
      · exact absurd hname (by decide)
      · exact h.read
    exact hformat.bind fun f f' hf => hstreams.bind fun ss ss' hss => .ok ⟨hf, hss⟩

/-! ### Metadata -/

/-- Equal up to the order of the tags. -/
def MediaMetadata.Same (m m' : MediaMetadata) : Prop :=
  ∃ tags, m.format.tags.Perm tags ∧ m' = { m with format := { m.format with tags } }

namespace MediaMetadata.Same

theorem refl (m : MediaMetadata) : m.Same m :=
  ⟨m.format.tags, .refl _, rfl⟩

theorem symm {m m' : MediaMetadata} (h : m.Same m') : m'.Same m := by
  obtain ⟨tags, htags, rfl⟩ := h
  exact ⟨m.format.tags, htags.symm, rfl⟩

theorem trans {m m' m'' : MediaMetadata} (h : m.Same m') (h' : m'.Same m'') : m.Same m'' := by
  obtain ⟨tags, htags, rfl⟩ := h
  obtain ⟨tags', htags', rfl⟩ := h'
  exact ⟨tags', htags.trans htags', rfl⟩

end MediaMetadata.Same

theorem ProbeReport.Same.metadata {r r' : ProbeReport} (h : r.Same r') :
    r.metadata.Same r'.metadata := by
  obtain ⟨format, streams⟩ := r
  obtain ⟨format', streams'⟩ := r'
  obtain ⟨⟨tags, htags, rfl⟩, rfl⟩ := h
  have hgetD : ∀ {o o' : Option (List (String × String))}, Option.Rel List.Perm o o' →
      (o.getD []).Perm (o'.getD []) := fun h => by
    cases h with
    | none => exact .nil
    | some h => exact h
  exact ⟨tags.getD [], hgetD htags, rfl⟩

/-- The names of the tags that are read are distinct. -/
theorem ReportedFormat.nodup_tags {v : Value} {f : ReportedFormat} (h : read v = .ok f) :
    (f.metadata.tags.map Prod.fst).Nodup := by
  simp only [read, bind_eq_ok_iff] at h
  obtain ⟨values, -, _, -, _, -, _, -, _, -, _, -, _, -, tags, htags, hf⟩ := h
  cases hf
  cases tags with
  | none => exact List.nodup_nil
  | some tags =>
      unfold Record.Values.nullable at htags
      split at htags
      · next v hv =>
          unfold Reader.nullable at htags
          split at htags
          · cases htags
          · obtain ⟨ms, hmap, hms⟩ := map_eq_ok_iff.mp htags
            cases hms
            exact Reader.nodup_map hmap
      · cases htags

theorem ProbeReport.nodup_tags {v : Value} {r : ProbeReport} (h : read v = .ok r) :
    (r.metadata.format.tags.map Prod.fst).Nodup := by
  simp only [read, bind_eq_ok_iff] at h
  obtain ⟨values, -, f, hf, streams, -, hr⟩ := h
  cases hr
  unfold Record.Values.required at hf
  split at hf
  · exact ReportedFormat.nodup_tags hf
  · cases hf

theorem ReportEdit.read_metadata {v v' : Value} (h : Relation.EqvGen ReportEdit v v') :
    Alike MediaMetadata.Same (ProbeReport.metadata <$> ProbeReport.read v)
      (ProbeReport.metadata <$> ProbeReport.read v') := by
  induction h with
  | rel v v' h => exact h.read.map fun r r' hr => hr.metadata
  | refl v => exact .of_eq MediaMetadata.Same.refl rfl
  | symm v v' _ ih => exact ih.symm fun _ _ => MediaMetadata.Same.symm
  | trans v v' v'' _ _ ih ih' => exact ih.trans (fun _ _ _ => MediaMetadata.Same.trans) ih'

theorem ofReport_of_document {v : Value} {text : String} (h : Json.Document v text) :
    MediaMetadata.ofReport text = ProbeReport.metadata <$> ProbeReport.read v := by
  rw [MediaMetadata.ofReport, h.readText_eq]

/-- A report says the same in whatever layout. Two texts that spell two trees, with any white space,
where one tree comes from the other by changes of layout, are both read or both refused, and what is
read is the same up to the order of the tags, whose names are distinct. -/
theorem report_layout {v v' : Value} {text text' : String} (hv : Json.Document v text)
    (hv' : Json.Document v' text') (hedits : Relation.EqvGen ReportEdit v v') {m : MediaMetadata}
    (hm : MediaMetadata.ofReport text = .ok m) :
    ∃ m', MediaMetadata.ofReport text' = .ok m' ∧ m.Same m' ∧
      ∀ name, m.format.tags.lookup name = m'.format.tags.lookup name := by
  rw [ofReport_of_document hv] at hm
  rw [ofReport_of_document hv']
  obtain ⟨m', hm', hsame⟩ := (ReportEdit.read_metadata hedits).exists_ok hm
  refine ⟨m', hm', hsame, ?_⟩
  obtain ⟨r, hr, rfl⟩ := map_eq_ok_iff.mp hm
  obtain ⟨tags, htags, rfl⟩ := hsame
  exact Json.lookup_eq_of_perm htags (ProbeReport.nodup_tags hr)

/-- The tags of a clip. -/
def clipTags : List Entry :=
  [(.ofString "title", .ofString "a"), (.ofString "date", .ofString "2024")]

/-- A report of the clip. -/
def clipReport : Value :=
  .object (ofEntries [
    (.ofString "format", .object (ofEntries [(.ofString "tags", .object (ofEntries clipTags))])),
    (.ofString "streams", Json.emptyList)])

/-- The report of another prober, which says nothing of streams and more of what is not asked. -/
def otherReport : Value :=
  .object (ofEntries [
    (.ofString "programs", .ofList [.null]),
    (.ofString "format", .object (ofEntries [
      (.ofString "size", .null), (.ofString "tags", .object (ofEntries clipTags.reverse))]))])

theorem clipReport_edits : Relation.EqvGen ReportEdit clipReport otherReport := by
  have hread : ∀ name, (Json.Spelling.ofString name).read = .ok name := Json.Spelling.read_ofString
  let format : Entry := (.ofString "format",
    .object (ofEntries [(.ofString "tags", .object (ofEntries clipTags))]))
  have hstreams := ReportEdit.members
    (.writeOut [format] [] (hread "streams") rfl (by simp [format]))
  have hprograms := ReportEdit.members (.insert [] [format] (hread "programs") rfl
    (.list (.item .null .endList)))
  have hsize := FormatEdit.members (.writeOut [] [(.ofString "tags", .object (ofEntries clipTags))]
    (hread "size") rfl (by simp))
  have htags := FormatEdit.members (.inside [(.ofString "size", .null)] [] (hread "tags")
    ⟨rfl, .reorder (List.reverse_perm clipTags).symm (by decide)⟩)
  have hformat : ∀ {v v'}, FormatEdit v v' → Relation.EqvGen ReportEdit
      (.object (ofEntries [(.ofString "programs", .ofList [.null]), (.ofString "format", v)]))
      (.object (ofEntries [(.ofString "programs", .ofList [.null]), (.ofString "format", v')])) :=
    fun h => .rel _ _ (.members (.inside [(.ofString "programs", .ofList [.null])] []
      (hread "format") (.inl ⟨rfl, h⟩)))
  exact ((Relation.EqvGen.rel _ _ hstreams).symm.trans _ _ _ (.rel _ _ hprograms)).trans _ _ _
    ((hformat hsize).trans _ _ _ (hformat htags))

def clipText : String :=
  "\x7b\"format\":\x7b\"tags\":\x7b\"title\":\"a\",\"date\":\"2024\"\x7d\x7d,\"streams\":[]\x7d"

def otherText : String :=
  " \x7b\"programs\":[null],\"format\":\x7b\"size\":null," ++
    "\"tags\":\x7b\"date\":\"2024\",\"title\":\"a\"\x7d\x7d\x7d\n"

theorem document_clipText : Json.Document clipReport clipText := by
  have hwritten : clipReport.Written :=
    .object (.member "format" (.object (.member "tags" (.object (.member "title" (.text "a")
      (.member "date" (.text "2024") .endObject))) .endObject))
      (.member "streams" (.list .endList) .endObject))
  exact ⟨_, [], hwritten.rendered, nofun, by decide +kernel⟩

theorem document_otherText : Json.Document otherReport otherText := by
  have hwritten : otherReport.Written :=
    .object (.member "programs" (.list (.item .null .endList)) (.member "format" (.object
      (.member "size" .null (.member "tags" (.object (.member "date" (.text "2024")
      (.member "title" (.text "a") .endObject))) .endObject))) .endObject))
  have hblank : Json.Blank ['\n'] := by simp [Json.Blank, Json.isBlank]
  exact ⟨_, ['\n'], .blank (.inl rfl) hwritten.rendered, hblank, by decide +kernel⟩

theorem read_clipReport : ProbeReport.metadata <$> ProbeReport.read clipReport = .ok
    ⟨⟨none, none, none, none, none, 0, [("title", "a"), ("date", "2024")]⟩, []⟩ := by
  have htags : Reader.map Reader.text (.object (ofEntries clipTags)) =
      .ok [("title", "a"), ("date", "2024")] :=
    @Reader.map_ofMembers String Reader.text Json.ofString [("title", "a"), ("date", "2024")]
      (by decide) fun tag _ => Reader.text_ofString tag.2
  simp [ProbeReport.read, ProbeReport.record, ReportedFormat.read, ReportedFormat.record,
    Record.read, Record.readMembers, Record.Values.required, Record.Values.standard,
    Record.Values.nullable, Field.required, Field.standard, Field.nullable, Field.checked,
    Json.orMalformed, Json.orFault, Json.ObjectEnd.fault?, List.lookup_cons, Reader.nullable,
    Reader.list_emptyList, clipReport, htags, bind, Except.bind, pure, Except.pure, Functor.map,
    Except.map]
  rfl

theorem report_layout_clipReport :
    ∃ m m', MediaMetadata.ofReport clipText = .ok m ∧ MediaMetadata.ofReport otherText = .ok m' ∧
      m.Same m' ∧ m'.format.tags.lookup "date" = some "2024" := by
  have hm := (ofReport_of_document document_clipText).trans read_clipReport
  obtain ⟨m', hm', hsame, htags⟩ :=
    report_layout document_clipText document_otherText clipReport_edits hm
  exact ⟨_, m', hm, hm', hsame, (htags "date").symm.trans rfl⟩

end MediaPipeline
