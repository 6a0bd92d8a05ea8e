import MediaPipeline.Probe.Document
import MediaPipeline.Proofs.Json.Reading

/-!
Media metadata and the documents they are kept in. Each field is read back from what is written for
it, and so are the records. Floating-point numbers are the exception that has to be asked for: their
numerals have to denote them.
-/

namespace MediaPipeline

open Json (Reader Field Record)

/-! ### Fields -/

namespace Json

/-- A floating-point number is finite, and its numeral is one and denotes it. -/
structure Kept (x : Float) : Prop where
  isNaN : x.isNaN = false
  isInf : x.isInf = false
  isNumeral : isNumeral (Decimal.text Decimal.document x).toList = true
  ofText : Number.toFloat <$> Number.ofText (Decimal.text Decimal.document x).toList = .ok x

instance (x : Float) : Decidable (Kept x) :=
  decidable_of_iff (x.isNaN = false ∧ x.isInf = false ∧
      isNumeral (Decimal.text Decimal.document x).toList = true ∧
      Number.toFloat <$> Number.ofText (Decimal.text Decimal.document x).toList = .ok x)
    ⟨fun ⟨hnan, hinf, hnumeral, htext⟩ => ⟨hnan, hinf, hnumeral, htext⟩,
      fun h => ⟨h.isNaN, h.isInf, h.isNumeral, h.ofText⟩⟩

theorem Kept.ofFloat {x : Float} (h : Kept x) :
    Json.ofFloat x = .number (Decimal.text Decimal.document x).toList := by
  rw [Json.ofFloat, h.isNaN, h.isInf]
  rfl

theorem Kept.written {x : Float} (h : Kept x) : (Json.ofFloat x).Written := by
  rw [h.ofFloat]
  exact .number h.isNumeral

theorem Kept.read {x : Float} (h : Kept x) : Reader.float (Json.ofFloat x) = .ok x := by
  obtain ⟨n, hnumber, hx⟩ := map_eq_ok_iff.mp h.ofText
  rw [h.ofFloat, Reader.float, hnumber]
  exact congrArg Except.ok hx

theorem Written.ofOption {α : Type} {write : α → Value} {o : Option α}
    (h : ∀ a ∈ o, (write a).Written) : (Json.ofOption write o).Written := by
  cases o with
  | none => exact .null
  | some a => exact h a rfl

namespace Reader

/-- What may be absent is read back if what is there is, and is not written as null. -/
theorem nullable_ofOption {α : Type} {read : Reader α} {write : α → Value} {o : Option α}
    (hnull : ∀ a ∈ o, write a ≠ .null) (h : ∀ a ∈ o, read (write a) = .ok a) :
    nullable read (Json.ofOption write o) = .ok o := by
  cases o with
  | none => rfl
  | some a =>
      rw [Json.ofOption, nullable]
      · rw [h a rfl]
        rfl
      · exact hnull a rfl

@[simp] theorem nullable_ofString (o : Option String) :
    nullable text (Json.ofOption Json.ofString o) = .ok o :=
  nullable_ofOption (fun _ _ => nofun) fun s _ => text_ofString s

@[simp] theorem nullable_ofNat32 (o : Option UInt32) :
    nullable unsigned32 (Json.ofOption (fun n => Json.ofNat n.toNat) o) = .ok o :=
  nullable_ofOption (fun _ _ => nofun) fun n _ => unsigned32_ofNat n

@[simp] theorem nullable_ofNat64 (o : Option UInt64) :
    nullable unsigned64 (Json.ofOption (fun n => Json.ofNat n.toNat) o) = .ok o :=
  nullable_ofOption (fun _ _ => nofun) fun n _ => unsigned64_ofNat n

theorem nullable_ofFloat {o : Option Float} (h : ∀ x ∈ o, Kept x) :
    nullable float (Json.ofOption Json.ofFloat o) = .ok o := by
  refine nullable_ofOption (fun x hx => ?_) fun x hx => (h x hx).read
  rw [(h x hx).ofFloat]
  nofun

end Reader

end Json

theorem StreamType.read_name (t : StreamType) : StreamType.read (.ofString t.name) = .ok t := by
  rw [StreamType.read, Json.ofString, Reader.variant, Json.Spelling.read_ofString]
  cases t <;> rfl

@[simp] theorem StreamType.nullable_ofName (o : Option StreamType) :
    Reader.nullable StreamType.read (Json.ofOption (fun t => .ofString t.name) o) = .ok o :=
  Reader.nullable_ofOption (fun _ _ => nofun) fun t _ => t.read_name

/-! ### Records -/

namespace FormatMetadata

theorem written_toJson {f : FormatMetadata} (h : ∀ x ∈ f.duration, Json.Kept x) :
    f.toJson.Written := by
  have hduration : (Json.ofOption .ofFloat f.duration).Written :=
    .ofOption fun x hx => (h x hx).written
  have htags : (Json.ofMembers (f.tags.map fun tag => (tag.1, .ofString tag.2))).Written :=
    .ofMembers (List.forall_mem_map.mpr fun tag _ => .ofString tag.2)
  refine .ofMembers ?_
  simp [hduration, htags, Json.Written.ofOption]

theorem read_toJson {f : FormatMetadata} (hduration : ∀ x ∈ f.duration, Json.Kept x)
    (htags : (f.tags.map Prod.fst).Nodup) : read f.toJson = .ok f := by
  have hduration := Reader.nullable_ofFloat hduration
  have htags : Reader.map Reader.text
      (.ofMembers (f.tags.map fun tag => (tag.1, .ofString tag.2))) = .ok f.tags :=
    Reader.map_ofMembers htags fun tag _ => Reader.text_ofString tag.2
  rw [read, toJson]
  refine bind_eq_ok_iff.mpr ⟨_, Record.read_ofMembers (by decide) ?_, ?_⟩
  · simp [record, Field.nullable, Field.required, Field.checked, hduration, htags]
  · simp [Record.Values.nullable, Record.Values.required, List.lookup_cons, hduration, htags]
    rfl

end FormatMetadata

namespace StreamMetadata

theorem written_toJson {s : StreamMetadata} (hrate : ∀ x ∈ s.frameRate, Json.Kept x)
    (hduration : ∀ x ∈ s.duration, Json.Kept x) : s.toJson.Written := by
  have hrate : (Json.ofOption .ofFloat s.frameRate).Written :=
    .ofOption fun x hx => (hrate x hx).written
  have hduration : (Json.ofOption .ofFloat s.duration).Written :=
    .ofOption fun x hx => (hduration x hx).written
  refine .ofMembers ?_
  simp [hrate, hduration, Json.Written.ofOption]

theorem read_toJson {s : StreamMetadata} (hrate : ∀ x ∈ s.frameRate, Json.Kept x)
    (hduration : ∀ x ∈ s.duration, Json.Kept x) : read s.toJson = .ok s := by
  have hrate := Reader.nullable_ofFloat hrate
  have hduration := Reader.nullable_ofFloat hduration
  rw [read, toJson]
  refine bind_eq_ok_iff.mpr ⟨_, Record.read_ofMembers (by decide) ?_, ?_⟩
  · simp [record, Field.nullable, Field.required, Field.checked, hrate, hduration]
  · simp [Record.Values.nullable, Record.Values.required, List.lookup_cons, hrate, hduration]
    rfl

end StreamMetadata

/-! ### Metadata -/

namespace MediaMetadata

/-- The floating-point numbers that are there. -/
def floats (m : MediaMetadata) : List Float :=
  m.format.duration.toList ++ m.streams.flatMap fun s => s.frameRate.toList ++ s.duration.toList

end MediaMetadata

/-- Media metadata are read back from their text, whatever texts and integers they hold, if the tags
have different names and each floating-point number is kept by its numeral. -/
theorem metadata_survives {m : MediaMetadata} (htags : (m.format.tags.map Prod.fst).Nodup)
    (hfloats : ∀ x ∈ m.floats, Json.Kept x) : MediaMetadata.ofText m.toText = .ok m := by
  have hformat : ∀ x ∈ m.format.duration, Json.Kept x := fun x hx =>
    hfloats x (List.mem_append_left _ (Option.mem_toList.mpr hx))
  have hrate : ∀ s ∈ m.streams, ∀ x ∈ s.frameRate, Json.Kept x := fun s hs x hx =>
    hfloats x (List.mem_append_right _ (List.mem_flatMap.mpr
      ⟨s, hs, List.mem_append_left _ (Option.mem_toList.mpr hx)⟩))
  have hduration : ∀ s ∈ m.streams, ∀ x ∈ s.duration, Json.Kept x := fun s hs x hx =>
    hfloats x (List.mem_append_right _ (List.mem_flatMap.mpr
      ⟨s, hs, List.mem_append_right _ (Option.mem_toList.mpr hx)⟩))
  have hwritten : m.toJson.Written := by
    have hstreams : (Json.ofList (m.streams.map StreamMetadata.toJson)).Written :=
      .ofList (List.forall_mem_map.mpr fun s hs =>
        StreamMetadata.written_toJson (hrate s hs) (hduration s hs))
    refine .ofMembers ?_
    simp [hstreams, FormatMetadata.written_toJson hformat]
  have hread : MediaMetadata.read m.toJson = .ok m := by
    have hformat := FormatMetadata.read_toJson hformat htags
    have hstreams : Reader.list StreamMetadata.read
        (.ofList (m.streams.map StreamMetadata.toJson)) = .ok m.streams :=
      Reader.list_ofList _ fun s hs => StreamMetadata.read_toJson (hrate s hs) (hduration s hs)
    rw [MediaMetadata.read, MediaMetadata.toJson]
    refine bind_eq_ok_iff.mpr ⟨_, Record.read_ofMembers (by decide) ?_, ?_⟩
    · simp [MediaMetadata.record, Field.required, Field.checked, hformat, hstreams]
    · simp [Record.Values.required, List.lookup_cons, hformat, hstreams]
      rfl
  rw [MediaMetadata.ofText, MediaMetadata.toText, Json.readText_toText _ hwritten, hread]

/-- Metadata with the greatest integers, fractions, escaped characters, and fields left out. -/
def clipMetadata : MediaMetadata where
  format := ⟨some "mov,mp4", none, some 5.033, some 0xFFFFFFFFFFFFFFFF, none, 2,
    [("title", "a \"b\"\n\x01é"), ("", "")]⟩
  streams := [
    ⟨0, some .video, some "h264", none, some 0xFFFFFFFF, some 0, some (30000 / 1001), none, none,
      none, none, none, some 5e-7⟩,
    ⟨1, none, none, none, none, none, none, none, none, none, none, none, none⟩]

theorem metadata_survives_clipMetadata :
    MediaMetadata.ofText clipMetadata.toText = .ok clipMetadata :=
  metadata_survives (by decide) (by decide +kernel)

end MediaPipeline
