import MediaPipeline.Proofs.Json.Acceptance
import MediaPipeline.Proofs.Probe.Texts

/-!
Reports in which a text is replaced. A text that is read as a report is a document, and so there are
documents with any other text in the place of one that stands there. All of them are read, and they
say the same but for what the new text says.
-/

namespace MediaPipeline

open Json (Document Reader Record Spelling Value)

/-! ### Reports are documents -/

@[simp] theorem ReportedFormat.whole_read : Reader.Whole read :=
  (Record.whole_read (by simp [record])).bind _

@[simp] theorem ReportedStream.whole_read : Reader.Whole read :=
  (Record.whole_read (by simp [record])).bind _

theorem ProbeReport.whole_read : Reader.Whole read :=
  (Record.whole_read (by simp [record])).bind _

/-- A text that is read as a report is a document. -/
theorem MediaMetadata.document_of_ofReport {text : String} {m : MediaMetadata}
    (hm : ofReport text = .ok m) : Document (Json.root text) text := by
  obtain ⟨r, htext, hr, -⟩ := ofReport_eq_ok_iff.mp hm
  exact Json.document_of_ofText htext (ProbeReport.whole_read _ r hr)

/-! ### Other texts in their places -/

theorem ProbeReport.derivable_put {w v : Value} (hw : w.Derivable) (hv : v.Derivable)
    (t : ReportText) : (put w v t).Derivable := by
  cases t with
  | format t =>
      exact Json.Record.derivable_modify
        (Json.Record.derivable_modify (fun _ _ => hw) _ _) _ _ v hv
  | stream i t =>
      exact Json.Record.derivable_modify
        (Json.derivable_modifyItem (Json.Record.derivable_modify (fun _ _ => hw) _ _) i) _ _ v hv

/-- Any text can stand in a report in the place of another one. -/
theorem exists_document_put {text : String} {m : MediaMetadata}
    (hm : MediaMetadata.ofReport text = .ok m) (t : ReportText) (new : String) :
    ∃ text', Document (ProbeReport.put (Json.ofString new) (Json.root text) t) text' :=
  (ProbeReport.derivable_put (.ofString new) (MediaMetadata.document_of_ofReport hm).derivable
    t).exists_document

/-- A report in which one text is replaced is still read, and says the same but for what it says
there. -/
theorem metadata_read_put {text : String} {m : MediaMetadata}
    (hm : MediaMetadata.ofReport text = .ok m) {t : ReportText} (ht : (reportText? text t).isSome)
    {s : Spelling} {new : String} (hs : s.read = .ok new) :
    ProbeReport.metadata <$> ProbeReport.read (ProbeReport.put (.text s) (Json.root text) t) =
      .ok (m.retold new t) := by
  obtain ⟨r, -, hr, rfl⟩ := MediaMetadata.ofReport_eq_ok_iff.mp hm
  rw [reportText?, ← ProbeReport.text?_of_read hr] at ht
  exact map_eq_ok_iff.mpr ⟨_, ProbeReport.read_put hr ht hs, r.metadata_replace new t⟩

/-- So is every text of such a report. -/
theorem ofReport_put {text text' : String} {m : MediaMetadata}
    (hm : MediaMetadata.ofReport text = .ok m) {t : ReportText} (ht : (reportText? text t).isSome)
    {s : Spelling} {new : String} (hs : s.read = .ok new)
    (htext' : Document (ProbeReport.put (.text s) (Json.root text) t) text') :
    MediaMetadata.ofReport text' = .ok (m.retold new t) := by
  obtain ⟨r, hr, hput⟩ := map_eq_ok_iff.mp (metadata_read_put hm ht hs)
  rw [MediaMetadata.ofReport, htext'.readText_eq, hr]
  exact congrArg Except.ok hput

end MediaPipeline
