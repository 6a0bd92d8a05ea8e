import Mathlib.Data.List.Perm.Basic
import MediaPipeline.Proofs.Json.Reading

/-!
Records whose members are laid out in another way: in another order, with members that belong to no
field, or with fields written out that could be left out. A record reads the same from both. A value
may also be laid out in another way inside, which is left to what reads the value.
-/

namespace MediaPipeline.Json

/-- What is undamaged can be stepped over. -/
theorem Sound.skip {part : Part} {v : Json part} (h : v.Sound) : v.skip = .ok () := by
  have htext : ∀ {s : Spelling}, s.ending = .quote → s.skip = .ok () := fun h => by
    rw [Spelling.skip, h]
    rfl
  induction h with
  | null | boolean _ | number _ => rfl
  | text h => exact htext h
  | list _ ih => exact ih
  | object _ ih => exact ih
  | endList | endObject => rfl
  | item _ _ ihv ihrest => exact check_bind_eq_ok_iff.mpr ⟨ihv, ihrest⟩
  | member hkey _ _ ihv ihrest =>
      exact check_bind_eq_ok_iff.mpr ⟨htext hkey, check_bind_eq_ok_iff.mpr ⟨ihv, ihrest⟩⟩

/-- The empty list. -/
def emptyList : Value :=
  .list (.endList .closed)

theorem Reader.list_emptyList {α : Type} (read : Reader α) : list read emptyList = .ok [] := by
  simp [list, emptyList, items, orFault, ListEnd.fault?, orMalformed]

/-- What can be written out for a field that is left out. -/
def Absence.value? : Absence → Option Value
  | refused => none
  | null => some .null
  | standard => some emptyList

namespace Field

/-- What can be written out for a field passes its check. -/
def Lenient (f : Field) : Prop :=
  ∀ v ∈ f.absence.value?, f.check v = .ok ()

variable {α : Type} (name : String) (read : Reader α)

@[simp] theorem lenient_required : (required name read).Lenient := by
  rintro v ⟨⟩

@[simp] theorem lenient_nullable : (nullable name read).Lenient := by
  rintro v ⟨⟩
  rfl

theorem lenient_standard {a : α} (h : read emptyList = .ok a) :
    (standard name read).Lenient := by
  rintro v ⟨⟩
  exact congrArg ((fun _ => ()) <$> ·) h

end Field

/-- Under different names the order does not count. -/
theorem lookup_eq_of_perm {α : Type} {ms ms' : List (String × α)} (h : ms.Perm ms')
    (hnodup : (ms.map Prod.fst).Nodup) (name : String) : ms.lookup name = ms'.lookup name := by
  induction h with
  | nil => rfl
  | cons m _ ih =>
      obtain ⟨-, hnodup⟩ := List.nodup_cons.mp hnodup
      rw [List.lookup_cons, List.lookup_cons, ih hnodup]
  | swap m n ms =>
      obtain ⟨a, v⟩ := m
      obtain ⟨b, w⟩ := n
      have hne : b ≠ a := fun h => (List.nodup_cons.mp hnodup).1 (List.mem_cons.mpr (.inl h))
      by_cases hb : name = b
      · simp [List.lookup_cons, hb, beq_eq_false_iff_ne.mpr hne]
      · simp [List.lookup_cons, beq_eq_false_iff_ne.mpr hb]
  | trans h _ ih ih' =>
      rw [ih hnodup, ih' ((h.map Prod.fst).nodup_iff.mp hnodup)]

namespace Record

/-- What can be written out for the field with a name. -/
def absent? (fields : List Field) (name : String) : Option Value :=
  (field? fields name).bind fun f => f.absence.value?

/-- Fields have different names, and can be written out where they can be left out. -/
structure Regular (fields : List Field) : Prop where
  nodup : (fields.map Field.name).Nodup
  lenient : ∀ f ∈ fields, f.Lenient

/-- One change of the members of an object from which the fields of a record are read. The value of
a field may change as `inner` says. -/
inductive Edit (fields : List Field) (inner : String → Value → Value → Prop) :
    List Entry → List Entry → Prop
  | reorder {es es' : List Entry} : es.Perm es' → Edit fields inner es es'
  | insert (es es' : List Entry) {key : Spelling} {name : String} {v : Value} :
    key.read = .ok name → field? fields name = none → v.Sound →
    Edit fields inner (es ++ es') (es ++ (key, v) :: es')
  | writeOut (es es' : List Entry) {key : Spelling} {name : String} {v : Value} :
    key.read = .ok name → absent? fields name = some v → (∀ e ∈ es ++ es', e.1.read ≠ .ok name) →
    Edit fields inner (es ++ es') (es ++ (key, v) :: es')
  | inside (es es' : List Entry) {key : Spelling} {name : String} {v v' : Value} :
    key.read = .ok name → inner name v v' →
    Edit fields inner (es ++ (key, v) :: es') (es ++ (key, v') :: es')

/-- What is found under a name before and after a change. -/
inductive Similar (absent : Option Value) (inner : Value → Value → Prop) :
    Option Value → Option Value → Prop
  | same (found : Option Value) : Similar absent inner found found
  | writtenOut {v : Value} : absent = some v → Similar absent inner none (some v)
  | inside {v v' : Value} : inner v v' → Similar absent inner (some v) (some v')

/-- The values taken before and after a change. -/
def Kindred (fields : List Field) (inner : String → Value → Value → Prop)
    (values values' : Values) : Prop :=
  ∀ name, Similar (absent? fields name) (inner name) (values.lookup name) (values'.lookup name)

/-! ### Members before and after a change -/

section

variable {fields : List Field} {inner : String → Value → Value → Prop} {es es' : List Entry}
  {e : Entry} {key : Spelling} {name : String} {v v' : Value}

theorem taken_perm (h : es.Perm es') : (taken fields es).Perm (taken fields es') :=
  h.filterMap _

theorem Fits.perm {seen : List String} (hfits : Fits fields seen es) (h : es.Perm es') :
    Fits fields seen es' := by
  have htaken : ((taken fields es).map Prod.fst).Perm ((taken fields es').map Prod.fst) :=
    (taken_perm h).map _
  refine ⟨fun e he => hfits.passes e (h.mem_iff.mpr he), htaken.nodup_iff.mp hfits.nodup,
    fun name hname => hfits.unseen name (htaken.mem_iff.mpr hname), fun f hf habsence => ?_⟩
  rw [← htaken.mem_iff]
  exact hfits.present f hf habsence

/-- A record fits both or none, and takes what is alike from both. -/
structure Matches (fields : List Field) (inner : String → Value → Value → Prop)
    (es es' : List Entry) : Prop where
  fits_iff : Fits fields [] es ↔ Fits fields [] es'
  kindred : Fits fields [] es → Kindred fields inner (taken fields es) (taken fields es')

theorem Matches.of_perm (h : es.Perm es') : Matches fields inner es es' := by
  refine ⟨⟨fun hfits => hfits.perm h, fun hfits => hfits.perm h.symm⟩, fun hfits name => ?_⟩
  rw [lookup_eq_of_perm (taken_perm h) hfits.nodup]
  exact .same _

/-- A change of members can be looked at in any order of the members. -/
theorem Matches.perm {fs fs' : List Entry} (h : Matches fields inner es es') (hes : fs.Perm es)
    (hes' : fs'.Perm es') : Matches fields inner fs fs' := by
  have hfits : ∀ {es fs : List Entry}, fs.Perm es → (Fits fields [] fs ↔ Fits fields [] es) :=
    fun h => ⟨fun hfits => hfits.perm h, fun hfits => hfits.perm h.symm⟩
  refine ⟨(hfits hes).trans (h.fits_iff.trans (hfits hes').symm), fun hfs name => ?_⟩
  have hes_fits := (hfits hes).mp hfs
  have hfs' := (hfits hes').mpr (h.fits_iff.mp hes_fits)
  rw [lookup_eq_of_perm (taken_perm hes) hfs.nodup, lookup_eq_of_perm (taken_perm hes') hfs'.nodup]
  exact h.kindred hes_fits name

theorem matches_insert (hname : e.1.read = .ok name) (hfield : field? fields name = none)
    (he : e.2.Sound) (es : List Entry) : Matches fields inner es (e :: es) := by
  refine ⟨?_, fun _ name => ?_⟩
  · rw [fits_cons_of_unknown hname hfield, and_iff_right he.skip]
  · rw [taken_cons_of_unknown hname hfield]
    exact .same _

/-- What is taken under a name comes from a member with this name. -/
theorem exists_of_mem_taken (h : name ∈ (taken fields es).map Prod.fst) :
    ∃ e ∈ es, e.1.read = .ok name := by
  obtain ⟨m, hm, rfl⟩ := List.mem_map.mp h
  obtain ⟨e, he, htaken⟩ := List.mem_filterMap.mp hm
  refine ⟨e, he, ?_⟩
  unfold taken? at htaken
  split at htaken
  · cases htaken
  · next other hread =>
      obtain ⟨-, heq⟩ := Option.ite_none_right_eq_some.mp htaken
      cases heq
      exact hread

theorem matches_writeOut (hfields : Regular fields) (hname : e.1.read = .ok name)
    (habsent : absent? fields name = some e.2) (hes : ∀ e ∈ es, e.1.read ≠ .ok name) :
    Matches fields inner es (e :: es) := by
  obtain ⟨f, hf, hvalue⟩ := Option.bind_eq_some_iff.mp habsent
  have hfname : f.name = name := by simpa using List.find?_some hf
  have hmem : f ∈ fields := List.mem_of_find?_eq_some hf
  have hfresh : name ∉ (taken fields es).map Prod.fst := fun h =>
    let ⟨e, he, hread⟩ := exists_of_mem_taken h
    hes e he hread
  have hfits : Fits fields [name] es ↔ Fits fields [] es := by
    constructor
    · rintro ⟨hpasses, hnodup, -, hpresent⟩
      refine ⟨hpasses, hnodup, by simp, fun g hg hrefused => ?_⟩
      refine .inr ((hpresent g hg hrefused).resolve_left fun h => ?_)
      -- A field that can be written out is not the one that would be missed.
      have hgf : field? fields name = some g :=
        List.mem_singleton.mp h ▸ field?_of_mem hfields.nodup hg
      rw [hf] at hgf
      cases hgf
      rw [hrefused] at hvalue
      cases hvalue
    · rintro ⟨hpasses, hnodup, -, hpresent⟩
      refine ⟨hpasses, hnodup, fun other hother => ?_, fun g hg hrefused =>
        .inr ((hpresent g hg hrefused).resolve_left (by simp))⟩
      rw [List.mem_singleton]
      exact fun h => hfresh (h ▸ hother)
  refine ⟨?_, fun _ other => ?_⟩
  · rw [fits_cons_of_field hname hf, hfits, and_iff_right (hfields.lenient f hmem _ hvalue)]
    simp
  · rw [taken_cons_of_field hname hf, List.lookup_cons]
    by_cases hother : other = name
    · subst hother
      have hnone : (taken fields es).lookup other = none := by
        rw [List.lookup_eq_none_iff]
        exact fun m hm => bne_iff_ne.mpr fun h => hfresh (h ▸ List.mem_map_of_mem hm)
      simpa [hnone] using .writtenOut habsent
    · rw [beq_eq_false_iff_ne.mpr hother]
      exact .same _

theorem matches_inside {f : Field} (hname : key.read = .ok name) (hf : field? fields name = some f)
    (hcheck : f.check v = .ok () ↔ f.check v' = .ok ()) (hinner : inner name v v')
    (es : List Entry) : Matches fields inner ((key, v) :: es) ((key, v') :: es) := by
  refine ⟨?_, fun _ other => ?_⟩
  · rw [fits_cons_of_field hname hf, fits_cons_of_field hname hf, hcheck]
  · rw [taken_cons_of_field hname hf, taken_cons_of_field hname hf, List.lookup_cons,
      List.lookup_cons]
    by_cases hother : other = name
    · subst hother
      simpa using .inside hinner
    · rw [beq_eq_false_iff_ne.mpr hother]
      exact .same _

theorem Edit.matches (hfields : Regular fields)
    (hinner : ∀ name v v', inner name v v' → ∃ f, field? fields name = some f ∧
      (f.check v = .ok () ↔ f.check v' = .ok ()))
    (h : Edit fields inner es es') : Matches fields inner es es' := by
  cases h with
  | reorder h => exact .of_perm h
  | insert es es' hname hfield hv =>
      exact (matches_insert hname hfield hv _).perm (.refl _) List.perm_middle
  | writeOut es es' hname habsent hes =>
      exact (matches_writeOut hfields hname habsent hes).perm (.refl _) List.perm_middle
  | inside es es' hname hv =>
      obtain ⟨f, hf, hcheck⟩ := hinner _ _ _ hv
      exact (matches_inside hname hf hcheck hv _).perm List.perm_middle List.perm_middle

/-- A record is read from an object after a change if and only if it was before. -/
theorem Edit.read {r : Record} (hfields : Regular r.fields)
    (hinner : ∀ name v v', inner name v v' → ∃ f, field? r.fields name = some f ∧
      (f.check v = .ok () ↔ f.check v' = .ok ()))
    (h : Edit r.fields inner es es') :
    Alike (Kindred r.fields inner) (r.read (.object (ofEntries es)))
      (r.read (.object (ofEntries es'))) := by
  obtain ⟨hiff, hkindred⟩ := h.matches hfields hinner
  refine .of_ok (fun values hvalues => ?_) fun values' hvalues' => ?_
  · obtain ⟨hfits, rfl⟩ := readMembers_ofEntries_iff.mp hvalues
    exact ⟨_, readMembers_ofEntries_iff.mpr ⟨hiff.mp hfits, rfl⟩, hkindred hfits⟩
  · obtain ⟨hfits, -⟩ := readMembers_ofEntries_iff.mp hvalues'
    exact ⟨_, readMembers_ofEntries_iff.mpr ⟨hiff.mpr hfits, rfl⟩⟩

end

/-! ### Values before and after a change -/

variable {fields : List Field} {inner : String → Value → Value → Prop} {values values' : Values}
  {name : String}

/-- What is made of a value that is found is related before and after a change if it is for what can
be written out and for a change inside. -/
theorem Similar.lift {β : Type} {absent : Option Value} {R : Value → Value → Prop}
    {found found' : Option Value} (h : Similar absent R found found') {Q : β → β → Prop}
    {g : Option Value → β} (hrefl : ∀ b, Q b b) (habsent : ∀ v ∈ absent, Q (g none) (g (some v)))
    (hR : ∀ v v', R v v' → Q (g (some v)) (g (some v'))) : Q (g found) (g found') := by
  cases h with
  | same _ => exact hrefl _
  | writtenOut hv => exact habsent _ hv
  | inside hv => exact hR _ _ hv

theorem Values.required_eq {α : Type} (values : Values) (name : String) (read : Reader α) :
    values.required name read =
      (values.lookup name).elim (.error (.missingField name)) read := by
  unfold Values.required
  cases values.lookup name <;> rfl

theorem Values.standard_eq {α : Type} (values : Values) (name : String) (read : Reader α)
    (absent : α) :
    values.standard name read absent = (values.lookup name).elim (.ok absent) read := by
  unfold Values.standard
  cases values.lookup name <;> rfl

theorem Values.nullable_eq {α : Type} (values : Values) (name : String) (read : Reader α) :
    values.nullable name read = (values.lookup name).elim (.ok none) read.nullable := by
  unfold Values.nullable
  cases values.lookup name <;> rfl

section

variable {α : Type} {read : Reader α} {Q : Except ReadError α → Except ReadError α → Prop}

theorem Kindred.required (h : Kindred fields inner values values') (hrefl : ∀ x, Q x x)
    (habsent : absent? fields name = none)
    (hinner : ∀ v v', inner name v v' → Q (read v) (read v')) :
    Q (values.required name read) (values'.required name read) := by
  rw [Values.required_eq, Values.required_eq]
  refine (h name).lift (g := (·.elim (.error (.missingField name)) read)) hrefl (fun v hv => ?_)
    hinner
  rw [habsent] at hv
  cases hv

theorem Kindred.standard {absent : α} (h : Kindred fields inner values values')
    (hrefl : ∀ x, Q x x) (habsent : absent? fields name = some emptyList)
    (hempty : Q (.ok absent) (read emptyList))
    (hinner : ∀ v v', inner name v v' → Q (read v) (read v')) :
    Q (values.standard name read absent) (values'.standard name read absent) := by
  rw [Values.standard_eq, Values.standard_eq]
  refine (h name).lift (g := (·.elim (.ok absent) read)) hrefl (fun v hv => ?_) hinner
  rw [habsent] at hv
  cases hv
  exact hempty

theorem Kindred.nullable {Q : Except ReadError (Option α) → Except ReadError (Option α) → Prop}
    (h : Kindred fields inner values values') (hrefl : ∀ x, Q x x)
    (habsent : absent? fields name = some .null)
    (hinner : ∀ v v', inner name v v' → Q (Reader.nullable read v) (Reader.nullable read v')) :
    Q (values.nullable name read) (values'.nullable name read) := by
  rw [Values.nullable_eq, Values.nullable_eq]
  refine (h name).lift (g := (·.elim (.ok none) read.nullable)) hrefl (fun v hv => ?_) hinner
  rw [habsent] at hv
  cases hv
  exact hrefl _

end

/-- A check passes before and after a change inside a value that reads alike. -/
theorem checked_iff {α : Type} {R : α → α → Prop} {read : Reader α} {v v' : Value}
    (h : Alike R (read v) (read v')) :
    Field.checked read v = .ok () ↔ Field.checked read v' = .ok () := by
  unfold Field.checked
  generalize read v = x, read v' = y at h
  cases h with
  | ok _ => exact Iff.rfl
  | error e e' => exact iff_of_false nofun nofun

end Record

end MediaPipeline.Json
