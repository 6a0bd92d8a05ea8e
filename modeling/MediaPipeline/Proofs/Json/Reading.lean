import Mathlib.Data.List.Nodup
import Mathlib.Data.List.TakeWhile
import MediaPipeline.Json.Record
import MediaPipeline.Proofs.Except
import MediaPipeline.Proofs.Json.Parsing

/-!
Reading numbers, maps and records. Numbers are read back from their digits as long as they fit, maps
from their members if the names are distinct. What a record takes from an object does not depend on
more than this: each member of a field passes its check, any other one can be stepped over, no field
is there twice, and none is missed (`Record.Fits`).
-/

namespace MediaPipeline.Json

@[simp] theorem orMalformed_eq_ok_iff {α : Type} {x : Except Fault α} {a : α} :
    orMalformed x = .ok a ↔ x = .ok a := by
  cases x <;> simp [orMalformed]

/-! ### Numbers -/

open Decimal (accumulate accumulate_cons le_accumulate) in
theorem absorb_of_le {start : Nat} {cs : List Char} (h : accumulate start cs ≤ maxSignificand) :
    absorb start cs = (accumulate start cs, []) := by
  induction cs generalizing start with
  | nil => rfl
  | cons c cs ih =>
      rw [accumulate_cons] at h ⊢
      rw [absorb, if_pos ((le_accumulate _ _).trans h), ih h]

/-- The digits of a number that fits 64 bits denote this number. -/
theorem Number.ofText_toDigits {n : Nat} (h : n < UInt64.size) :
    Number.ofText (Nat.toDigits 10 n) = .ok (.unsigned (UInt64.ofNat n)) := by
  have hdigits := List.all_eq_true.mp (Decimal.all_isDigit_toDigits n)
  have hnumeral : Numeral.ofText (Nat.toDigits 10 n) = ⟨false, Nat.toDigits 10 n, none, none⟩ := by
    simp only [Numeral.ofText, Decimal.splitSign_of_digits (List.all_eq_true.mpr hdigits),
      List.takeWhile_eq_self_iff.mpr hdigits, List.dropWhile_eq_nil_iff.mpr hdigits]
  have hvalue : Decimal.accumulate 0 (Nat.toDigits 10 n) = n := Decimal.value_toDigits n
  have habsorb : absorb 0 (Nat.toDigits 10 n) = (n, []) := by
    rw [absorb_of_le, hvalue]
    rw [hvalue, maxSignificand]
    omega
  rw [Number.ofText, hnumeral, Numeral.number, habsorb]
  rfl

namespace Reader

theorem natural_ofNat {n bound : Nat} (h : n < bound) (hbound : bound ≤ UInt64.size)
    (expected : String) : natural bound expected (.ofNat n) = .ok n := by
  have hfits : n < UInt64.size := h.trans_le hbound
  rw [ofNat, natural, Decimal.toList_toString, Number.ofText_toDigits hfits]
  refine bind_eq_ok_iff.mpr ⟨_, rfl, ?_⟩
  simp only [UInt64.toNat_ofNat_of_lt' hfits, if_pos h]

@[simp] theorem unsigned32_ofNat (n : UInt32) : unsigned32 (.ofNat n.toNat) = .ok n := by
  rw [unsigned32, natural_ofNat n.toNat_lt (by decide)]
  exact congrArg Except.ok UInt32.ofNat_toNat

@[simp] theorem unsigned64_ofNat (n : UInt64) : unsigned64 (.ofNat n.toNat) = .ok n := by
  rw [unsigned64, natural_ofNat n.toNat_lt (Nat.le_refl _)]
  exact congrArg Except.ok UInt64.ofNat_toNat

@[simp] theorem size_ofNat (n : UInt64) : size (.ofNat n.toNat) = .ok n := by
  rw [size, natural_ofNat n.toNat_lt (Nat.le_refl _)]
  exact congrArg Except.ok UInt64.ofNat_toNat

end Reader

/-! ### Objects -/

/-- A member of an object. -/
abbrev Entry := Spelling × Value

/-- The members of a whole object. -/
def ofEntries (es : List Entry) : Members :=
  es.foldr (fun e => .member e.1 e.2) (.endObject .closed)

@[simp] theorem ofEntries_nil : ofEntries [] = .endObject .closed := rfl

@[simp] theorem ofEntries_cons (e : Entry) (es : List Entry) :
    ofEntries (e :: es) = .member e.1 e.2 (ofEntries es) := rfl

theorem ofMembers_eq (ms : List (String × Value)) :
    ofMembers ms = .object (ofEntries (ms.map fun m => (.ofString m.1, m.2))) := by
  rw [ofMembers, ofEntries, List.foldr_map]

namespace Reader

variable {α : Type} {read : Reader α}

theorem members_ofEntries_iff {es : List Entry} {ms : List (String × α)} :
    members read (ofEntries es) = .ok ms ↔
      List.Forall₂ (fun e m => e.1.read = .ok m.1 ∧ read e.2 = .ok m.2) es ms := by
  induction es generalizing ms with
  | nil =>
      cases ms <;>
        simp [members, orMalformed, orFault, ObjectEnd.fault?, pure, Except.pure, bind, Except.bind]
  | cons e es ih =>
      rw [ofEntries_cons, members, List.forall₂_cons_left_iff]
      simp only [bind_eq_ok_iff, orMalformed_eq_ok_iff, ih]
      constructor
      · rintro ⟨name, hname, a, ha, others, hothers, hms⟩
        exact ⟨(name, a), others, ⟨hname, ha⟩, hothers, (Except.ok.inj hms).symm⟩
      · rintro ⟨m, others, ⟨hname, ha⟩, hothers, rfl⟩
        exact ⟨m.1, hname, m.2, ha, others, hothers, rfl⟩

theorem lastOfEach_sublist (ms : List (String × α)) : (lastOfEach ms).Sublist ms := by
  induction ms with
  | nil => exact .slnil
  | cons m ms ih =>
      rw [lastOfEach]
      split
      · exact ih.cons m
      · exact ih.cons_cons m

theorem nodup_lastOfEach (ms : List (String × α)) : ((lastOfEach ms).map Prod.fst).Nodup := by
  induction ms with
  | nil => exact List.nodup_nil
  | cons m ms ih =>
      rw [lastOfEach]
      split
      · exact ih
      · next hlast =>
          refine List.nodup_cons.mpr ⟨fun hm => hlast ?_, ih⟩
          obtain ⟨other, hother, hname⟩ := List.mem_map.mp hm
          rw [List.any_eq_true]
          exact ⟨other, (lastOfEach_sublist ms).mem hother, beq_iff_eq.mpr hname⟩

/-- Distinct names are all kept. -/
theorem lastOfEach_of_nodup {ms : List (String × α)} (h : (ms.map Prod.fst).Nodup) :
    lastOfEach ms = ms := by
  induction ms with
  | nil => rfl
  | cons m ms ih =>
      obtain ⟨hm, hms⟩ := List.nodup_cons.mp h
      have hlast : ¬ (ms.any fun other => other.1 == m.1) = true := by
        rw [List.any_eq_true]
        rintro ⟨other, hother, hname⟩
        exact hm (List.mem_map.mpr ⟨other, hother, beq_iff_eq.mp hname⟩)
      rw [lastOfEach, if_neg hlast, ih hms]

theorem nodup_map {v : Value} {ms : List (String × α)} (h : map read v = .ok ms) :
    (ms.map Prod.fst).Nodup := by
  unfold map at h
  split at h
  · obtain ⟨all, -, rfl⟩ := map_eq_ok_iff.mp h
    exact nodup_lastOfEach all
  · cases h

/-- A map with distinct names is read back if its values are. -/
theorem map_ofMembers {write : α → Value} {ms : List (String × α)}
    (hnodup : (ms.map Prod.fst).Nodup) (h : ∀ m ∈ ms, read (write m.2) = .ok m.2) :
    map read (ofMembers (ms.map fun m => (m.1, write m.2))) = .ok ms := by
  have hmembers : members read (ofEntries (ms.map fun m => (.ofString m.1, write m.2))) =
      .ok ms := by
    rw [members_ofEntries_iff, List.forall₂_map_left_iff, List.forall₂_same]
    exact fun m hm => ⟨Spelling.read_ofString m.1, h m hm⟩
  rw [ofMembers_eq, List.map_map, map]
  exact (congrArg (lastOfEach <$> ·) hmembers).trans
    (congrArg Except.ok (lastOfEach_of_nodup hnodup))

end Reader

/-! ### Records -/

namespace Record

/-- The field with a name. -/
def field? (fields : List Field) (name : String) : Option Field :=
  fields.find? fun f => f.name == name

/-- What a record takes of a member: its name and its value, if it is of a field. -/
def taken? (fields : List Field) (e : Entry) : Option (String × Value) :=
  match e.1.read with
  | .error _ => none
  | .ok name => if (field? fields name).isSome then some (name, e.2) else none

/-- The values that a record takes from an object. -/
def taken (fields : List Field) (es : List Entry) : Values :=
  es.filterMap (taken? fields)

/-- A member of a field passes its check, and any other one is stepped over. -/
def Passes (fields : List Field) (e : Entry) : Prop :=
  ∃ name, e.1.read = .ok name ∧
    match field? fields name with
    | some f => f.check e.2 = .ok ()
    | none => e.2.skip = .ok ()

/-- A record can be read from the members that are left of an object: they pass, no field is
there twice, and none is missed. -/
structure Fits (fields : List Field) (seen : List String) (es : List Entry) : Prop where
  passes : ∀ e ∈ es, Passes fields e
  nodup : ((taken fields es).map Prod.fst).Nodup
  unseen : ∀ name ∈ (taken fields es).map Prod.fst, name ∉ seen
  present : ∀ f ∈ fields, f.absence = .refused →
    f.name ∈ seen ∨ f.name ∈ (taken fields es).map Prod.fst

variable {fields : List Field} {seen : List String} {es : List Entry} {values : Values}

theorem readMembers_nil_iff :
    readMembers fields seen (ofEntries []) = .ok values ↔ Fits fields seen [] ∧ values = [] := by
  have hfits : Fits fields seen [] ↔
      fields.find? (fun f => f.absence == .refused && !seen.contains f.name) = none := by
    rw [List.find?_eq_none]
    constructor
    · rintro ⟨-, -, -, hpresent⟩ f hf
      simpa using fun h => (hpresent f hf h).resolve_right (by simp [taken])
    · intro h
      refine ⟨by simp, by simp [taken], by simp [taken], fun f hf habsence => .inl ?_⟩
      simpa [habsence] using h f hf
  rw [hfits, ofEntries_nil, readMembers]
  simp only [check_bind_eq_ok_iff, orMalformed_eq_ok_iff]
  cases hfind : fields.find? (fun f => f.absence == .refused && !seen.contains f.name) with
  | none => simp [ObjectEnd.fault?, orFault, pure, Except.pure, eq_comm]
  | some f => simp [throw, throwThe, MonadExceptOf.throw]

section

variable {e : Entry} {name : String} {f : Field}

theorem taken?_of_field (hname : e.1.read = .ok name) (hf : field? fields name = some f) :
    taken? fields e = some (name, e.2) := by
  simp only [taken?, hname, hf, Option.isSome_some, if_true]

theorem taken?_of_unknown (hname : e.1.read = .ok name) (hf : field? fields name = none) :
    taken? fields e = none := by
  simp [taken?, hname, hf]

theorem taken_cons_of_field (hname : e.1.read = .ok name) (hf : field? fields name = some f) :
    taken fields (e :: es) = (name, e.2) :: taken fields es :=
  List.filterMap_cons_some (taken?_of_field hname hf)

theorem taken_cons_of_unknown (hname : e.1.read = .ok name) (hf : field? fields name = none) :
    taken fields (e :: es) = taken fields es :=
  List.filterMap_cons_none (taken?_of_unknown hname hf)

theorem fits_cons_of_unknown (hname : e.1.read = .ok name) (hf : field? fields name = none) :
    Fits fields seen (e :: es) ↔ e.2.skip = .ok () ∧ Fits fields seen es := by
  have htaken : taken fields (e :: es) = taken fields es := taken_cons_of_unknown hname hf
  have hpasses : Passes fields e ↔ e.2.skip = .ok () := by
    simp [Passes, hname, hf]
  constructor
  · rintro ⟨hall, hnodup, hunseen, hpresent⟩
    rw [htaken] at hnodup hunseen hpresent
    rw [List.forall_mem_cons, hpasses] at hall
    exact ⟨hall.1, hall.2, hnodup, hunseen, hpresent⟩
  · rintro ⟨hskip, hall, hnodup, hunseen, hpresent⟩
    rw [← htaken] at hnodup hunseen hpresent
    exact ⟨List.forall_mem_cons.mpr ⟨hpasses.mpr hskip, hall⟩, hnodup, hunseen, hpresent⟩

theorem fits_cons_of_field (hname : e.1.read = .ok name) (hf : field? fields name = some f) :
    Fits fields seen (e :: es) ↔
      name ∉ seen ∧ f.check e.2 = .ok () ∧ Fits fields (name :: seen) es := by
  have htaken : taken fields (e :: es) = (name, e.2) :: taken fields es :=
    taken_cons_of_field hname hf
  have hpasses : Passes fields e ↔ f.check e.2 = .ok () := by
    simp [Passes, hname, hf]
  constructor
  · rintro ⟨hall, hnodup, hunseen, hpresent⟩
    rw [htaken, List.map_cons] at hnodup hunseen hpresent
    obtain ⟨hfresh, hnodup⟩ := List.nodup_cons.mp hnodup
    obtain ⟨hname, hunseen⟩ := List.forall_mem_cons.mp hunseen
    rw [List.forall_mem_cons, hpasses] at hall
    refine ⟨hname, hall.1, hall.2, hnodup, fun n hn => ?_, fun f hf habsence => ?_⟩
    · rw [List.mem_cons, not_or]
      exact ⟨fun h => hfresh (h ▸ hn), hunseen n hn⟩
    · simpa [or_assoc, or_left_comm] using hpresent f hf habsence
  · rintro ⟨hname, hcheck, hall, hnodup, hunseen, hpresent⟩
    have hfresh : name ∉ (taken fields es).map Prod.fst := fun h =>
      hunseen name h List.mem_cons_self
    refine ⟨List.forall_mem_cons.mpr ⟨hpasses.mpr hcheck, hall⟩, ?_, ?_, fun f hf habsence => ?_⟩
    · rw [htaken, List.map_cons]
      exact List.nodup_cons.mpr ⟨hfresh, hnodup⟩
    · rw [htaken, List.map_cons]
      exact List.forall_mem_cons.mpr ⟨hname, fun n hn h => hunseen n hn (.tail _ h)⟩
    · simpa [htaken, or_assoc, or_left_comm] using hpresent f hf habsence

end

/-- A record is read from an object that it fits, and takes the values of its fields. -/
theorem readMembers_ofEntries_iff :
    readMembers fields seen (ofEntries es) = .ok values ↔
      Fits fields seen es ∧ values = taken fields es := by
  induction es generalizing seen values with
  | nil => exact readMembers_nil_iff
  | cons e es ih =>
      rw [ofEntries_cons, readMembers, bind_eq_ok_iff]
      simp only [orMalformed_eq_ok_iff]
      -- The first member has no readable name, or belongs to no field, to one seen or to a new one.
      cases hname : e.1.read with
      | error fault =>
          refine iff_of_false (by simp) fun h => ?_
          obtain ⟨name, hread, -⟩ := h.1.passes e List.mem_cons_self
          rw [hname] at hread
          cases hread
      | ok name =>
          simp only [Except.ok.injEq, exists_eq_left']
          cases hf : field? fields name with
          | none =>
              rw [fits_cons_of_unknown hname hf, taken_cons_of_unknown hname hf, and_assoc, ← ih]
              rw [field?] at hf
              simp only [hf, check_bind_eq_ok_iff, orMalformed_eq_ok_iff]
          | some f =>
              rw [fits_cons_of_field hname hf, taken_cons_of_field hname hf]
              rw [field?] at hf
              by_cases hseen : name ∈ seen
              · simp [hf, hseen, throw, throwThe, MonadExceptOf.throw, bind, Except.bind]
              · simp only [hf, List.contains_eq_mem, hseen, decide_false, Bool.false_eq_true,
                  if_false, bind_eq_ok_iff, ih]
                constructor
                · rintro ⟨⟨⟩, hcheck, vs, ⟨hfits, rfl⟩, hvalues⟩
                  exact ⟨⟨not_false, hcheck, hfits⟩, (Except.ok.inj hvalues).symm⟩
                · rintro ⟨⟨-, hcheck, hfits⟩, rfl⟩
                  exact ⟨(), hcheck, _, ⟨hfits, rfl⟩, rfl⟩

/-- Fields with different names are found by their names. -/
theorem field?_of_mem {f : Field} (hnodup : (fields.map Field.name).Nodup) (hf : f ∈ fields) :
    field? fields f.name = some f := by
  induction fields with
  | nil => cases hf
  | cons g fields ih =>
      obtain ⟨hg, hnodup⟩ := List.nodup_cons.mp hnodup
      rw [field?, List.find?_cons]
      rcases List.mem_cons.mp hf with rfl | hf
      · simp
      · have hne : g.name ≠ f.name := fun h => hg (h ▸ List.mem_map_of_mem hf)
        rw [beq_eq_false_iff_ne.mpr hne]
        exact ih hnodup hf

/-- A record is read back from its fields in their order if these have different names and their
values pass the checks. -/
theorem read_ofMembers {r : Record} {ms : List (String × Value)}
    (hnodup : (r.fields.map Field.name).Nodup)
    (h : List.Forall₂ (fun f m => f.name = m.1 ∧ f.check m.2 = .ok ()) r.fields ms) :
    r.read (ofMembers ms) = .ok ms := by
  have hnames : r.fields.map Field.name = ms.map Prod.fst := by
    rw [← List.forall₂_eq_eq_eq, List.forall₂_map_left_iff, List.forall₂_map_right_iff]
    exact h.imp fun f m hm => hm.1
  have hfields : ∀ m ∈ ms, ∃ f, field? r.fields m.1 = some f ∧ f.check m.2 = .ok () := by
    intro m hm
    obtain ⟨i, hi, rfl⟩ := List.getElem_of_mem hm
    have hi' : i < r.fields.length := h.length_eq ▸ hi
    obtain ⟨hname, hcheck⟩ := h.get hi' hi
    exact ⟨r.fields[i], hname ▸ field?_of_mem hnodup (List.getElem_mem hi'), hcheck⟩
  have htaken : taken r.fields (ms.map fun m => (.ofString m.1, m.2)) = ms := by
    rw [taken, List.filterMap_map]
    refine (List.filterMap_congr fun m hm => ?_).trans List.filterMap_some
    obtain ⟨f, hf, -⟩ := hfields m hm
    exact taken?_of_field (Spelling.read_ofString m.1) hf
  rw [ofMembers_eq, read, readMembers_ofEntries_iff, htaken]
  refine ⟨⟨List.forall_mem_map.mpr fun m hm => ?_, ?_, by simp, fun f hf _ => .inr ?_⟩, rfl⟩
  · obtain ⟨f, hf, hcheck⟩ := hfields m hm
    refine ⟨m.1, Spelling.read_ofString m.1, ?_⟩
    rw [hf]
    exact hcheck
  · rw [htaken, ← hnames]
    exact hnodup
  · rw [htaken, ← hnames]
    exact List.mem_map_of_mem hf

end Record

end MediaPipeline.Json
