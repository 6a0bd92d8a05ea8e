import MediaPipeline.Proofs.Json.Derivation
import MediaPipeline.Proofs.Json.Fields

/-!
What is read can be stepped over, so that a text is read only where it is a document. Nor is there
anything wrong with the other values of a document when one of them is replaced: what the grammar
derives for the parts it derives for the whole.
-/

namespace MediaPipeline.Json

/-! ### What is read -/

theorem fault?_of_readUnits {ending : TextEnd} {units : List TextUnit} {cs : List Char}
    (h : readUnits ending units = .ok cs) : ending.fault? = none := by
  fun_induction readUnits ending units generalizing cs with
  | case1 hending => exact hending
  | case2 | case5 | case6 | case8 | case9 => cases h
  | case3 c rest ih | case4 letter rest ih | case7 high _ _ low rest _ ih | case10 high rest _ _ ih =>
      obtain ⟨_, hrest, -⟩ := map_eq_ok_iff.mp h
      exact ih hrest

theorem Spelling.skip_of_read {s : Spelling} {text : String} (h : s.read = .ok text) :
    s.skip = .ok () := by
  obtain ⟨cs, hcs, -⟩ := map_eq_ok_iff.mp h
  rw [skip, fault?_of_readUnits hcs]

namespace Reader

variable {α : Type}

/-- What is read can be stepped over. -/
def Whole (read : Reader α) : Prop :=
  ∀ v a, read v = .ok a → v.skip = .ok ()

theorem Whole.map {β : Type} {read : Reader α} (h : read.Whole) (f : α → β) :
    Whole fun v => f <$> read v := by
  intro v b hb
  obtain ⟨a, ha, -⟩ := map_eq_ok_iff.mp hb
  exact h v a ha

@[simp] theorem whole_text : text.Whole := by
  intro v a h
  unfold text at h
  split at h
  · exact Spelling.skip_of_read (orMalformed_eq_ok_iff.mp h)
  · cases h

theorem Whole.bind {β : Type} {read : Reader α} (h : read.Whole) (f : α → Except ReadError β) :
    Whole fun v => read v >>= f := by
  intro v b hb
  obtain ⟨a, ha, -⟩ := bind_eq_ok_iff.mp hb
  exact h v a ha

theorem whole_natural (bound : Nat) (expected : String) : (natural bound expected).Whole := by
  intro v a h
  unfold natural at h
  split at h
  · rfl
  · cases h

@[simp] theorem whole_unsigned32 : unsigned32.Whole :=
  (whole_natural _ _).map _

@[simp] theorem whole_size : size.Whole :=
  (whole_natural _ _).map _

theorem Whole.nullable {read : Reader α} (h : read.Whole) : (nullable read).Whole := by
  intro v a ha
  unfold Reader.nullable at ha
  split at ha
  · rfl
  · exact h.map some v a ha

theorem skip_items : (is : Items) → Items.ending is = .closed →
    (∀ v ∈ Items.values is, v.skip = .ok ()) → is.skip = .ok ()
  | .endList _, hending, _ => by
      rw [Items.ending] at hending
      subst hending
      rfl
  | .item v is, hending, h => by
      rw [Items.ending] at hending
      rw [Items.values, List.forall_mem_cons] at h
      obtain ⟨hv, his⟩ := h
      exact skip_item_iff.mpr ⟨hv, skip_items is hending his⟩

@[simp] theorem Whole.list {read : Reader α} (h : read.Whole) : (list read).Whole := by
  intro v as has
  obtain ⟨is, rfl, hending, his⟩ := list_eq_ok_iff.mp has
  refine skip_items is hending fun w hw => ?_
  obtain ⟨i, hi, rfl⟩ := List.mem_iff_getElem.mp hw
  exact h _ _ (his.get hi (his.length_eq ▸ hi))

theorem Whole.members {read : Reader α} (h : read.Whole) : (ms : Members) →
    ∀ {as}, members read ms = .ok as → ms.skip = .ok ()
  | .endObject ending, as, has => by
      rw [Reader.members, check_bind_eq_ok_iff, orMalformed_eq_ok_iff] at has
      cases ending <;> first | rfl | cases has.1
  | .unnamed, as, has => by
      rw [Reader.members] at has
      cases has
  | .member key v ms, as, has => by
      rw [Reader.members, bind_eq_ok_iff] at has
      obtain ⟨name, hname, has⟩ := has
      obtain ⟨a, ha, has⟩ := bind_eq_ok_iff.mp has
      obtain ⟨others, hothers, -⟩ := bind_eq_ok_iff.mp has
      exact skip_member_iff.mpr ⟨Spelling.skip_of_read (orMalformed_eq_ok_iff.mp hname), h v a ha,
        h.members ms hothers⟩

@[simp] theorem Whole.object {read : Reader α} (h : read.Whole) : (Reader.map read).Whole := by
  intro v as has
  unfold Reader.map at has
  split at has
  · obtain ⟨all, hall, -⟩ := map_eq_ok_iff.mp has
    exact h.members _ hall
  · cases has

end Reader

namespace Field

variable {α : Type} {read : Reader α}

/-- What passes the check of a field can be stepped over. -/
def Whole (f : Field) : Prop :=
  ∀ v, f.check v = .ok () → v.skip = .ok ()

theorem whole_checked (h : read.Whole) {v : Value} (hv : checked read v = .ok ()) :
    v.skip = .ok () := by
  obtain ⟨a, ha, -⟩ := map_eq_ok_iff.mp hv
  exact h v a ha

@[simp] theorem whole_required (name : String) (h : read.Whole) : (required name read).Whole :=
  fun _ => whole_checked h

@[simp] theorem whole_nullable (name : String) (h : read.Whole) : (nullable name read).Whole :=
  fun _ => whole_checked h.nullable

@[simp] theorem whole_standard (name : String) (h : read.Whole) : (standard name read).Whole :=
  fun _ => whole_checked h

end Field

namespace Record

theorem skip_members {fields : List Field} (hfields : ∀ f ∈ fields, f.Whole) : (ms : Members) →
    ∀ {seen values}, readMembers fields seen ms = .ok values → ms.skip = .ok ()
  | .endObject ending, seen, values, h => by
      rw [readMembers, check_bind_eq_ok_iff, orMalformed_eq_ok_iff] at h
      cases ending <;> first | rfl | cases h.1
  | .unnamed, seen, values, h => by
      rw [readMembers] at h
      cases h
  | .member key v ms, seen, values, h => by
      obtain ⟨name, hname, hcases⟩ := readMembers_member_iff.mp h
      have hkey := Spelling.skip_of_read hname
      obtain ⟨-, hskip, hrest⟩ | ⟨f, rest, hf, -, hcheck, hrest, -⟩ := hcases
      · exact skip_member_iff.mpr ⟨hkey, hskip, skip_members hfields ms hrest⟩
      · have hwhole := hfields f (List.mem_of_find?_eq_some hf)
        exact skip_member_iff.mpr ⟨hkey, hwhole v hcheck, skip_members hfields ms hrest⟩

theorem skip_items {r : Record} : (is : Items) → ∀ {fields values}, (∀ f ∈ fields, f.Whole) →
    readItems r fields is = .ok values → is.skip = .ok ()
  | .endList ending, [], values, _, h => by
      rw [readItems, check_bind_eq_ok_iff, orMalformed_eq_ok_iff] at h
      cases ending <;> first | rfl | cases h.1
  | .endList ending, f :: fields, values, _, h => by
      rw [readItems, check_bind_eq_ok_iff, orMalformed_eq_ok_iff] at h
      cases ending <;> first | rfl | cases h.1
  | .item v is, fields, values, hfields, h => by
      obtain ⟨f, fs, rest, rfl, hcheck, hrest, -⟩ := readItems_item_iff.mp h
      obtain ⟨hf, hfs⟩ := List.forall_mem_cons.mp hfields
      exact skip_item_iff.mpr ⟨hf v hcheck, skip_items is hfs hrest⟩

theorem whole_read {r : Record} (hfields : ∀ f ∈ r.fields, f.Whole) : Reader.Whole r.read := by
  intro v values h
  unfold read at h
  split at h
  · exact skip_members hfields _ h
  · exact skip_items _ hfields h
  · cases h

end Record

/-! ### What is replaced -/

/-- The grammar derives some characters for the part. -/
def Derivable {part : Part} (v : Json part) : Prop :=
  ∃ cs, Rendered v cs

theorem Document.derivable {v : Value} {text : String} (h : Document v text) : v.Derivable := by
  obtain ⟨cs, -, hcs, -⟩ := h
  exact ⟨cs, hcs⟩

theorem Derivable.exists_document {v : Value} (h : v.Derivable) : ∃ text, Document v text := by
  obtain ⟨cs, hcs⟩ := h
  exact ⟨.ofList cs, cs, [], hcs, nofun, by simp⟩

/-- The grammar derives the parts that a part is made of. -/
def PartsDerivable : {part : Part} → Json part → Prop
  | _, .list is => is.Derivable
  | _, .object ms => ms.Derivable
  | _, .item v is => v.Derivable ∧ is.Derivable
  | _, .member key v ms => (∃ ks, key.Rendered ks) ∧ v.Derivable ∧ ms.Derivable
  | _, .endList ending => ending = .closed
  | _, .endObject ending => ending = .closed
  | _, .unnamed => False
  | _, _ => True

theorem Rendered.partsDerivable {part : Part} {v : Json part} {cs : List Char}
    (h : Rendered v cs) : v.PartsDerivable := by
  induction h with
  | blank _ _ ih => exact ih
  | null | true | false | number _ | text _ => trivial
  | endList | endObject => rfl
  | emptyList h | emptyObject h | list h | object h => exact ⟨_, h⟩
  | item hv his => exact ⟨⟨_, hv⟩, _, his⟩
  | member _ hkey _ hv hms => exact ⟨⟨_, hkey⟩, ⟨_, hv⟩, _, hms⟩

namespace Derivable

variable {v : Value} {is : Items} {ms : Members} {key : Spelling}

theorem parts {part : Part} {v : Json part} (h : v.Derivable) : v.PartsDerivable := by
  obtain ⟨cs, hcs⟩ := h
  exact hcs.partsDerivable

theorem item (hv : v.Derivable) (his : is.Derivable) : (Json.item v is).Derivable := by
  obtain ⟨cs, hcs⟩ := hv
  obtain ⟨ds, hds⟩ := his
  exact ⟨_, .item hcs hds⟩

theorem member (hkey : ∃ ks, key.Rendered ks) (hv : v.Derivable) (hms : ms.Derivable) :
    (Json.member key v ms).Derivable := by
  obtain ⟨ks, hks⟩ := hkey
  obtain ⟨cs, hcs⟩ := hv
  obtain ⟨ds, hds⟩ := hms
  have hblank : Blank [] := nofun
  exact ⟨_, .member hblank hks hblank hcs hds⟩

theorem list (h : is.Derivable) : (Json.list is).Derivable := by
  cases is with
  | endList ending =>
      obtain rfl := h.parts
      exact ⟨_, .emptyList .endList⟩
  | item v is =>
      obtain ⟨⟨cs, hcs⟩, ds, hds⟩ := h.parts
      exact ⟨_, .list (.item hcs hds)⟩

theorem object (h : ms.Derivable) : (Json.object ms).Derivable := by
  cases ms with
  | endObject ending =>
      obtain rfl := h.parts
      exact ⟨_, .emptyObject .endObject⟩
  | unnamed => exact h.parts.elim
  | member key v ms =>
      obtain ⟨⟨ks, hks⟩, ⟨cs, hcs⟩, ds, hds⟩ := h.parts
      have hblank : Blank [] := nofun
      exact ⟨_, .object (.member hblank hks hblank hcs hds)⟩

theorem ofString (s : String) : (Json.ofString s).Derivable :=
  ⟨_, .text (Spelling.rendered_ofString s)⟩

end Derivable

section

variable {g : Value → Value} (hg : ∀ v : Value, v.Derivable → (g v).Derivable)
include hg

theorem Members.derivable_modify (name : String) (ms : Members) (h : ms.Derivable) :
    (Members.modify name g ms).Derivable := by
  fun_induction Members.modify name g ms with
  | case1 key v rest hkey =>
      obtain ⟨hks, hv, hrest⟩ := h.parts
      exact .member hks (hg v hv) hrest
  | case2 key v rest hkey ih =>
      obtain ⟨hks, hv, hrest⟩ := h.parts
      exact .member hks hv (ih hrest)
  | case3 | case4 => exact h

theorem Items.derivable_modify (i : Nat) (is : Items) (h : is.Derivable) :
    (Items.modify i g is).Derivable := by
  fun_induction Items.modify i g is with
  | case1 g v rest =>
      obtain ⟨hv, hrest⟩ := h.parts
      exact .item (hg v hv) hrest
  | case2 i g v rest ih =>
      obtain ⟨hv, hrest⟩ := h.parts
      exact .item hv (ih hg hrest)
  | case3 => exact h

theorem Items.derivable_modifyField (fields : List Field) (name : String) (is : Items)
    (h : is.Derivable) : (Items.modifyField fields name g is).Derivable := by
  fun_induction Items.modifyField fields name g is with
  | case1 f fields g v rest =>
      obtain ⟨hv, hrest⟩ := h.parts
      exact .item (hg v hv) hrest
  | case2 f fields name g v rest hname ih =>
      obtain ⟨hv, hrest⟩ := h.parts
      exact .item hv (ih hg hrest)
  | case3 => exact h

theorem derivable_modifyItem (i : Nat) (v : Value) (h : v.Derivable) :
    (modifyItem i g v).Derivable := by
  unfold modifyItem
  split
  · exact .list (Items.derivable_modify hg i _ h.parts)
  · exact h

theorem Record.derivable_modify (fields : List Field) (name : String) (v : Value)
    (h : v.Derivable) : (Record.modify fields name g v).Derivable := by
  unfold Record.modify
  split
  · exact .object (Members.derivable_modify hg name _ h.parts)
  · exact .list (Items.derivable_modifyField hg fields name _ h.parts)
  · exact h

end

end MediaPipeline.Json
