import MediaPipeline.Proofs.Json.Reading

/-!
Fields in the tree of a document. A record stands there as an object, with its members in any order,
or as a list with an item for each field. What is read for a field is the value in its place; where
this value is changed into another one that passes the check, the record is still read, and all other
fields keep their values.
-/

namespace MediaPipeline.Json

/-! ### Members of an object -/

namespace Members

/-- The value of the first member with a name. -/
def value? (name : String) : Members → Option Value
  | .member key v rest => if key.read = .ok name then some v else value? name rest
  | .endObject _ | .unnamed => none

/-- Changes the value of the first member with a name. -/
def modify (name : String) (g : Value → Value) : Members → Members
  | .member key v rest =>
    if key.read = .ok name then .member key (g v) rest else .member key v (modify name g rest)
  | .endObject ending => .endObject ending
  | .unnamed => .unnamed

theorem value?_modify (name other : String) (g : Value → Value) : (ms : Members) →
    value? other (modify name g ms) =
      if other = name then (value? other ms).map g else value? other ms
  | .endObject _ | .unnamed => by simp [modify, value?]
  | .member key v rest => by
      have ih := value?_modify name other g rest
      rw [modify]
      by_cases hname : key.read = .ok name
      · by_cases hother : other = name
        · subst hother
          simp [value?, hname]
        · simp [value?, hname, hother, Ne.symm hother]
      · rw [if_neg hname, value?, value?, ih]
        by_cases hother : key.read = .ok other
        · have hne : other ≠ name := fun h => hname (h ▸ hother)
          simp [hother, hne]
        · simp [hother]

end Members

/-! ### Items of a list -/

namespace Items

/-- The items of a list. -/
def values : Items → List Value
  | .item v rest => v :: values rest
  | .endList _ => []

/-- Changes the item at a position. -/
def modify : Nat → (Value → Value) → Items → Items
  | 0, g, .item v rest => .item (g v) rest
  | i + 1, g, .item v rest => .item v (modify i g rest)
  | _, _, .endList ending => .endList ending

theorem values_modify (i : Nat) (g : Value → Value) (is : Items) :
    values (modify i g is) = (values is).modify i g := by
  fun_induction modify i g is with
  | case1 g v rest => simp [values]
  | case2 i g v rest ih => simp [values, ih]
  | case3 i g ending => simp [values]

/-- How a list ends. -/
def ending : Items → ListEnd
  | .item _ rest => ending rest
  | .endList ending => ending

theorem ending_modify (i : Nat) (g : Value → Value) (is : Items) :
    ending (modify i g is) = ending is := by
  fun_induction modify i g is with
  | case1 g v rest => simp [ending]
  | case2 i g v rest ih => simp [ending, ih]
  | case3 i g e => rfl

/-- The item in the place of the field with a name. -/
def value? : List Field → String → Items → Option Value
  | f :: fields, name, .item v rest => if f.name = name then some v else value? fields name rest
  | _, _, _ => none

/-- Changes the item in the place of the field with a name. -/
def modifyField : List Field → String → (Value → Value) → Items → Items
  | f :: fields, name, g, .item v rest =>
    if f.name = name then .item (g v) rest else .item v (modifyField fields name g rest)
  | _, _, _, is => is

theorem value?_modifyField (fields : List Field) (name other : String) (g : Value → Value)
    (is : Items) :
    value? fields other (modifyField fields name g is) =
      if other = name then (value? fields other is).map g else value? fields other is := by
  fun_induction modifyField fields name g is with
  | case1 f fields g v rest =>
      by_cases hother : other = f.name
      · simp [value?, hother]
      · simp [value?, hother, Ne.symm hother]
  | case2 f fields name g v rest hname ih =>
      rw [value?, value?, ih]
      by_cases hother : f.name = other
      · subst hother
        simp [hname]
      · simp [hother]
  | case3 fields name g is h =>
      have hnone : value? fields other is = none := by
        unfold value?
        split
        · exact (h _ _ _ _ rfl rfl).elim
        · rfl
      simp [hnone]

end Items

/-- Changes the item at a position of a list. -/
def modifyItem (i : Nat) (g : Value → Value) : Value → Value
  | .list is => .list (Items.modify i g is)
  | v => v

theorem forall₂_modify {α β : Type} {R : α → β → Prop} {as : List α} {bs : List β} {g : α → α}
    {k : β → β} (h : List.Forall₂ R as bs) {i : Nat}
    (hi : ∀ a b, bs[i]? = some b → R a b → R (g a) (k b)) :
    List.Forall₂ R (as.modify i g) (bs.modify i k) := by
  induction h generalizing i with
  | nil => simp
  | cons hab has ih =>
      cases i with
      | zero => exact .cons (hi _ _ rfl hab) has
      | succ i => exact .cons hab (ih fun a b hb => hi a b (by simpa using hb))

namespace Reader

variable {α : Type} {read : Reader α}

theorem items_eq_ok_iff {is : Items} {as : List α} :
    items read is = .ok as ↔
      Items.ending is = .closed ∧ List.Forall₂ (fun v a => read v = .ok a) (Items.values is) as := by
  fun_induction Items.values is generalizing as with
  | case1 v rest ih =>
      simp only [items, Items.ending, bind_eq_ok_iff, ih, List.forall₂_cons_left_iff]
      constructor
      · rintro ⟨a, ha, rest, ⟨hending, hrest⟩, has⟩
        exact ⟨hending, a, rest, ha, hrest, (Except.ok.inj has).symm⟩
      · rintro ⟨hending, a, rest, ha, hrest, rfl⟩
        exact ⟨a, ha, rest, ⟨hending, hrest⟩, rfl⟩
  | case2 ending =>
      rw [items, check_bind_eq_ok_iff, orMalformed_eq_ok_iff, Items.ending, List.forall₂_nil_left_iff]
      cases ending <;> simp [ListEnd.fault?, orFault, pure, Except.pure, eq_comm]

theorem list_eq_ok_iff {v : Value} {as : List α} :
    list read v = .ok as ↔ ∃ is, v = .list is ∧ Items.ending is = .closed ∧
      List.Forall₂ (fun v a => read v = .ok a) (Items.values is) as := by
  unfold list
  split
  · simp [items_eq_ok_iff]
  · next hlist => exact iff_of_false nofun fun ⟨is, h, _⟩ => hlist is h

/-- A list is still read after a change of one item, and only what is read of this item changes. -/
theorem list_modifyItem {v : Value} {as : List α} {i : Nat} {g : Value → Value} {k : α → α}
    (h : list read v = .ok as)
    (hi : ∀ w a, as[i]? = some a → read w = .ok a → read (g w) = .ok (k a)) :
    list read (modifyItem i g v) = .ok (as.modify i k) := by
  obtain ⟨is, rfl, hending, his⟩ := list_eq_ok_iff.mp h
  refine list_eq_ok_iff.mpr ⟨_, rfl, ?_, ?_⟩
  · rw [Items.ending_modify, hending]
  · rw [Items.values_modify]
    exact forall₂_modify his hi

end Reader

/-! ### Records -/

namespace Record

/-- The value in the place of a field. -/
def value? (fields : List Field) (name : String) : Value → Option Value
  | .object ms => Members.value? name ms
  | .list is => Items.value? fields name is
  | _ => none

/-- Changes the value in the place of a field. -/
def modify (fields : List Field) (name : String) (g : Value → Value) : Value → Value
  | .object ms => .object (Members.modify name g ms)
  | .list is => .list (Items.modifyField fields name g is)
  | v => v

theorem value?_modify (fields : List Field) (name other : String) (g : Value → Value) (v : Value) :
    value? fields other (modify fields name g v) =
      if other = name then (value? fields other v).map g else value? fields other v := by
  unfold modify
  split
  · exact Members.value?_modify name other g _
  · exact Items.value?_modifyField fields name other g _
  · next hobject hlist =>
      have hnone : value? fields other v = none := by
        unfold value?
        split
        · exact (hobject _ rfl).elim
        · exact (hlist _ rfl).elim
        · rfl
      simp [hnone]

section

variable {fields : List Field} {seen : List String} {ms : Members} {values : Values} {name : String}
  {f : Field} {g : Value → Value} {r : Record} {is : Items}

/-- What a record does with a member: it steps over one of no field, and keeps the value of any other
one that passes its check. -/
theorem readMembers_member_iff {key : Spelling} {v : Value} :
    readMembers fields seen (.member key v ms) = .ok values ↔ ∃ name, key.read = .ok name ∧
      ((field? fields name = none ∧ v.skip = .ok () ∧ readMembers fields seen ms = .ok values) ∨
      ∃ f rest, field? fields name = some f ∧ name ∉ seen ∧ f.check v = .ok () ∧
        readMembers fields (name :: seen) ms = .ok rest ∧ values = (name, v) :: rest) := by
  rw [readMembers, bind_eq_ok_iff]
  refine exists_congr fun name => ?_
  rw [orMalformed_eq_ok_iff]
  refine and_congr_right fun _ => ?_
  cases hf : field? fields name with
  | none =>
      rw [field?] at hf
      simp [hf, check_bind_eq_ok_iff]
  | some f =>
      rw [field?] at hf
      by_cases hseen : name ∈ seen
      · simp [hf, hseen, throw, throwThe, MonadExceptOf.throw, bind, Except.bind]
      · simp only [hf, List.contains_eq_mem, hseen, decide_false, Bool.false_eq_true, if_false,
          check_bind_eq_ok_iff]
        simp [bind_eq_ok_iff, pure, Except.pure, @eq_comm _ values]

/-- What a record does with an item: it keeps the value if it passes the check of the next field. -/
theorem readItems_item_iff {fields : List Field} {v : Value} :
    readItems r fields (.item v is) = .ok values ↔ ∃ f fs rest, fields = f :: fs ∧
      f.check v = .ok () ∧ readItems r fs is = .ok rest ∧ values = (f.name, v) :: rest := by
  cases fields with
  | nil => simp [readItems]
  | cons f fs =>
      rw [readItems, check_bind_eq_ok_iff]
      simp [bind_eq_ok_iff, pure, Except.pure, @eq_comm _ values]

theorem eq_nil_of_readMembers_end {ending : ObjectEnd}
    (h : readMembers fields seen (.endObject ending) = .ok values) : values = [] := by
  rw [readMembers, check_bind_eq_ok_iff] at h
  obtain ⟨-, h⟩ := h
  split at h
  · cases h
  · exact (Except.ok.inj h).symm

theorem eq_nil_of_readItems_end {fields : List Field} {ending : ListEnd}
    (h : readItems r fields (.endList ending) = .ok values) : values = [] := by
  cases fields with
  | nil =>
      rw [readItems, check_bind_eq_ok_iff] at h
      exact (Except.ok.inj h.2).symm
  | cons f fs =>
      rw [readItems, check_bind_eq_ok_iff] at h
      obtain ⟨-, h⟩ := h
      split at h
      · exact (Except.ok.inj h).symm
      · cases h

/-! ### What is read for a field -/

theorem lookup_of_readMembers (hf : field? fields name = some f)
    (h : readMembers fields seen ms = .ok values) :
    values.lookup name = Members.value? name ms := by
  fun_induction Members.value? name ms generalizing seen values with
  | case1 key v rest hkey =>
      obtain ⟨other, hother, hcases⟩ := readMembers_member_iff.mp h
      obtain rfl : name = other := Except.ok.inj (hkey.symm.trans hother)
      obtain ⟨hnone, -⟩ | ⟨_, _, -, -, -, -, rfl⟩ := hcases
      · rw [hf] at hnone
        cases hnone
      · exact List.lookup_cons_self
  | case2 key v rest hkey ih =>
      obtain ⟨other, hother, hcases⟩ := readMembers_member_iff.mp h
      have hne : name ≠ other := fun h => hkey (h ▸ hother)
      obtain ⟨-, -, hrest⟩ | ⟨_, values, -, -, -, hrest, rfl⟩ := hcases
      · exact ih hrest
      · rw [List.lookup_cons, beq_eq_false_iff_ne.mpr hne]
        exact ih hrest
  | case3 ending =>
      rw [eq_nil_of_readMembers_end h]
      rfl
  | case4 =>
      rw [readMembers] at h
      cases h

theorem lookup_of_readItems {fields : List Field} (h : readItems r fields is = .ok values) :
    values.lookup name = Items.value? fields name is := by
  fun_induction Items.value? fields name is generalizing values with
  | case1 f fields v rest =>
      obtain ⟨_, _, _, heq, -, -, rfl⟩ := readItems_item_iff.mp h
      cases heq
      exact List.lookup_cons_self
  | case2 f fields name v rest hname ih =>
      obtain ⟨_, _, values, heq, -, hrest, rfl⟩ := readItems_item_iff.mp h
      cases heq
      rw [List.lookup_cons, beq_eq_false_iff_ne.mpr (Ne.symm hname)]
      exact ih hrest
  | case3 fields name is hend =>
      cases is with
      | endList ending =>
          rw [eq_nil_of_readItems_end h]
          rfl
      | item v rest =>
          obtain ⟨_, _, _, rfl, -⟩ := readItems_item_iff.mp h
          exact (hend _ _ _ _ rfl rfl).elim

/-- What is read for a field is the value in its place. -/
theorem lookup_of_read {v : Value} (hf : field? r.fields name = some f)
    (h : r.read v = .ok values) : values.lookup name = value? r.fields name v := by
  unfold read at h
  split at h
  · exact lookup_of_readMembers hf h
  · exact lookup_of_readItems h
  · cases h

/-! ### Records after a change -/

theorem readMembers_modify (hf : field? fields name = some f)
    (hg : ∀ v, Members.value? name ms = some v → f.check (g v) = .ok ())
    (h : readMembers fields seen ms = .ok values) :
    ∃ values', readMembers fields seen (Members.modify name g ms) = .ok values' := by
  fun_induction Members.modify name g ms generalizing seen values with
  | case1 key v rest hkey =>
      obtain ⟨other, hother, hcases⟩ := readMembers_member_iff.mp h
      obtain rfl : name = other := Except.ok.inj (hkey.symm.trans hother)
      obtain ⟨hnone, -⟩ | ⟨f', values, hf', hseen, -, hrest, -⟩ := hcases
      · rw [hf] at hnone
        cases hnone
      · obtain rfl : f = f' := Option.some.inj (hf.symm.trans hf')
        have hcheck : f.check (g v) = .ok () := hg v (by simp [Members.value?, hkey])
        exact ⟨_, readMembers_member_iff.mpr
          ⟨name, hkey, .inr ⟨f, values, hf, hseen, hcheck, hrest, rfl⟩⟩⟩
  | case2 key v rest hkey ih =>
      obtain ⟨other, hother, hcases⟩ := readMembers_member_iff.mp h
      have hg' : ∀ v, Members.value? name rest = some v → f.check (g v) = .ok () := fun v hv =>
        hg v (by rwa [Members.value?, if_neg hkey])
      obtain ⟨hnone, hskip, hrest⟩ | ⟨f', values, hf', hseen, hcheck, hrest, -⟩ := hcases
      · obtain ⟨values', hvalues'⟩ := ih hg' hrest
        exact ⟨_, readMembers_member_iff.mpr ⟨other, hother, .inl ⟨hnone, hskip, hvalues'⟩⟩⟩
      · obtain ⟨values', hvalues'⟩ := ih hg' hrest
        exact ⟨_, readMembers_member_iff.mpr
          ⟨other, hother, .inr ⟨f', values', hf', hseen, hcheck, hvalues', rfl⟩⟩⟩
  | case3 ending => exact ⟨values, h⟩
  | case4 => exact ⟨values, h⟩

theorem readItems_modifyField {fields : List Field} (hf : field? fields name = some f)
    (hg : ∀ v, Items.value? fields name is = some v → f.check (g v) = .ok ())
    (h : readItems r fields is = .ok values) :
    ∃ values', readItems r fields (Items.modifyField fields name g is) = .ok values' := by
  fun_induction Items.modifyField fields name g is generalizing values with
  | case1 f' fields g v rest =>
      obtain ⟨_, _, values, heq, -, hrest, -⟩ := readItems_item_iff.mp h
      cases heq
      obtain rfl : f' = f := by simpa [field?] using hf
      have hcheck : f'.check (g v) = .ok () := hg v (by simp [Items.value?])
      exact ⟨_, readItems_item_iff.mpr ⟨f', fields, values, rfl, hcheck, hrest, rfl⟩⟩
  | case2 f' fields name g v rest hname ih =>
      obtain ⟨_, _, values, heq, hcheck, hrest, -⟩ := readItems_item_iff.mp h
      cases heq
      have hf' : field? fields name = some f := by
        rwa [field?, List.find?_cons, beq_eq_false_iff_ne.mpr hname] at hf
      have hg' : ∀ v, Items.value? fields name rest = some v → f.check (g v) = .ok () :=
        fun v hv => hg v (by rwa [Items.value?, if_neg hname])
      obtain ⟨values', hvalues'⟩ := ih hf' hg' hrest
      exact ⟨_, readItems_item_iff.mpr ⟨f', fields, values', rfl, hcheck, hvalues', rfl⟩⟩
  | case3 => exact ⟨values, h⟩

/-- A record is still read if the value of a field is changed into another one that passes the check;
other fields are not changed. -/
theorem read_modify {v : Value} (hf : field? r.fields name = some f)
    (hg : ∀ w, value? r.fields name v = some w → f.check (g w) = .ok ())
    (h : r.read v = .ok values) :
    ∃ values', r.read (modify r.fields name g v) = .ok values' ∧
      ∀ other, (field? r.fields other).isSome → values'.lookup other =
        if other = name then (values.lookup other).map g else values.lookup other := by
  have hread : ∃ values', r.read (modify r.fields name g v) = .ok values' := by
    unfold read at h
    split at h
    · exact readMembers_modify hf hg h
    · exact readItems_modifyField hf hg h
    · cases h
  obtain ⟨values', hvalues'⟩ := hread
  refine ⟨values', hvalues', fun other hother => ?_⟩
  obtain ⟨f', hf'⟩ := Option.isSome_iff_exists.mp hother
  rw [lookup_of_read hf' hvalues', lookup_of_read hf' h, value?_modify]

end

end Record

end MediaPipeline.Json
