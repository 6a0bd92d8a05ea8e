import Mathlib.Algebra.Group.Nat.Defs
import Mathlib.Data.List.Induction
import Mathlib.Logic.Relation
import MediaPipeline.Proofs.Workspace.Runs

/-!
Where a pipeline comes from. As long as a pipeline is not emptied it keeps its stamp and its nodes,
and so does every copy taken from it: this is `Inherits`. Every pipeline inherits from one that a
creation or a reset gave its stamp, and while the stamps last no two of these have the same one. So
two pipelines of a run, each at its own moment, have one stamp exactly if they are `Siblings`.
-/

namespace MediaPipeline

/-! ### Stamps -/

theorem stampsDrawn_append (as bs : List Action) :
    stampsDrawn (as ++ bs) = stampsDrawn as + stampsDrawn bs :=
  List.countP_append

theorem stampsDrawn_le_of_prefix {as bs : List Action} (h : as <+: bs) :
    stampsDrawn as ≤ stampsDrawn bs :=
  h.sublist.countP_le

theorem Workspace.nextOwner_next (w : Workspace) (a : Action) :
    (w.next a).nextOwner = w.nextOwner + UInt64.ofNat (stampsDrawn [a]) := by
  cases a with
  | create labels config => rfl
  | copy k => exact (UInt64.add_zero _).symm
  | reset k => rfl
  | build k call =>
      refine Eq.trans ?_ (UInt64.add_zero _).symm
      simp only [next, step, build]
      cases w.pipelines[k]? <;> rfl
  | query k q => exact (UInt64.add_zero _).symm

theorem Workspace.nextOwner_after (w : Workspace) (as : List Action) :
    (w.after as).nextOwner = w.nextOwner + UInt64.ofNat (stampsDrawn as) := by
  induction as generalizing w with
  | nil => exact (UInt64.add_zero _).symm
  | cons a as ih =>
      have hd : stampsDrawn (a :: as) = stampsDrawn [a] + stampsDrawn as :=
        stampsDrawn_append [a] as
      rw [Workspace.after_cons, ih, Workspace.nextOwner_next, hd, UInt64.ofNat_add,
        UInt64.add_assoc]

/-- The next stamp is the number of stamps taken so far. -/
theorem nextOwner_run (as : List Action) : (run as).nextOwner = UInt64.ofNat (stampsDrawn as) := by
  rw [run, Workspace.nextOwner_after]
  exact UInt64.zero_add _

theorem stampsDrawn_concat {as : List Action} {a : Action} (ha : a.drawsStamp) :
    stampsDrawn (as ++ [a]) = stampsDrawn as + 1 := by
  rw [stampsDrawn_append]
  simp only [stampsDrawn, List.countP_singleton, ha, if_true]

theorem eq_of_stampsDrawn_eq {l m : List Action} {a b : Action} (hp : l ++ [a] <+: m ++ [b])
    (ha : a.drawsStamp) (h : stampsDrawn l = stampsDrawn m) : l = m ∧ a = b := by
  obtain heq | hlt := List.prefix_concat_iff.mp hp
  · exact List.append_singleton_inj.mp heq
  · have hle := stampsDrawn_le_of_prefix hlt
    rw [stampsDrawn_concat ha] at hle
    omega

/-- Two moments of one run at which the same stamp is taken are one moment. -/
theorem eq_of_nextOwner_eq {as l m : List Action} {a b : Action} (hd : stampsDrawn as < 2 ^ 64)
    (hl : l ++ [a] <+: as) (hm : m ++ [b] <+: as) (ha : a.drawsStamp) (hb : b.drawsStamp)
    (h : (run l).nextOwner = (run m).nextOwner) : l = m ∧ a = b := by
  have hdl : stampsDrawn l ≤ stampsDrawn as :=
    stampsDrawn_le_of_prefix ((List.prefix_append ..).trans hl)
  have hdm : stampsDrawn m ≤ stampsDrawn as :=
    stampsDrawn_le_of_prefix ((List.prefix_append ..).trans hm)
  have hdraws : stampsDrawn l = stampsDrawn m := by
    have hn := congrArg UInt64.toNat h
    rwa [nextOwner_run, nextOwner_run, UInt64.toNat_ofNat_of_lt' (Nat.lt_of_le_of_lt hdl hd),
      UInt64.toNat_ofNat_of_lt' (Nat.lt_of_le_of_lt hdm hd)] at hn
  obtain hlm | hml := List.prefix_or_prefix_of_prefix hl hm
  · exact eq_of_stampsDrawn_eq hlm ha hdraws
  · obtain ⟨rfl, rfl⟩ := eq_of_stampsDrawn_eq hml hb hdraws.symm
    exact ⟨rfl, rfl⟩

/-- Action `a` gives pipeline `t` a stamp of its own. -/
inductive Stamps (w : Workspace) : Action → Nat → Prop
  | created (labels : LabelGenerator) (config : PipelineConfig) :
    Stamps w (.create labels config) w.pipelines.length
  | emptied {t : Nat} : t < w.pipelines.length → Stamps w (.reset t) t

namespace Stamps

variable {w : Workspace} {a : Action} {t : Nat}

theorem drawsStamp (h : Stamps w a t) : a.drawsStamp := by
  cases h <;> rfl

theorem unique {u : Nat} (ht : Stamps w a t) (hu : Stamps w a u) : t = u := by
  cases ht with
  | created labels config => cases hu; rfl
  | emptied hlt => cases hu; rfl

theorem owner (h : Stamps w a t) :
    ∃ p, (w.next a).pipelines[t]? = some p ∧ p.owner = w.nextOwner ∧ p.nodes = [] := by
  cases h with
  | created labels config => exact ⟨_, (Became.created labels config).getElem?_next, rfl, rfl⟩
  | emptied hlt =>
      exact ⟨_, (Became.emptied (List.getElem?_eq_getElem hlt)).getElem?_next, rfl, rfl⟩

end Stamps

/-! ### Inheritance -/

/-- `q` is `p` at a later moment, never emptied in between. -/
structure Pipeline.Grew (p q : Pipeline) : Prop where
  owner : q.owner = p.owner
  nodes : p.nodes <+: q.nodes

theorem Pipeline.Grew.refl (p : Pipeline) : p.Grew p :=
  ⟨rfl, List.prefix_rfl⟩

theorem Pipeline.Grew.trans {p q r : Pipeline} (hpq : p.Grew q) (hqr : q.Grew r) : p.Grew r :=
  ⟨hqr.owner.trans hpq.owner, hpq.nodes.trans hqr.nodes⟩

theorem BuildCall.grew (call : BuildCall) (p : Pipeline) : p.Grew (call.perform p).2 := by
  obtain ⟨e, he⟩ | ⟨n, q, hq, hadd⟩ := call.perform_cases p
  · rw [he]
    exact .refl p
  · rw [hq]
    exact ⟨hadd.owner, hadd.nodes ▸ List.prefix_append ..⟩

/-- Only a reset of its own takes from a pipeline. -/
theorem Workspace.exists_grew {w : Workspace} {a : Action} {t : Nat} {p : Pipeline}
    (h : w.pipelines[t]? = some p) (ha : a ≠ .reset t) :
    ∃ q, (w.next a).pipelines[t]? = some q ∧ p.Grew q := by
  by_cases ht : a.target? = some t
  · cases a with
    | reset k => cases ht; exact absurd rfl ha
    | build k call =>
        cases ht
        exact ⟨_, (Became.built call h).getElem?_next, call.grew p⟩
    | _ => cases ht
  · exact ⟨p, (Became.kept h ht).getElem?_next, .refl p⟩

theorem Workspace.length_le_next (w : Workspace) (a : Action) :
    w.pipelines.length ≤ (w.next a).pipelines.length := by
  cases a with
  | create labels config => simp [next_create]
  | copy k => exact (List.prefix_append ..).length_le
  | reset k => simp [next_reset]
  | build k call => simp [next_build]
  | query k q => exact Nat.le_refl _

theorem Workspace.length_le_after (w : Workspace) (as : List Action) :
    w.pipelines.length ≤ (w.after as).pipelines.length := by
  induction as generalizing w with
  | nil => exact Nat.le_refl _
  | cons a as ih => exact Nat.le_trans (w.length_le_next a) (ih (w.next a))

/-- After the actions, pipeline `t` is still what `s` was in `w`, or a copy of that, or a copy of a
copy: none of them was emptied before the next was taken from it. -/
inductive Inherits (w : Workspace) (s : Nat) : List Action → Nat → Prop
  | refl : Inherits w s [] s
  | copied {as : List Action} {t : Nat} : Inherits w s as t →
    Inherits w s (as ++ [.copy t]) (w.after as).pipelines.length
  | kept {as : List Action} {a : Action} {t : Nat} : Inherits w s as t → a ≠ .reset t →
    Inherits w s (as ++ [a]) t

namespace Inherits

variable {w : Workspace} {s t : Nat} {as : List Action}

theorem self (h : .reset s ∉ as) : Inherits w s as s := by
  induction as using List.reverseRecOn with
  | nil => exact .refl
  | append_singleton as a ih =>
      rw [List.mem_append, List.mem_singleton, not_or] at h
      exact (ih h.1).kept fun ha => h.2 ha.symm

theorem eq_of_no_copy (h : Inherits w s as t) (hc : ∀ k, .copy k ∉ as) : t = s := by
  induction h with
  | refl => rfl
  | copied _ _ => exact absurd (List.mem_concat_self ..) (hc _)
  | kept _ _ ih => exact ih fun k hk => hc k (List.mem_append_left _ hk)

/-- What is inherited: the stamp, and all nodes there were. -/
theorem exists_grew (h : Inherits w s as t) {p : Pipeline} (hp : w.pipelines[s]? = some p) :
    ∃ q, (w.after as).pipelines[t]? = some q ∧ p.Grew q := by
  induction h with
  | refl => exact ⟨p, hp, .refl p⟩
  | copied _ ih =>
      obtain ⟨q, hq, hg⟩ := ih
      rw [Workspace.after_append]
      exact ⟨q, (Became.copied hq).getElem?_next, hg⟩
  | kept _ ha ih =>
      obtain ⟨q, hq, hg⟩ := ih
      obtain ⟨r, hr, hg'⟩ := Workspace.exists_grew hq ha
      rw [Workspace.after_append]
      exact ⟨r, hr, hg.trans hg'⟩

/-- A pipeline that inherits was not emptied since it exists. -/
theorem length_le_of_reset (h : Inherits w s as t) {x y : List Action}
    (hxy : as = x ++ .reset t :: y) : (w.after x).pipelines.length ≤ t := by
  induction h generalizing y with
  | refl => simp at hxy
  | @copied as t _ _ =>
      -- The copy gets the next number, so that every number given before is below it.
      obtain rfl | ⟨y, b, rfl⟩ := List.eq_nil_or_concat y
      · cases (List.append_singleton_inj.mp hxy).2
      · rw [List.concat_eq_append, ← List.cons_append, ← List.append_assoc] at hxy
        obtain ⟨has, -⟩ := List.append_singleton_inj.mp hxy
        have hle := Workspace.length_le_after (w.after x)
          (.reset (w.after as).pipelines.length :: y)
        rwa [← Workspace.after_append, ← has] at hle
  | kept _ ha ih =>
      obtain rfl | ⟨y, b, rfl⟩ := List.eq_nil_or_concat y
      · exact absurd (List.append_singleton_inj.mp hxy).2 ha
      · rw [List.concat_eq_append, ← List.cons_append, ← List.append_assoc] at hxy
        exact ih (List.append_singleton_inj.mp hxy).1

end Inherits

/-! ### Siblings -/

/-- Action `a`, done after `past`, gave a pipeline its stamp, and `t` inherits from that one. -/
inductive Stems (past : List Action) (a : Action) (since : List Action) (t : Nat) : Prop
  | intro {r : Nat} : Stamps (run past) a r → Inherits ((run past).next a) r since t →
    Stems past a since t

/-- Pipeline `s` after `l` and pipeline `t` after `m` inherit from one pipeline of the run, as it
was when it got its stamp. -/
def Siblings (l : List Action) (s : Nat) (m : List Action) (t : Nat) : Prop :=
  ∃ past a x y, l = past ++ a :: x ∧ m = past ++ a :: y ∧ Stems past a x s ∧ Stems past a y t

theorem Stems.owner {past since : List Action} {a : Action} {t : Nat} {p : Pipeline}
    (h : Stems past a since t) (hp : (run (past ++ a :: since)).pipelines[t]? = some p) :
    p.owner = (run past).nextOwner := by
  obtain @⟨r, hr, ht⟩ := h
  obtain ⟨p₀, hp₀, howner, -⟩ := hr.owner
  obtain ⟨q, hq, hg⟩ := ht.exists_grew hp₀
  rw [run_append, Workspace.after_cons, hq] at hp
  cases hp
  exact hg.owner.trans howner

theorem exists_stems {as : List Action} {t : Nat} {p : Pipeline}
    (h : (run as).pipelines[t]? = some p) :
    ∃ past a since, as = past ++ a :: since ∧ Stems past a since t := by
  induction as using List.reverseRecOn generalizing t p with
  | nil => simp [run, Workspace.empty] at h
  | append_singleton as a ih =>
      rw [run_append] at h
      have hlater : ∀ {k : Nat} {q : Pipeline}, (run as).pipelines[k]? = some q → a ≠ .reset k →
          ∃ past b since, as ++ [a] = past ++ b :: since ∧ Stems past b since k := by
        intro k q hk ha
        obtain ⟨past, b, since, rfl, hr, hi⟩ := ih hk
        exact ⟨past, b, since ++ [a], by simp, .intro hr (hi.kept ha)⟩
      cases Workspace.became_of_next h with
      | created labels config => exact ⟨as, _, [], rfl, .intro (.created labels config) .refl⟩
      | @copied k _ hk =>
          obtain ⟨past, b, since, rfl, hr, hi⟩ := ih hk
          refine ⟨past, b, since ++ [.copy k], by simp, .intro hr ?_⟩
          rw [run_append]
          exact hi.copied
      | emptied ht =>
          obtain ⟨hlt, -⟩ := List.getElem?_eq_some_iff.mp ht
          exact ⟨as, _, [], rfl, .intro (.emptied hlt) .refl⟩
      | built call ht => exact hlater ht (by simp)
      | kept ht hne => exact hlater ht fun ha => hne (ha ▸ rfl)

/-- While the stamps last, pipelines have one stamp exactly if they are siblings. -/
theorem owner_eq_iff_siblings {as l m : List Action} {s t : Nat} {p q : Pipeline}
    (hd : stampsDrawn as < 2 ^ 64) (hl : l <+: as) (hm : m <+: as)
    (hp : (run l).pipelines[s]? = some p) (hq : (run m).pipelines[t]? = some q) :
    p.owner = q.owner ↔ Siblings l s m t := by
  constructor
  · intro h
    obtain ⟨past, a, x, rfl, hs⟩ := exists_stems hp
    obtain ⟨past', a', y, rfl, ht⟩ := exists_stems hq
    rw [hs.owner hp, ht.owner hq] at h
    have hpl : past ++ [a] <+: as := .trans ⟨x, by simp⟩ hl
    have hpm : past' ++ [a'] <+: as := .trans ⟨y, by simp⟩ hm
    obtain @⟨r, hr, hi⟩ := hs
    obtain @⟨r', hr', hi'⟩ := ht
    obtain ⟨rfl, rfl⟩ := eq_of_nextOwner_eq hd hpl hpm hr.drawsStamp hr'.drawsStamp h
    exact ⟨past, a, x, y, rfl, rfl, .intro hr hi, .intro hr' hi'⟩
  · rintro ⟨past, a, x, y, rfl, rfl, hs, ht⟩
    rw [hs.owner hp, ht.owner hq]

theorem Siblings.symm {l m : List Action} {s t : Nat} (h : Siblings l s m t) :
    Siblings m t l s := by
  obtain ⟨past, a, x, y, hl, hm, hs, ht⟩ := h
  exact ⟨past, a, y, x, hm, hl, ht, hs⟩

theorem Siblings.eq_of_no_copy {l m : List Action} {s t : Nat} (h : Siblings l s m t)
    (hl : ∀ k, .copy k ∉ l) (hm : ∀ k, .copy k ∉ m) : s = t := by
  obtain ⟨past, a, x, y, rfl, rfl, ⟨hr, hi⟩, ⟨hr', hi'⟩⟩ := h
  have hx : ∀ k, .copy k ∉ x := fun k hk => hl k (by simp [hk])
  have hy : ∀ k, .copy k ∉ y := fun k hk => hm k (by simp [hk])
  rw [hi.eq_of_no_copy hx, hi'.eq_of_no_copy hy, hr.unique hr']

/-- A pipeline is its own sibling only until it is emptied. -/
theorem Siblings.not_reset {l m since : List Action} {s : Nat} (h : Siblings l s m s)
    (hm : l ++ since = m) (hs : s < (run l).pipelines.length) : .reset s ∉ since := by
  intro hmem
  obtain ⟨u, v, rfl⟩ := List.append_of_mem hmem
  obtain ⟨past, a, x, y, rfl, rfl, -, ⟨-, hi⟩⟩ := h
  have hxy : y = (x ++ u) ++ .reset s :: v := by simpa using hm.symm
  have hle := hi.length_le_of_reset hxy
  have hge := Workspace.length_le_after (run (past ++ a :: x)) u
  rw [run_append, Workspace.after_cons] at hs hge
  rw [Workspace.after_append] at hle
  omega

/-! ### Descent -/

/-- Pipeline `t` of the run was taken from `s`, at any moment. -/
def CopiedFrom (as : List Action) (s t : Nat) : Prop :=
  ∃ l, l ++ [.copy s] <+: as ∧ s < (run l).pipelines.length ∧ t = (run l).pipelines.length

/-- Pipeline `t` of the run was created, and is not a copy. -/
def Created (as : List Action) (t : Nat) : Prop :=
  ∃ l labels config, l ++ [.create labels config] <+: as ∧ t = (run l).pipelines.length

theorem Created.lt_length {as : List Action} {t : Nat} (h : Created as t) :
    t < (run as).pipelines.length := by
  obtain ⟨l, labels, config, ⟨x, rfl⟩, rfl⟩ := h
  have hle := Workspace.length_le_after (run (l ++ [.create labels config])) x
  rw [← run_append] at hle
  refine Nat.lt_of_lt_of_le ?_ hle
  rw [run_concat, Workspace.next_create, List.length_append]
  exact Nat.lt_succ_self _

theorem eq_of_length_eq {l m : List Action} {a b : Action} (hp : l ++ [a] <+: m ++ [b])
    (ha : (run l).pipelines.length < (run (l ++ [a])).pipelines.length)
    (h : (run l).pipelines.length = (run m).pipelines.length) : a = b := by
  obtain heq | ⟨x, rfl⟩ := List.prefix_concat_iff.mp hp
  · exact (List.append_singleton_inj.mp heq).2
  · have hle := Workspace.length_le_after (run (l ++ [a])) x
    rw [← run_append] at hle
    omega

/-- A number is given once. -/
theorem Created.not_copiedFrom {as : List Action} {s t : Nat} (h : Created as t) :
    ¬ CopiedFrom as s t := by
  obtain ⟨l, labels, config, hl, rfl⟩ := h
  rintro ⟨m, hm, hlt, heq⟩
  have hcreate : (run l).pipelines.length <
      (run (l ++ [.create labels config])).pipelines.length := by
    rw [run_concat, Workspace.next_create, List.length_append]
    exact Nat.lt_succ_self _
  have hcopy : (run m).pipelines.length < (run (m ++ [.copy s])).pipelines.length := by
    rw [run_concat, Workspace.next_copy_of_some (List.getElem?_eq_getElem hlt), List.length_append]
    exact Nat.lt_succ_self _
  obtain hlm | hml := List.prefix_or_prefix_of_prefix hl hm
  · cases eq_of_length_eq hlm hcreate heq
  · cases eq_of_length_eq hml hcopy heq.symm

/-- Whoever inherits descends by copying. -/
theorem Inherits.descends {past since : List Action} {s t : Nat} (h : Inherits (run past) s since t)
    (hs : s < (run past).pipelines.length) {as : List Action} (hp : past ++ since <+: as) :
    Relation.ReflTransGen (CopiedFrom as) s t := by
  induction h with
  | refl => exact .refl
  | @copied since t hi ih =>
      rw [← List.append_assoc] at hp
      obtain ⟨q, hq, -⟩ := hi.exists_grew (List.getElem?_eq_getElem hs)
      obtain ⟨hlt, -⟩ := List.getElem?_eq_some_iff.mp hq
      rw [← run_append] at hlt ⊢
      exact (ih ((List.prefix_append ..).trans hp)).tail ⟨past ++ since, hp, hlt, rfl⟩
  | kept _ _ ih =>
      rw [← List.append_assoc] at hp
      exact ih ((List.prefix_append ..).trans hp)

/-- Descendants of a created pipeline are all that can share its stamp. -/
theorem Siblings.descends {as l m : List Action} {s t : Nat} (h : Siblings l s m t) (hl : l <+: as)
    (hm : m <+: as) (ht : Created as t) : Relation.ReflTransGen (CopiedFrom as) t s := by
  obtain ⟨past, a, x, y, rfl, rfl, @⟨r, hr, hi⟩, ⟨hr', hi'⟩⟩ := h
  cases hr.unique hr'
  obtain ⟨p, hp, -⟩ := hr.owner
  obtain ⟨hlt, -⟩ := List.getElem?_eq_some_iff.mp hp
  rw [← run_concat] at hi hi' hlt
  have hrt : Relation.ReflTransGen (CopiedFrom as) r t := hi'.descends hlt (by simpa using hm)
  -- The last link of a chain of copies is a copy, which `t` is not.
  obtain rfl | ⟨k, -, hk⟩ := hrt.cases_tail
  · exact hi.descends hlt (by simpa using hl)
  · exact absurd hk ht.not_copiedFrom

end MediaPipeline
