import MediaPipeline.Proofs.Workspace.Lineage

/-!
What a handle stands for over a run. A building call that succeeds issues a handle; the handle names
the stored node in the pipeline itself and in all that inherit from it, and nothing in pipelines
that are emptied later or that were created on their own. Copies are where handles can go wrong: two
copies of one pipeline have one stamp, so that they issue equal handles for different nodes as soon
as each of them is built upon.
-/

namespace MediaPipeline

/-! ### Look-ups in a pipeline that grows -/

namespace Pipeline

variable {p q : Pipeline} {h : Handle} {n : Node}

/-- What a handle names stays there while the pipeline grows. -/
theorem Grew.get? (hg : p.Grew q) (hn : p.get? h = some n) : q.get? h = some n := by
  obtain ⟨ho, hid, hk⟩ := get?_eq_some_iff.mp hn
  obtain ⟨rest, hrest⟩ := hg.nodes
  obtain ⟨hlt, -⟩ := List.getElem?_eq_some_iff.mp hid
  refine get?_eq_some_iff.mpr ⟨ho.trans hg.owner.symm, ?_, hk⟩
  rw [← hrest, List.getElem?_append_left hlt, hid]

/-- The label of a link through a handle is a matter of the node alone. -/
theorem resolve_congr {link : Link} (hl : link.handle? = some h) (hpq : p.get? h = q.get? h) :
    p.resolve link = q.resolve link := by
  cases link with
  | label l => cases hl
  | node h' =>
      cases hl
      simp only [resolve, hpq]
  | stream h' stream =>
      cases hl
      simp only [resolve, hpq]

end Pipeline

/-! ### Issued handles -/

/-- The call, made on pipeline `s`, returns `h` and stores `n`. -/
structure Workspace.Issues (w : Workspace) (s : Nat) (call : BuildCall) (h : Handle) (n : Node) :
    Prop where
  returned : (w.step (.build s call)).1 = .built (some (.ok h))
  stored : ∃ p q, w.pipelines[s]? = some p ∧ (w.next (.build s call)).pipelines[s]? = some q ∧
    q.nodes = p.nodes ++ [n]

theorem Workspace.step_build_fst {w : Workspace} {s : Nat} {p : Pipeline}
    (hp : w.pipelines[s]? = some p) (call : BuildCall) :
    (w.step (.build s call)).1 = .built (some (call.perform p).1) := by
  simp only [step, build, hp]

/-- An issued handle has the stamp of its pipeline, and the position and the kind of its node. -/
theorem Workspace.issues_iff {w : Workspace} {s : Nat} {call : BuildCall} {h : Handle} {n : Node} :
    w.Issues s call h n ↔ ∃ p, w.pipelines[s]? = some p ∧ h = ⟨p.owner, p.nodes.length, n.kind⟩ ∧
      (call.perform p).1 = .ok h ∧ p.Added (call.perform p).2 n := by
  constructor
  · rintro ⟨hret, p, q, hp, hq, hnodes⟩
    rw [step_build_fst hp] at hret
    rw [(Became.built call hp).getElem?_next] at hq
    cases hq
    obtain ⟨e, he⟩ | ⟨m, q, hq, hadd⟩ := call.perform_cases p
    · rw [he] at hret
      cases hret
    · rw [hq] at hret hnodes
      cases hret
      have hmn : m = n := by
        have hcat := hadd.nodes.symm.trans hnodes
        exact (List.append_singleton_inj.mp hcat).2
      subst hmn
      exact ⟨p, hp, rfl, by rw [hq], by rw [hq]; exact hadd⟩
  · rintro ⟨p, hp, rfl, hret, hadd⟩
    refine ⟨?_, p, _, hp, (Became.built call hp).getElem?_next, hadd.nodes⟩
    rw [step_build_fst hp, hret]

theorem Workspace.Issues.node_eq {w : Workspace} {s : Nat} {call : BuildCall} {h h' : Handle}
    {n m : Node} (hn : w.Issues s call h n) (hm : w.Issues s call h' m) : n = m := by
  obtain ⟨-, p, q, hp, hq, hpq⟩ := hn
  obtain ⟨-, p', q', hp', hq', hpq'⟩ := hm
  cases hp.symm.trans hp'
  cases hq.symm.trans hq'
  exact (List.append_singleton_inj.mp (hpq.symm.trans hpq')).2

/-- A successful building call of a run: what was done before it, and what came of it. -/
structure Issue (as : List Action) where
  past : List Action
  number : Nat
  call : BuildCall
  handle : Handle
  node : Node
  within : past ++ [.build number call] <+: as
  issues : (run past).Issues number call handle node

namespace Issue

/-- The run up to the call and with it. -/
def moment {as : List Action} (i : Issue as) : List Action :=
  i.past ++ [.build i.number i.call]

/-- Number of nodes before the call, the position of the new one. -/
def position {as : List Action} (i : Issue as) : Nat :=
  ((run i.past).pipelines[i.number]?.map fun p => p.nodes.length).getD 0

theorem moment_append {as : List Action} (i : Issue as) (since : List Action) :
    i.moment ++ since = i.past ++ .build i.number i.call :: since :=
  List.append_assoc ..

theorem past_prefix {as : List Action} (i : Issue as) : i.past <+: as :=
  (List.prefix_append ..).trans i.within

theorem exists_pipeline {as : List Action} (i : Issue as) :
    ∃ p, (run i.past).pipelines[i.number]? = some p ∧ i.position = p.nodes.length ∧
      i.handle = ⟨p.owner, p.nodes.length, i.node.kind⟩ := by
  obtain ⟨p, hp, hi, -⟩ := Workspace.issues_iff.mp i.issues
  exact ⟨p, hp, by simp only [position, hp, Option.map_some, Option.getD_some], hi⟩

/-- The same call, in a longer run. -/
def later {as bs : List Action} (i : Issue as) (h : as <+: bs) : Issue bs :=
  { i with within := i.within.trans h }

end Issue

/-- Right after its call, a handle names the node that the call stored. -/
theorem Workspace.Issues.exists_get {w : Workspace} {s : Nat} {call : BuildCall} {h : Handle}
    {n : Node} (hi : w.Issues s call h n) :
    ∃ q, (w.next (.build s call)).pipelines[s]? = some q ∧ q.get? h = some n := by
  obtain ⟨p, hp, rfl, -, hadd⟩ := issues_iff.mp hi
  exact ⟨_, (Became.built call hp).getElem?_next, hadd.get?⟩

/-- Whoever inherits from the pipeline of a call finds its node. -/
theorem Issue.exists_get {as since now : List Action} (i : Issue as)
    (hnow : i.moment ++ since = now) {t : Nat} (ht : Inherits (run i.moment) i.number since t) :
    ∃ p q, (run i.moment).pipelines[i.number]? = some p ∧ (run now).pipelines[t]? = some q ∧
      p.get? i.handle = some i.node ∧ q.get? i.handle = some i.node := by
  obtain ⟨p, hp, hget⟩ := i.issues.exists_get
  rw [← run_concat] at hp
  obtain ⟨q, hq, hg⟩ := ht.exists_grew hp
  rw [← run_append] at hq
  exact ⟨p, q, hp, hnow ▸ hq, hget, hg.get? hget⟩

/-- The node of the call is one of those that pipeline `t` now has: it was stored in `t`, or in one
that `t` goes back to by copying, and no reset came in between. -/
def Issue.HeldBy {as : List Action} (i : Issue as) (t : Nat) : Prop :=
  ∃ since, i.moment ++ since = as ∧ Inherits (run i.moment) i.number since t

/-- Whatever a pipeline has came there by a call, made on it or on one it goes back to. -/
theorem exists_heldBy {as : List Action} {t : Nat} {p : Pipeline}
    (hp : (run as).pipelines[t]? = some p) {k : Nat} {n : Node} (hn : p.nodes[k]? = some n) :
    ∃ i : Issue as, i.HeldBy t ∧ i.position = k ∧ i.node = n := by
  induction as using List.reverseRecOn generalizing t p with
  | nil => simp [run, Workspace.empty] at hp
  | append_singleton as a ih =>
      have hlater : ∀ {t' : Nat} {q : Pipeline}, (run as).pipelines[t']? = some q →
          q.nodes[k]? = some n → (∀ (i : Issue as) since, i.moment ++ since = as →
            Inherits (run i.moment) i.number since t' →
            Inherits (run i.moment) i.number (since ++ [a]) t) →
          ∃ i : Issue (as ++ [a]), i.HeldBy t ∧ i.position = k ∧ i.node = n := by
        intro t' q hq hn hinherits
        obtain ⟨i, ⟨since, hsince, hi⟩, hpos, hnode⟩ := ih hq hn
        have hmoment : i.moment ++ (since ++ [a]) = as ++ [a] := by
          rw [← List.append_assoc, hsince]
        exact ⟨i.later (List.prefix_append ..),
          ⟨since ++ [a], hmoment, hinherits i since hsince hi⟩, hpos, hnode⟩
      rw [run_concat] at hp
      cases Workspace.became_of_next hp with
      | created labels config => simp [Pipeline.create] at hn
      | copied hk =>
          refine hlater hk hn fun i since hsince hi => ?_
          have hrun : run as = (run i.moment).after since := by rw [← run_append, hsince]
          rw [hrun]
          exact hi.copied
      | emptied ht => simp [Pipeline.reset] at hn
      | @built _ p call ht =>
          obtain ⟨e, he⟩ | ⟨m, q, hq, hadd⟩ := call.perform_cases p
          · rw [he] at hn
            exact hlater ht hn fun i since _ hi => hi.kept (by simp)
          · rw [hq, hadd.nodes] at hn
            obtain hn | ⟨rfl, rfl⟩ := getElem?_concat_cases hn
            · exact hlater ht hn fun i since _ hi => hi.kept (by simp)
            · refine ⟨⟨as, t, call, _, n, List.prefix_rfl, Workspace.issues_iff.mpr
                ⟨p, ht, rfl, ?_, ?_⟩⟩, ⟨[], List.append_nil _, .refl⟩, ?_, rfl⟩
              · rw [hq]
              · rw [hq]
                exact hadd
              · simp only [Issue.position, ht, Option.map_some, Option.getD_some]
      | kept ht hne =>
          exact hlater ht hn fun i since _ hi => hi.kept fun ha => hne (ha ▸ rfl)

/-- A pipeline finds what it has by a handle that some call returned. -/
theorem exists_issue {as : List Action} {t : Nat} {p : Pipeline}
    (hp : (run as).pipelines[t]? = some p) {k : Nat} {n : Node} (hn : p.nodes[k]? = some n) :
    ∃ i : Issue as, i.handle = ⟨p.owner, k, n.kind⟩ ∧ i.node = n := by
  obtain ⟨i, ⟨since, hsince, hi⟩, hposition, hnode⟩ := exists_heldBy hp hn
  obtain ⟨-, q, -, hq, -, hget⟩ := i.exists_get hsince hi
  cases hp.symm.trans hq
  obtain ⟨ho, -, -⟩ := Pipeline.get?_eq_some_iff.mp hget
  obtain ⟨r, -, hlength, hhandle⟩ := i.exists_pipeline
  refine ⟨i, ?_, hnode⟩
  rw [← ho, ← hposition, ← hnode, hlength, hhandle]

/-- Handles are equal if and only if they were issued by siblings, for the same position, and for
nodes of one kind. -/
theorem Issue.handle_eq_iff {as : List Action} (hd : stampsDrawn as < 2 ^ 64) (i j : Issue as) :
    i.handle = j.handle ↔ Siblings i.past i.number j.past j.number ∧ i.position = j.position ∧
      i.node.kind = j.node.kind := by
  obtain ⟨p, hp, hpos, hi⟩ := i.exists_pipeline
  obtain ⟨q, hq, hpos', hj⟩ := j.exists_pipeline
  have hsib := owner_eq_iff_siblings hd i.past_prefix j.past_prefix hp hq
  rw [hi, hj, Handle.mk.injEq, hsib, hpos, hpos']

/-! ### Integrity -/

/-- Whatever a handle is found to name, in any pipeline and at any moment after it was issued, is
the node that its call stored. -/
def HandlesName (as : List Action) : Prop :=
  ∀ (i : Issue as) (now : List Action), i.moment <+: now → now <+: as →
    ∀ t m, (run now).ask t (.get i.handle) = some (.node (some m)) → m = i.node

/-- Calls that stored different nodes returned different handles. -/
def HandlesDiffer (as : List Action) : Prop :=
  ∀ i j : Issue as, i.node ≠ j.node → i.handle ≠ j.handle

/-- Sibling pipelines were built upon apart: two calls stored different nodes of one kind at one
position. -/
def Forked (as : List Action) : Prop :=
  ∃ i j : Issue as, Siblings i.past i.number j.past j.number ∧ i.position = j.position ∧
    i.node.kind = j.node.kind ∧ i.node ≠ j.node

theorem Workspace.ask_get_iff {w : Workspace} {t : Nat} {h : Handle} {found : Option Node} :
    w.ask t (.get h) = some (.node found) ↔
      ∃ p, w.pipelines[t]? = some p ∧ p.get? h = found := by
  simp only [ask, Query.answer, Option.map_eq_some_iff, Answer.node.injEq]

theorem HandlesName.eq_of_prefix {as : List Action} (hn : HandlesName as) {i j : Issue as}
    (hij : i.moment <+: j.moment) (h : i.handle = j.handle) : j.node = i.node := by
  obtain ⟨q, hq, hget⟩ := j.issues.exists_get
  refine hn i j.moment hij j.within j.number j.node (Workspace.ask_get_iff.mpr ⟨q, ?_, h ▸ hget⟩)
  rw [Issue.moment, run_concat, hq]

theorem handlesName_iff_handlesDiffer (as : List Action) : HandlesName as ↔ HandlesDiffer as := by
  constructor
  · intro hn i j hne heq
    obtain hij | hji := List.prefix_or_prefix_of_prefix i.within j.within
    · exact hne (hn.eq_of_prefix hij heq).symm
    · exact hne (hn.eq_of_prefix hji heq.symm)
  · intro hdiff i now hi hnow t m hm
    obtain ⟨p, hp, hget⟩ := Workspace.ask_get_iff.mp hm
    obtain ⟨ho, hid, hk⟩ := Pipeline.get?_eq_some_iff.mp hget
    -- Some call stored what is found there, and it returned the very handle that is asked for.
    obtain ⟨j, hj, rfl⟩ := exists_issue hp hid
    refine by_contra fun hne => hdiff (j.later hnow) i hne ?_
    rw [Issue.later, hj, ← ho, hk]

theorem handlesDiffer_iff_not_forked {as : List Action} (hd : stampsDrawn as < 2 ^ 64) :
    HandlesDiffer as ↔ ¬ Forked as := by
  constructor
  · rintro hdiff ⟨i, j, hsib, hpos, hkind, hne⟩
    exact hdiff i j hne ((i.handle_eq_iff hd j).mpr ⟨hsib, hpos, hkind⟩)
  · intro hfork i j hne heq
    obtain ⟨hsib, hpos, hkind⟩ := (i.handle_eq_iff hd j).mp heq
    exact hfork ⟨i, j, hsib, hpos, hkind, hne⟩

theorem Issue.node_eq_of_moment_eq {as : List Action} {i j : Issue as} (h : i.moment = j.moment) :
    i.node = j.node := by
  obtain ⟨hpast, hbuild⟩ := List.append_singleton_inj.mp h
  obtain ⟨hnum, hcall⟩ := Action.build.inj hbuild
  have hissues := j.issues
  rw [← hpast, ← hnum, ← hcall] at hissues
  exact i.issues.node_eq hissues

/-- Of two calls on one pipeline the later finds the node of the earlier, unless the pipeline was
emptied in between. -/
theorem Issue.position_lt {as : List Action} {i j : Issue as} (hij : i.moment <+: j.past)
    (hnum : i.number = j.number) (hsib : Siblings i.past i.number j.past j.number) :
    i.position < j.position := by
  obtain ⟨p, hp, hposi, hhandle⟩ := i.exists_pipeline
  obtain ⟨q, hq, hposj, -⟩ := j.exists_pipeline
  obtain ⟨hlt, -⟩ := List.getElem?_eq_some_iff.mp hp
  obtain ⟨z, hz⟩ := hij
  rw [← hnum] at hsib hq
  have hreset : .reset i.number ∉ z := mt (List.mem_cons_of_mem _)
    (hsib.not_reset ((i.moment_append z).symm.trans hz) hlt)
  obtain ⟨-, q', -, hq', -, hget⟩ := i.exists_get hz (.self hreset)
  cases hq.symm.trans hq'
  obtain ⟨-, hid, -⟩ := Pipeline.get?_eq_some_iff.mp hget
  rw [hhandle] at hid
  have hmore : p.nodes.length < q.nodes.length := (List.getElem?_eq_some_iff.mp hid).1
  omega

/-- Without copies no run is forked: siblings are one pipeline then, and it fills each position once
between two resets. -/
theorem not_forked_of_no_copy {as : List Action} (hc : ∀ k, .copy k ∉ as) : ¬ Forked as := by
  have hearlier : ∀ i j : Issue as, Siblings i.past i.number j.past j.number →
      i.moment <+: j.moment → i.position = j.position → i.node = j.node := by
    intro i j hsib hij hpos
    have hnum : i.number = j.number := hsib.eq_of_no_copy
      (fun k hk => hc k (i.past_prefix.subset hk)) fun k hk => hc k (j.past_prefix.subset hk)
    obtain heq | hlt := List.prefix_concat_iff.mp hij
    · exact Issue.node_eq_of_moment_eq heq
    · exact absurd hpos (Nat.ne_of_lt (Issue.position_lt hlt hnum hsib))
  rintro ⟨i, j, hsib, hpos, hkind, hne⟩
  obtain hij | hji := List.prefix_or_prefix_of_prefix i.within j.within
  · exact hne (hearlier i j hsib hij hpos)
  · exact hne (hearlier j i hsib.symm hji hpos.symm).symm

/-- Handles mean one node each exactly in the runs that do not build upon siblings apart, and so in
all runs that copy nothing. -/
theorem handle_integrity_iff {as : List Action} (hd : stampsDrawn as < 2 ^ 64) :
    (HandlesName as ↔ ¬ Forked as) ∧ (HandlesDiffer as ↔ ¬ Forked as) ∧
    ((∀ k, .copy k ∉ as) → HandlesName as ∧ HandlesDiffer as) := by
  have hdiffer := handlesDiffer_iff_not_forked hd
  have hname := (handlesName_iff_handlesDiffer as).trans hdiffer
  refine ⟨hname, hdiffer, fun hcopy => ?_⟩
  have hfork := not_forked_of_no_copy hcopy
  exact ⟨hname.mpr hfork, hdiffer.mpr hfork⟩

/-- A copy, then one input in each: both are node 0 of the one stamp. -/
def forkedRun : List Action :=
  [.create (.seeded 0) {}, .copy 0, .build 0 (.input "a.mp4"), .build 1 (.input "b.mp4")]

theorem forked_forkedRun : Forked forkedRun := by
  have hstem : ∀ since t, Inherits (run [.create (.seeded 0) {}]) 0 since t →
      Stems [] (.create (.seeded 0) {}) since t := fun since t h => .intro (.created _ _) h
  refine ⟨⟨forkedRun.take 2, 0, .input "a.mp4", ⟨0, 0, .input⟩, .input ⟨"a.mp4", 0⟩, ?_, ?_⟩,
    ⟨forkedRun.take 3, 1, .input "b.mp4", ⟨0, 0, .input⟩, .input ⟨"b.mp4", 0⟩, ?_, ?_⟩,
    ?_, ?_, ?_, ?_⟩
  · exact ⟨_, rfl⟩
  · exact ⟨rfl, _, _, rfl, rfl, rfl⟩
  · exact ⟨_, rfl⟩
  · exact ⟨rfl, _, _, rfl, rfl, rfl⟩
  · refine ⟨[], _, _, _, rfl, rfl, hstem _ _ ?_, hstem _ _ ?_⟩
    · exact .kept .refl nofun
    · exact .kept (.copied .refl) nofun
  · rfl
  · rfl
  · decide

theorem handle_integrity_fails : stampsDrawn forkedRun < 2 ^ 64 ∧
    ¬ HandlesName forkedRun ∧ ¬ HandlesDiffer forkedRun := by
  have hd : stampsDrawn forkedRun < 2 ^ 64 := by decide
  obtain ⟨hname, hdiffer, -⟩ := handle_integrity_iff hd
  exact ⟨hd, fun h => hname.mp h forked_forkedRun, fun h => hdiffer.mp h forked_forkedRun⟩

/-! ### Lifetime -/

/-- Pipelines that are no siblings of the one a handle was issued by do not know it. -/
theorem Issue.ask_get_eq_none {as : List Action} (hd : stampsDrawn as < 2 ^ 64) (i : Issue as)
    {t : Nat} (ht : t < (run as).pipelines.length) (hns : ¬ Siblings i.past i.number as t) :
    (run as).ask t (.get i.handle) = some (.node none) := by
  obtain ⟨p, hp, -, hi⟩ := i.exists_pipeline
  have hq := List.getElem?_eq_getElem ht
  refine Workspace.ask_get_iff.mpr ⟨_, hq, Pipeline.get?_eq_none ?_⟩
  rw [hi]
  exact fun ho => hns ((owner_eq_iff_siblings hd i.past_prefix List.prefix_rfl hp hq).mp ho)

/-- A handle names its node in the pipeline that issued it until that one is emptied, and in copies,
and in copies of copies, until they are; the labels of links through it stay the same there. In a
pipeline that was emptied it never names anything again, nor does it in pipelines that were created
on their own. -/
theorem handle_lifetime {as since : List Action} (hd : stampsDrawn as < 2 ^ 64) (i : Issue as)
    (has : i.moment ++ since = as) :
    (.reset i.number ∉ since →
      (run as).ask i.number (.get i.handle) = some (.node (some i.node))) ∧
    (∀ t, Inherits (run i.moment) i.number since t →
      (run as).ask t (.get i.handle) = some (.node (some i.node)) ∧
      ∀ link : Link, link.handle? = some i.handle →
        (run as).ask t (.resolve link) = (run i.moment).ask i.number (.resolve link)) ∧
    (.reset i.number ∈ since → (run as).ask i.number (.get i.handle) = some (.node none)) ∧
    ∀ u, Created as u → ¬ Relation.ReflTransGen (CopiedFrom as) u i.number →
      (run as).ask u (.get i.handle) = some (.node none) := by
  have hnow : i.past ++ .build i.number i.call :: since = as :=
    (i.moment_append since).symm.trans has
  obtain ⟨p, hp, -⟩ := i.exists_pipeline
  obtain ⟨hlt, -⟩ := List.getElem?_eq_some_iff.mp hp
  have hinherits : ∀ t, Inherits (run i.moment) i.number since t →
      (run as).ask t (.get i.handle) = some (.node (some i.node)) := by
    intro t ht
    obtain ⟨-, q, -, hq, -, hget⟩ := i.exists_get has ht
    exact Workspace.ask_get_iff.mpr ⟨q, hq, hget⟩
  refine ⟨fun hreset => hinherits _ (.self hreset), fun t ht => ⟨hinherits t ht, ?_⟩,
    fun hreset => ?_, fun u hu hdesc => ?_⟩
  · intro link hlink
    obtain ⟨p, q, hp, hq, hpget, hqget⟩ := i.exists_get has ht
    simp only [Workspace.ask, hp, hq, Option.map_some, Query.answer]
    rw [Pipeline.resolve_congr hlink (hqget.trans hpget.symm)]
  · refine i.ask_get_eq_none hd ?_ fun hsib => ?_
    · have hle := Workspace.length_le_after (run i.past) (.build i.number i.call :: since)
      rw [← run_append, hnow] at hle
      omega
    · exact hsib.not_reset hnow hlt (List.mem_cons_of_mem _ hreset)
  · exact i.ask_get_eq_none hd hu.lt_length fun hsib =>
      hdesc (hsib.descends i.past_prefix List.prefix_rfl hu)

/-- A copy outlives the reset of the pipeline it was taken from, which is then built anew. -/
def outlivingRun : List Action :=
  [.create (.seeded 0) {}, .create (.seeded 1) {}, .build 0 (.input "a.mp4"), .copy 0, .reset 0,
    .build 0 (.input "b.mp4")]

def outlivedIssue : Issue outlivingRun where
  past := outlivingRun.take 2
  number := 0
  call := .input "a.mp4"
  handle := ⟨0, 0, .input⟩
  node := .input ⟨"a.mp4", 0⟩
  within := ⟨_, rfl⟩
  issues := ⟨rfl, _, _, rfl, rfl, rfl⟩

theorem handle_lifetime_outlivingRun :
    stampsDrawn outlivingRun < 2 ^ 64 ∧ outlivedIssue.moment ++ outlivingRun.drop 3 = outlivingRun ∧
    (run outlivingRun).ask 2 (.get ⟨0, 0, .input⟩) = some (.node (some (.input ⟨"a.mp4", 0⟩))) ∧
    (run outlivingRun).ask 2 (.resolve (.node ⟨0, 0, .input⟩)) = some (.label (.ok ⟨"0:v"⟩)) ∧
    (run outlivingRun).ask 0 (.get ⟨0, 0, .input⟩) = some (.node none) ∧
    (run outlivingRun).ask 1 (.get ⟨0, 0, .input⟩) = some (.node none) := by
  have hd : stampsDrawn outlivingRun < 2 ^ 64 := by decide
  have hrun : outlivedIssue.moment ++ outlivingRun.drop 3 = outlivingRun := rfl
  obtain ⟨-, hinherits, hreset, hcreated⟩ := handle_lifetime hd outlivedIssue hrun
  have hcopied : Inherits (run outlivedIssue.moment) 0 [.copy 0] 2 := .copied .refl
  have hcopy : Inherits (run outlivedIssue.moment) 0 (outlivingRun.drop 3) 2 :=
    (hcopied.kept (a := .reset 0) nofun).kept (a := .build 0 (.input "b.mp4")) nofun
  obtain ⟨hget, hresolve⟩ := hinherits 2 hcopy
  refine ⟨hd, hrun, hget, (hresolve _ rfl).trans ?_, hreset ?_, hcreated 1 ?_ fun hdesc => ?_⟩
  · rfl
  · exact .tail _ (.head _)
  · exact ⟨outlivingRun.take 1, .seeded 1, {}, ⟨_, rfl⟩, rfl⟩
  · have hzero : Created outlivingRun 0 := ⟨[], .seeded 0, {}, ⟨_, rfl⟩, rfl⟩
    obtain h | ⟨k, -, hk⟩ := hdesc.cases_tail
    · cases h
    · exact hzero.not_copiedFrom hk

end MediaPipeline
