import Mathlib.Data.List.DropRight
import Mathlib.Data.List.Nodup
import Mathlib.Data.List.Perm.Basic
import MediaPipeline.Proofs.CommandLine.Parts
import MediaPipeline.Proofs.Workspace.Handles
import MediaPipeline.Proofs.Workspace.Lives

/-!
Whether generated labels are new. A generator is a random sequence of letters and knows nothing of
the labels that are in use, and no call compares the two. What a pipeline has pads for is known,
though: the labels that its calls have named since the last reset and those that they have drawn.
So a generated label is new unless the sequence repeats itself or the caller has come first; and in
a filter graph one that is not new names several pads.
-/

namespace MediaPipeline

/-! ### Pads of nodes -/

/-- The labels of the pads that a node has in the filter graph. -/
def Node.outputs : Node → List Label
  | filter n => [n.output]
  | global n => n.outputs
  | input _ | option _ | output _ => []

/-- The labels of all pads of a pipeline, in the order of its nodes. -/
def Pipeline.pads (p : Pipeline) : List Label :=
  p.nodes.flatMap Node.outputs

theorem clauses_perm (nodes : List Node) : (clauses nodes).Perm (nodes.filterMap Node.clause?) := by
  have hlast : ∀ ks : List Clause, ks.dropLast ++ ks.getLast?.toList = ks := by
    intro ks
    cases h : ks.getLast? with
    | none => simp [List.getLast?_eq_none_iff.mp h]
    | some k => exact List.dropLast_append_getLast? k h
  have hsplit : ((nodes.filterMap Node.filter?).map FilterNode.clause ++
      (nodes.filterMap Node.global?).map GlobalNode.clause).Perm
        (nodes.filterMap Node.clause?) := by
    induction nodes with
    | nil => exact .nil
    | cons n nodes ih =>
        cases n with
        | filter n => exact ih.cons n.clause
        | global n => exact List.perm_middle.trans (ih.cons n.clause)
        | input n | option n | output n => exact ih
  refine List.Perm.trans ?_ hsplit
  conv_rhs => rw [← hlast ((nodes.filterMap Node.filter?).map FilterNode.clause)]
  rw [clauses, List.append_assoc, List.append_assoc]
  exact List.perm_append_comm.append_left _

/-- The filter graph has the pads of the pipeline, if in another order. -/
theorem Pipeline.clauses_outputs_perm (p : Pipeline) :
    ((clauses p.nodes).flatMap Clause.outputs).Perm p.pads := by
  have houtputs : Node.outputs = fun n => n.clause?.toList.flatMap Clause.outputs := by
    funext n
    cases n <;> simp [Node.outputs, Node.clause?, FilterNode.clause, GlobalNode.clause]
  refine ((clauses_perm p.nodes).flatMap_right Clause.outputs).trans (.of_eq ?_)
  rw [pads, houtputs, List.filterMap_eq_flatMap_toList, List.flatMap_assoc]

/-! ### Named and generated -/

/-- The label at a place of the sequence of a generator. -/
def LabelGenerator.label (g : LabelGenerator) (n : Nat) : Label :=
  (g.take n).2.next.1

theorem LabelGenerator.take_take (g : LabelGenerator) (m n : Nat) :
    ((g.take m).2.take n).1 = (List.range' m n).map g.label := by
  induction n generalizing m with
  | zero => rfl
  | succ n ih =>
      have hnext : (g.take m).2.next.2 = (g.take (m + 1)).2 := by
        rw [take_add, take_succ, take_zero]
      rw [take_succ, hnext, ih, List.range'_succ, List.map_cons, label]

/-- The labels of pads that a call names. -/
def BuildCall.named : BuildCall → List Label
  | filter _ spec => spec.output.toList
  | global _ spec => spec.outputs
  | input _ | output _ _ | option _ => []

theorem BuildCall.Stores.outputs_eq {call : BuildCall} {p : Pipeline} {n : Node}
    (h : call.Stores p n) : n.outputs = call.named ++ call.generated n := by
  cases h with
  | input _ | option _ _ | output _ _ _ => rfl
  | @filter _ spec _ _ _ _ _ =>
      cases ho : spec.output <;> simp [Node.outputs, named, generated, ho, Pipeline.outputLabel]
  | @global _ spec _ _ _ =>
      cases ho : spec.outputs <;> simp [Node.outputs, named, generated, ho, Pipeline.outputLabels]

/-- A call that names a label draws none. -/
theorem BuildCall.named_eq_nil_or (call : BuildCall) : call.named = [] ∨ call.reserved = 0 := by
  cases call with
  | input _ | output _ _ | option _ => exact .inl rfl
  | filter _ spec => cases ho : spec.output <;> simp [named, reserved, ho]
  | global _ spec => cases ho : spec.outputs <;> simp [named, reserved, ho]

/-- The labels of pads that a request named, if it added a node. -/
def Transition.named (t : Transition) : List Label :=
  match t.request, t.reply with
  | .build call, .built (some (.ok _)) => call.named
  | _, _ => []

def Request.isReset : Request → Bool
  | reset _ => true
  | _ => false

/-- The pads that a request adds. -/
theorem Request.pads_on (p : Pipeline) {r : Request} (hr : r.isReset = false) :
    (r.on p).after.pads = p.pads ++ ((r.on p).named ++ (r.on p).generated) := by
  cases r with
  | reset owner => cases hr
  | query q => simp [on, Transition.named, Transition.generated]
  | build call =>
      obtain ⟨e, he⟩ | ⟨n, hstores, hn⟩ := call.fails_or_stores p
      · simp [on, Transition.named, Transition.generated, he]
      · have hadd := call.added_result p n
        simp [on, Transition.named, Transition.generated, hn, hadd.get?, Pipeline.pads, hadd.nodes,
          hstores.outputs_eq]

namespace Pipeline

variable {p : Pipeline}

/-- The labels of pads that some requests have named. -/
def named (p : Pipeline) (rs : List Request) : List Label :=
  (p.trace rs).flatMap Transition.named

theorem pads_after {rs : List Request} (hrs : ∀ r ∈ rs, r.isReset = false) :
    (p.after rs).pads = p.pads ++ (p.trace rs).flatMap fun t => t.named ++ t.generated := by
  induction rs generalizing p with
  | nil => simp
  | cons r rs ih =>
      obtain ⟨hr, hrs⟩ := List.forall_mem_cons.mp hrs
      rw [after_cons, ih hrs, Request.pads_on p hr, trace_cons, List.flatMap_cons,
        List.append_assoc]

/-! ### Since the last reset -/

/-- The requests up to the last reset. -/
def untilReset (rs : List Request) : List Request :=
  rs.rdropWhile fun r => !r.isReset

/-- The requests since the last reset. -/
def sinceReset (rs : List Request) : List Request :=
  rs.rtakeWhile fun r => !r.isReset

theorem untilReset_append_sinceReset (rs : List Request) : untilReset rs ++ sinceReset rs = rs :=
  List.rdropWhile_append_rtakeWhile

theorem pads_after_untilReset (hp : p.nodes = []) (rs : List Request) :
    (p.after (untilReset rs)).pads = [] := by
  by_cases hne : untilReset rs = []
  · simp [hne, pads, hp]
  -- The last of these requests is a reset, and that leaves no nodes.
  · have hlast : ¬ (!((untilReset rs).getLast hne).isReset) = true :=
      List.rdropWhile_last_not (fun r : Request => !r.isReset) rs hne
    rw [← List.dropLast_concat_getLast hne, after_append]
    generalize (untilReset rs).getLast hne = r at hlast ⊢
    cases r with
    | reset owner => rfl
    | build call | query q => exact absurd rfl hlast

/-- The pads of a pipeline have the labels that were named since the last reset and those that were
drawn since then. -/
theorem pads_perm (hp : p.nodes = []) (rs : List Request) :
    (p.after rs).pads.Perm ((p.after (untilReset rs)).named (sinceReset rs) ++
      (List.range' (p.labelsDrawn (untilReset rs))
        ((p.after (untilReset rs)).labelsDrawn (sinceReset rs))).map p.labels.label) := by
  have hsince : ∀ r ∈ sinceReset rs, r.isReset = false := fun r hr => by
    simpa using List.mem_rtakeWhile_imp hr
  obtain ⟨-, hlabels⟩ := p.generated_eq_take (untilReset rs)
  obtain ⟨hgenerated, -⟩ := (p.after (untilReset rs)).generated_eq_take (sinceReset rs)
  rw [hlabels, LabelGenerator.take_take] at hgenerated
  rw [← hgenerated]
  have hpads := pads_after (p := p.after (untilReset rs)) hsince
  rw [← after_append, untilReset_append_sinceReset, pads_after_untilReset hp,
    List.nil_append] at hpads
  rw [hpads]
  exact (List.flatMap_append_perm _ _ _).symm

theorem mem_pads_iff (hp : p.nodes = []) {rs : List Request} {l : Label} :
    l ∈ (p.after rs).pads ↔ l ∈ (p.after (untilReset rs)).named (sinceReset rs) ∨
      ∃ e, p.labelsDrawn (untilReset rs) ≤ e ∧ e < p.labelsDrawn rs ∧ p.labels.label e = l := by
  have hdrawn : p.labelsDrawn rs =
      p.labelsDrawn (untilReset rs) + (p.after (untilReset rs)).labelsDrawn (sinceReset rs) := by
    rw [← labelsDrawn_append, untilReset_append_sinceReset]
  rw [(pads_perm hp rs).mem_iff, List.mem_append, List.mem_map, hdrawn]
  simp only [List.mem_range'_1, and_assoc]

end Pipeline

theorem Life.start_nodes {as : List Action} {t : Nat} {start : Pipeline} {rs : List Request}
    (h : Life as t start rs) : start.nodes = [] := by
  induction h with
  | created _ _ _ => rfl
  | copied _ ih | kept _ _ ih => exact ih

/-! ### Freshness -/

/-- The labels that the call draws differ from each other and from those of all pads that are
there. -/
def Issue.Fresh {as : List Action} (i : Issue as) : Prop :=
  (i.call.generated i.node).Nodup ∧ ∀ p, (run i.past).pipelines[i.number]? = some p →
    ∀ l ∈ i.call.generated i.node, ∀ n ∈ p.nodes, l ∉ n.outputs

theorem Issue.exists_stores {as : List Action} (i : Issue as) :
    ∃ p, (run i.past).pipelines[i.number]? = some p ∧ i.call.Stores p i.node ∧
      ∃ q, (run i.moment).pipelines[i.number]? = some q ∧ q.nodes = p.nodes ++ [i.node] := by
  obtain ⟨p, hp, -, -, hadd⟩ := Workspace.issues_iff.mp i.issues
  refine ⟨p, hp, BuildCall.stores_of_added hadd, _, ?_, hadd.nodes⟩
  rw [moment, run_concat, (Became.built i.call hp).getElem?_next]

/-- What is added to a list is in it once if nothing is added twice or was there before. -/
theorem forall_count_append_eq_one_iff {α : Type} [DecidableEq α] {xs ys : List α} :
    (∀ y ∈ ys, (xs ++ ys).count y = 1) ↔ ys.Nodup ∧ ∀ y ∈ ys, y ∉ xs := by
  simp only [List.count_append]
  constructor
  · intro h
    refine ⟨List.nodup_iff_count_le_one.mpr fun y => ?_, fun y hy hx => ?_⟩
    · by_cases hy : y ∈ ys
      · have hcount := h y hy
        omega
      · simp [List.count_eq_zero.mpr hy]
    · have hcount := h y hy
      have hxs := List.count_pos_iff.mpr hx
      have hys := List.count_pos_iff.mpr hy
      omega
  · rintro ⟨hnodup, hnew⟩ y hy
    rw [List.count_eq_zero.mpr (hnew y hy), List.count_eq_one_of_mem hnodup hy]

/-- What a sequence gives at `r` places from `k` on is new if none of it is in `xs` and none of it
comes again among what the sequence gives from `m` on. -/
theorem map_range'_new_iff {α : Type} {f : Nat → α} {xs : List α} {m k r : Nat} (hmk : m ≤ k) :
    (((List.range' k r).map f).Nodup ∧
      ∀ y ∈ (List.range' k r).map f, ¬ (y ∈ xs ∨ ∃ e, m ≤ e ∧ e < k ∧ f e = y)) ↔
    ∀ d, k ≤ d → d < k + r → (∀ e, m ≤ e → e < k + r → f e = f d → e = d) ∧ f d ∉ xs := by
  simp only [List.nodup_map_iff_inj_on List.nodup_range', List.mem_range'_1, List.forall_mem_map,
    and_imp, not_or, not_exists, not_and]
  constructor
  · rintro ⟨hinj, hnew⟩ d hkd hdr
    obtain ⟨hxs, hbefore⟩ := hnew d hkd hdr
    refine ⟨fun e hme her hed => ?_, hxs⟩
    by_cases hek : e < k
    · exact absurd hed (hbefore e hme hek)
    · exact hinj e (Nat.le_of_not_lt hek) her d hkd hdr hed
  · intro h
    refine ⟨fun e hke her d hkd hdr hed => (h d hkd hdr).1 e (hmk.trans hke) her hed,
      fun d hkd hdr => ⟨(h d hkd hdr).2, fun e hme hek hed => ?_⟩⟩
    have heq := (h d hkd hdr).1 e hme (by omega) hed
    omega

/-- A call that succeeds at the end of a life is one of the run that it ends. -/
theorem Life.exists_issue {past : List Action} {t : Nat} {start : Pipeline} {rs : List Request}
    (h : Life past t start rs) (call : BuildCall) {handle : Handle}
    (hcall : (call.perform (start.after rs)).1 = .ok handle) :
    ∃ i : Issue (past ++ [.build t call]), i.past = past ∧ i.number = t ∧ i.call = call ∧
      (run i.moment).pipelines[i.number]? = some (call.perform (start.after rs)).2 := by
  obtain ⟨e, he⟩ | ⟨n, q, hq, hadd⟩ := call.perform_cases (start.after rs)
  · rw [he] at hcall
    cases hcall
  · have hadd' : (start.after rs).Added (call.perform (start.after rs)).2 n := hq ▸ hadd
    have hissues : (run past).Issues t call _ n :=
      Workspace.issues_iff.mpr ⟨_, h.getElem?, rfl, by rw [hq], hadd'⟩
    refine ⟨⟨past, t, call, _, n, List.prefix_rfl, hissues⟩, rfl, rfl, rfl, ?_⟩
    rw [Issue.moment, run_concat, (Became.built call h.getElem?).getElem?_next]

namespace Issue

variable {as : List Action} {start : Pipeline} {rs : List Request}

/-- The labels that a call draws are the next ones of the generator that its pipeline began with. -/
theorem generated_eq_map_label (i : Issue as) (h : Life i.past i.number start rs) :
    i.call.generated i.node =
      (List.range' (start.labelsDrawn rs) i.call.reserved).map start.labels.label := by
  obtain ⟨p, hp, hstores, -⟩ := i.exists_stores
  obtain rfl : p = start.after rs := Option.some.inj (hp.symm.trans h.getElem?)
  obtain ⟨-, hlabels⟩ := start.generated_eq_take rs
  rw [hstores.generated_eq, hlabels, LabelGenerator.take_take]

theorem fresh_iff_pads (i : Issue as) {p : Pipeline}
    (hp : (run i.past).pipelines[i.number]? = some p) :
    i.Fresh ↔ (i.call.generated i.node).Nodup ∧ ∀ l ∈ i.call.generated i.node, l ∉ p.pads := by
  simp [Fresh, hp, Pipeline.pads]

theorem fresh_iff_labels (i : Issue as) (h : Life i.past i.number start rs) :
    i.Fresh ↔ ∀ d, start.labelsDrawn rs ≤ d → d < start.labelsDrawn rs + i.call.reserved →
      (∀ e, start.labelsDrawn (Pipeline.untilReset rs) ≤ e →
        e < start.labelsDrawn rs + i.call.reserved →
        start.labels.label e = start.labels.label d → e = d) ∧
      start.labels.label d ∉
        (start.after (Pipeline.untilReset rs)).named (Pipeline.sinceReset rs) := by
  have hle : start.labelsDrawn (Pipeline.untilReset rs) ≤ start.labelsDrawn rs := by
    conv_rhs => rw [← Pipeline.untilReset_append_sinceReset rs, Pipeline.labelsDrawn_append]
    exact Nat.le_add_right ..
  rw [i.fresh_iff_pads h.getElem?, i.generated_eq_map_label h, ← map_range'_new_iff hle]
  simp only [Pipeline.mem_pads_iff h.start_nodes]

/-- Labels are fresh exactly if each of them is the sink of one statement, and only once there. -/
theorem fresh_iff_count (i : Issue as) {q : Pipeline}
    (hq : (run i.moment).pipelines[i.number]? = some q) :
    i.Fresh ↔ ∀ l ∈ i.call.generated i.node,
      ((clauses q.nodes).flatMap Clause.outputs).count l = 1 := by
  obtain ⟨p, hp, hstores, _, hq', hnodes⟩ := i.exists_stores
  cases hq.symm.trans hq'
  have hpads : q.pads = p.pads ++ (i.call.named ++ i.call.generated i.node) := by
    rw [Pipeline.pads, hnodes, List.flatMap_append, List.flatMap_singleton, hstores.outputs_eq,
      Pipeline.pads]
  rw [i.fresh_iff_pads hp, ← forall_count_append_eq_one_iff]
  refine forall₂_congr fun l hl => ?_
  rw [q.clauses_outputs_perm.count_eq, hpads]
  -- A call that draws labels has named none.
  obtain hnamed | hreserved := i.call.named_eq_nil_or
  · rw [hnamed, List.nil_append]
  · rw [hstores.generated_eq, hreserved] at hl
    cases hl

end Issue

/-- The labels that a call draws are the next ones of the seed, and they are fresh exactly if the
sequence of the seed does not repeat itself among them and the labels drawn since the last reset, and
none of them was named since then. Where there is a filter, so that the nodes compile to a command
with a filter graph, they are fresh exactly if each of them names one pad of that graph. -/
theorem fresh_iff {as : List Action} (i : Issue as) :
    (∀ start rs seed g, Life i.past i.number start rs → start.labels = .seeded seed →
      g = LabelGenerator.seeded seed →
      i.call.generated i.node = (List.range' (start.labelsDrawn rs) i.call.reserved).map g.label ∧
      (i.Fresh ↔ ∀ d, start.labelsDrawn rs ≤ d → d < start.labelsDrawn rs + i.call.reserved →
        (∀ e, start.labelsDrawn (Pipeline.untilReset rs) ≤ e →
          e < start.labelsDrawn rs + i.call.reserved → g.label e = g.label d → e = d) ∧
        g.label d ∉ (start.after (Pipeline.untilReset rs)).named (Pipeline.sinceReset rs))) ∧
    ∀ q, (run i.moment).pipelines[i.number]? = some q → q.nodes.filterMap Node.filter? ≠ [] →
      let c := GraphCommand.ofNodes q.nodes
      (∀ program, compile q.nodes program = c.text program) ∧
      (i.Fresh ↔ ∀ l ∈ i.call.generated i.node,
        (c.statements.flatMap Clause.outputs).count l = 1) := by
  constructor
  · rintro start rs seed g h hseed rfl
    rw [← hseed]
    exact ⟨i.generated_eq_map_label h, i.fresh_iff_labels h⟩
  · exact fun q hq hfilter => ⟨GraphCommand.compile_eq_text hfilter, i.fresh_iff_count hq⟩

/-- The seed gives the same label twice in a row, and one concatenation draws both. -/
def doubledRun : List Action :=
  [.create (.seeded 19605097) {}, .build 0 (.input "a.mp4"),
    .build 0 (.filter [.node ⟨0, 0, .input⟩]
      { name := "scale", params := [("w", "320")], output := some ⟨"small"⟩ }),
    .build 0 (.global [.node ⟨0, 1, .filter⟩, .stream ⟨0, 0, .input⟩ .audio] (.concat 1 1 1))]

/-- A label is named, and after a reset the generator gives it. -/
def resetRun : List Action :=
  [.create (.seeded 7) {}, .build 0 (.input "a.mp4"),
    .build 0 (.filter [.node ⟨0, 0, .input⟩]
      { name := "scale", params := [("w", "640")], output := some ⟨"tbhpd"⟩ }),
    .reset 0, .build 0 (.input "b.mp4"),
    .build 0 (.filter [.node ⟨1, 0, .input⟩]
      { name := "scale", params := [("w", "320")], output := some ⟨"small"⟩ }),
    .build 0 (.global [.node ⟨1, 1, .filter⟩, .stream ⟨1, 0, .input⟩ .audio] (.concat 1 1 1))]

theorem fresh_iff_doubledRun_resetRun :
    (∃ (i : Issue doubledRun) (q : Pipeline), (run i.moment).pipelines[i.number]? = some q ∧
      i.call.generated i.node = [⟨"tfqOC"⟩, ⟨"tfqOC"⟩] ∧ ¬ i.Fresh ∧
      compile q.nodes "ffmpeg" = "ffmpeg -i a.mp4  -y -filter_complex \"" ++
        "[small][0:a] concat=n=1:v=1:a=1 [tfqOC][tfqOC];[0:v] scale=w=320 [small]\"") ∧
    ∃ (i : Issue resetRun) (q : Pipeline), (run i.moment).pipelines[i.number]? = some q ∧
      i.call.generated i.node = [⟨"tbhpd"⟩, ⟨"gYBFo"⟩] ∧ i.Fresh ∧
      compile q.nodes "ffmpeg" = "ffmpeg -i b.mp4  -y -filter_complex \"" ++
        "[small][0:a] concat=n=1:v=1:a=1 [tbhpd][gYBFo];[0:v] scale=w=320 [small]\"" := by
  constructor
  · have hlife : Life (doubledRun.take 3) 0 (.create 0 (.seeded 19605097) {}) _ :=
      (Life.created [] (.seeded 19605097) {}).later (doubledRun.take 3).tail
    obtain ⟨i, hpast, hnumber, hcall, hq⟩ := hlife.exists_issue
      (.global [.node ⟨0, 1, .filter⟩, .stream ⟨0, 0, .input⟩ .audio] (.concat 1 1 1)) rfl
    generalize hmade : BuildCall.perform _ _ = made at hq
    have hnodes : made.2.nodes =
        [.input ⟨"a.mp4", 0⟩, .filter ⟨[⟨"0:v"⟩], "scale", [("w", "320")], ⟨"small"⟩⟩,
          .global ⟨[⟨"small"⟩, ⟨"0:a"⟩], [⟨"tfqOC"⟩, ⟨"tfqOC"⟩], "concat=n=1:v=1:a=1"⟩] := by
      rw [← hmade]
      decide +kernel
    obtain ⟨hseed, hgraph⟩ := fresh_iff i
    obtain ⟨hlabels, -⟩ := hseed _ _ _ _ (by rw [hpast, hnumber]; exact hlife) rfl rfl
    obtain ⟨htext, hcount⟩ := hgraph _ hq (by rw [hnodes]; decide)
    have hgenerated : i.call.generated i.node = [⟨"tfqOC"⟩, ⟨"tfqOC"⟩] := by
      rw [hlabels, hcall]
      decide +kernel
    rw [hgenerated, hnodes] at hcount
    exact ⟨i, _, hq, hgenerated, fun h => absurd (hcount.mp h) (by decide),
      (htext "ffmpeg").trans (by rw [hnodes]; decide)⟩
  · have hlife : Life (resetRun.take 6) 0 (.create 0 (.seeded 7) {}) _ :=
      (Life.created [] (.seeded 7) {}).later (resetRun.take 6).tail
    obtain ⟨i, hpast, hnumber, hcall, hq⟩ := hlife.exists_issue
      (.global [.node ⟨1, 1, .filter⟩, .stream ⟨1, 0, .input⟩ .audio] (.concat 1 1 1)) rfl
    generalize hmade : BuildCall.perform _ _ = made at hq
    have hnodes : made.2.nodes =
        [.input ⟨"b.mp4", 0⟩, .filter ⟨[⟨"0:v"⟩], "scale", [("w", "320")], ⟨"small"⟩⟩,
          .global ⟨[⟨"small"⟩, ⟨"0:a"⟩], [⟨"tbhpd"⟩, ⟨"gYBFo"⟩], "concat=n=1:v=1:a=1"⟩] := by
      rw [← hmade]
      decide +kernel
    obtain ⟨hseed, hgraph⟩ := fresh_iff i
    obtain ⟨hlabels, -⟩ := hseed _ _ _ _ (by rw [hpast, hnumber]; exact hlife) rfl rfl
    obtain ⟨htext, hcount⟩ := hgraph _ hq (by rw [hnodes]; decide)
    have hgenerated : i.call.generated i.node = [⟨"tbhpd"⟩, ⟨"gYBFo"⟩] := by
      rw [hlabels, hcall]
      decide +kernel
    rw [hgenerated, hnodes] at hcount
    exact ⟨i, _, hq, hgenerated, hcount.mpr (by decide),
      (htext "ffmpeg").trans (by rw [hnodes]; decide)⟩

end MediaPipeline
