import MediaPipeline.Proofs.CommandLine.Groups
import MediaPipeline.Proofs.Pipeline.Dependence
import MediaPipeline.Proofs.Pipeline.Labels
import MediaPipeline.Proofs.Workspace.Handles

/-!
The order of building calls. Calls that store nodes of different kinds and are fed by what was there
before both can be made in either order: neither sees what the other stored, and a command renders
the nodes of each kind in a row, so that it does not show how the kinds are mixed.
-/

namespace MediaPipeline

/-! ### Nodes by kind -/

/-- The nodes of each kind are the same, in the same order. -/
def SameGroups (xs ys : List Node) : Prop :=
  ∀ k : NodeKind, xs.filter (fun n => n.kind = k) = ys.filter (fun n => n.kind = k)

namespace SameGroups

variable {xs ys : List Node}

theorem ofNodes_eq (h : SameGroups xs ys) : Partition.ofNodes xs = Partition.ofNodes ys := by
  refine Partition.group_injective (funext fun k => ?_)
  rw [Partition.group_ofNodes, Partition.group_ofNodes, h k]

/-- A command shows the nodes of each kind and not how the kinds are mixed. -/
theorem compile_eq (h : SameGroups xs ys) (program : String) :
    compile xs program = compile ys program := by
  simp only [compile, h.ofNodes_eq]

theorem swap (ns : List Node) {ms ls : List Node} (h : ∀ m ∈ ms, ∀ l ∈ ls, m.kind ≠ l.kind) :
    SameGroups (ns ++ ms ++ ls) (ns ++ ls ++ ms) := by
  intro k
  simp only [List.filter_append, List.append_assoc, List.append_cancel_left_eq]
  -- At most one of the two parts has nodes of the kind.
  by_cases hk : ∃ m ∈ ms, m.kind = k
  · obtain ⟨m, hm, rfl⟩ := hk
    have hls : ls.filter (fun n => n.kind = m.kind) = [] := by
      rw [List.filter_eq_nil_iff]
      exact fun l hl heq => h m hm l hl (of_decide_eq_true heq).symm
    rw [hls, List.append_nil, List.nil_append]
  · have hms : ms.filter (fun n => n.kind = k) = [] := by
      rw [List.filter_eq_nil_iff]
      exact fun m hm heq => hk ⟨m, hm, of_decide_eq_true heq⟩
    rw [hms, List.append_nil, List.nil_append]

end SameGroups

/-! ### Two calls -/

namespace BuildCall

/-- What comes of a call: its error, or the node that the returned handle leads to. -/
def outcome (p : Pipeline) (call : BuildCall) : Except GraphError (Option Node) :=
  (call.perform p).1.map (call.perform p).2.get?

/-- Number of labels that a call takes from the generator of `p`. -/
def labelsDrawn (p : Pipeline) (call : BuildCall) : Nat :=
  (Request.on p (.build call)).labelsDrawn

/-- The node that a call adds to `p`, if it succeeds. -/
def added (p : Pipeline) (call : BuildCall) : List Node :=
  match call.checks p with
  | .error _ => []
  | .ok resolved => [call.node p resolved]

variable {c d : BuildCall} {p : Pipeline}

theorem outcome_eq (call : BuildCall) (p : Pipeline) :
    call.outcome p = (call.checks p).map fun resolved => some (call.node p resolved) := by
  rw [outcome, perform_eq]
  cases call.checks p with
  | error e => rfl
  | ok resolved =>
      have hget := (call.added_result p (call.node p resolved)).get?
      rw [kind_node] at hget
      simp only [Except.map, hget]

theorem labelsDrawn_eq (call : BuildCall) (p : Pipeline) :
    call.labelsDrawn p = (call.added p).length * call.reserved := by
  rw [labelsDrawn, Request.on, perform_eq, added]
  cases call.checks p <;> simp [Transition.labelsDrawn]

theorem nodes_perform (call : BuildCall) (p : Pipeline) :
    (call.perform p).2.nodes = p.nodes ++ call.added p := by
  rw [perform_eq, added]
  cases call.checks p with
  | error e => exact (List.append_nil _).symm
  | ok resolved => exact (call.added_result p _).nodes

theorem inputCount_perform (call : BuildCall) (p : Pipeline) :
    (call.perform p).2.inputCount =
      p.inputCount + if call.kind = .input then (call.added p).length else 0 := by
  rw [perform_eq, added]
  cases call.checks p with
  | error e => simp
  | ok resolved =>
      simp only [(call.added_result p _).inputCount, kind_node, List.length_singleton]
      split <;> rfl

theorem labels_perform (call : BuildCall) (p : Pipeline) :
    (call.perform p).2.labels = (p.labels.take (call.labelsDrawn p)).2 :=
  (Request.generated_on p (.build call)).2

theorem kind_of_mem_added {n : Node} (h : n ∈ c.added p) : n.kind = c.kind := by
  rw [added] at h
  cases hc : c.checks p with
  | error e => simp [hc] at h
  | ok resolved =>
      simp only [hc, List.mem_singleton] at h
      rw [h, kind_node]

/-- All that a call is fed by through handles is there. -/
def Fed (p : Pipeline) (call : BuildCall) : Prop :=
  ∀ r ∈ call.handles, (p.get? r).isSome

instance (call : BuildCall) (p : Pipeline) : Decidable (call.Fed p) :=
  inferInstanceAs (Decidable (∀ r ∈ call.handles, (p.get? r).isSome))

theorem checks_perform (hc : c.Fed p) (d : BuildCall) :
    c.checks (d.perform p).2 = c.checks p := by
  have hget : ∀ r ∈ c.handles, (d.perform p).2.get? (r.restamp id) = p.get? r := by
    intro r hr
    obtain ⟨n, hn⟩ := Option.isSome_iff_exists.mp (hc r hr)
    rw [hn]
    exact (d.grew p).get? hn
  rw [← checks_restamp hget, restamp_id]

/-- A call stores the same after another one, if that stores a node of another kind and the two do
not both take labels. -/
theorem node_perform (hkind : c.kind ≠ d.kind) (hlabels : c.labelsDrawn p = 0 ∨ d.labelsDrawn p = 0)
    {resolved : List Label} (hresolved : c.checks p = .ok resolved) :
    c.node (d.perform p).2 resolved = c.node p resolved := by
  have hcount : c.kind = .input → (d.perform p).2.inputCount = p.inputCount := fun hc => by
    rw [inputCount_perform, if_neg fun hd => hkind (hc.trans hd.symm), Nat.add_zero]
  have hnext : c.reserved ≠ 0 → (d.perform p).2.labels = p.labels := fun hreserved => by
    have hdrawn : c.labelsDrawn p = c.reserved := by simp [labelsDrawn_eq, added, hresolved]
    have hd : d.labelsDrawn p = 0 := hlabels.resolve_left (hdrawn ▸ hreserved)
    rw [labels_perform, hd, LabelGenerator.take_zero]
  rw [← node_restamp (σ := id) hcount hnext, restamp_id]

theorem outcome_perform (hkind : c.kind ≠ d.kind) (hc : c.Fed p)
    (hlabels : c.labelsDrawn p = 0 ∨ d.labelsDrawn p = 0) :
    c.outcome (d.perform p).2 = c.outcome p := by
  rw [outcome_eq, outcome_eq, checks_perform hc]
  cases h : c.checks p with
  | error e => rfl
  | ok resolved => simp only [Except.map, node_perform hkind hlabels h]

theorem added_perform (hkind : c.kind ≠ d.kind) (hc : c.Fed p)
    (hlabels : c.labelsDrawn p = 0 ∨ d.labelsDrawn p = 0) :
    c.added (d.perform p).2 = c.added p := by
  rw [added, added, checks_perform hc]
  cases h : c.checks p with
  | error e => rfl
  | ok resolved => simp only [node_perform hkind hlabels h]

end BuildCall

/-- A command that is asked for through an output that is there compiles all nodes. -/
theorem Pipeline.command_of_output {p : Pipeline} {root : Handle} {n : OutputNode}
    (h : p.get? root = some (.output n)) :
    p.command root = .ok (compile p.nodes p.config.program) := by
  simp only [command, h]

theorem BuildCall.config_perform (call : BuildCall) (p : Pipeline) :
    (call.perform p).2.config = p.config := by
  rw [perform_eq]
  cases call.checks p <;> rfl

/-- Two calls that store nodes of different kinds, are fed by what is there already and do not both
take labels have the same outcomes in either order, and they leave the same number of inputs, the
same labels to come, the same nodes of each kind and the same command. No command tells apart node
lists that have the same nodes of each kind. -/
theorem building_calls_commute :
    (∀ (p : Pipeline) (c d : BuildCall), c.kind ≠ d.kind → c.Fed p → d.Fed p →
      c.labelsDrawn p = 0 ∨ d.labelsDrawn p = 0 →
      (c.outcome (d.perform p).2 = c.outcome p ∧ d.outcome (c.perform p).2 = d.outcome p) ∧
      let q := p.after [.build c, .build d]
      let r := p.after [.build d, .build c]
      q.inputCount = r.inputCount ∧ q.labels = r.labels ∧
        Partition.ofNodes q.nodes = Partition.ofNodes r.nodes ∧
        ∀ root n, p.get? root = some (.output n) →
          ∃ text, q.command root = .ok text ∧ r.command root = .ok text) ∧
    ∀ xs ys, SameGroups xs ys → ∀ program, compile xs program = compile ys program := by
  refine ⟨fun p c d hkind hc hd hlabels => ⟨?_, ?_⟩, fun xs ys h => h.compile_eq⟩
  · exact ⟨BuildCall.outcome_perform hkind hc hlabels,
      BuildCall.outcome_perform hkind.symm hd hlabels.symm⟩
  have hadded := BuildCall.added_perform hkind hc hlabels
  have hadded' := BuildCall.added_perform hkind.symm hd hlabels.symm
  intro q r
  have hgroups : SameGroups q.nodes r.nodes := by
    simp only [q, r, Pipeline.after_cons, Pipeline.after_nil, Request.on, BuildCall.nodes_perform,
      hadded, hadded']
    refine SameGroups.swap p.nodes fun m hm n hn => ?_
    rw [BuildCall.kind_of_mem_added hm, BuildCall.kind_of_mem_added hn]
    exact hkind
  refine ⟨?_, ?_, hgroups.ofNodes_eq, fun root n hroot => ?_⟩
  · simp only [q, r, Pipeline.after_cons, Pipeline.after_nil, Request.on,
      BuildCall.inputCount_perform, hadded, hadded']
    omega
  · have hdrawn : c.labelsDrawn (d.perform p).2 = c.labelsDrawn p := by
      rw [BuildCall.labelsDrawn_eq, BuildCall.labelsDrawn_eq, hadded]
    have hdrawn' : d.labelsDrawn (c.perform p).2 = d.labelsDrawn p := by
      rw [BuildCall.labelsDrawn_eq, BuildCall.labelsDrawn_eq, hadded']
    -- Both orders take as many labels in all.
    have htake := p.labels.take_add (c.labelsDrawn p) (d.labelsDrawn p)
    rw [Nat.add_comm, LabelGenerator.take_add] at htake
    simp only [q, r, Pipeline.after_cons, Pipeline.after_nil, Request.on,
      BuildCall.labels_perform, hdrawn, hdrawn']
    exact (congrArg Prod.snd htake).symm
  · have hq : q.get? root = some (.output n) := ((c.grew p).trans (d.grew _)).get? hroot
    have hr : r.get? root = some (.output n) := ((d.grew p).trans (c.grew _)).get? hroot
    have hconfig : q.config = r.config := by
      simp only [q, r, Pipeline.after_cons, Pipeline.after_nil, Request.on,
        BuildCall.config_perform]
    refine ⟨_, Pipeline.command_of_output hq, ?_⟩
    rw [Pipeline.command_of_output hr, ← hgroups.compile_eq, ← hconfig]

/-- An input, a step that takes a label, and an output that maps both. -/
def mappedPipeline : Pipeline :=
  (Pipeline.create 0 (.seeded 7) {}).after [.build (.input "a.mp4"),
    .build (.filter [.node ⟨0, 0, .input⟩] { name := "scale", params := [("w", "320")] }),
    .build (.output [.node ⟨0, 1, .filter⟩, .stream ⟨0, 0, .input⟩ .audio] "out.mp4")]

/-- A step on what is there, which takes the next label. -/
def croppingStep : BuildCall :=
  .filter [.stream ⟨0, 0, .input⟩ .video] { name := "crop", params := [("w", "64")] }

theorem building_calls_commute_mappedPipeline :
    croppingStep.Fed mappedPipeline ∧ croppingStep.labelsDrawn mappedPipeline = 1 ∧
    croppingStep.outcome (BuildCall.perform mappedPipeline (.input "b.mp4")).2 =
      .ok (some (.filter ⟨[⟨"0:v"⟩], "crop", [("w", "64")], ⟨"gYBFo"⟩⟩)) ∧
    let q := mappedPipeline.after [.build croppingStep, .build (.input "b.mp4")]
    let r := mappedPipeline.after [.build (.input "b.mp4"), .build croppingStep]
    ∃ text, q.command ⟨0, 2, .output⟩ = .ok text ∧ r.command ⟨0, 2, .output⟩ = .ok text := by
  have hfed : croppingStep.Fed mappedPipeline := by decide +kernel
  obtain ⟨hcommute, -⟩ := building_calls_commute
  obtain ⟨⟨houtcome, -⟩, -, -, -, hcommand⟩ := hcommute mappedPipeline croppingStep (.input "b.mp4")
    (by decide) hfed (by decide +kernel) (.inr (by decide +kernel))
  refine ⟨hfed, by decide +kernel, houtcome.trans (by decide +kernel),
    hcommand ⟨0, 2, .output⟩ ⟨"out.mp4", [⟨"tbhpd"⟩, ⟨"0:a"⟩]⟩ (by decide +kernel)⟩

end MediaPipeline
