import MediaPipeline.Proofs.Workspace.Runs

/-!
What holds of the nodes of every pipeline of a run. Inputs are counted and numbered in the order in
which they were built, and each node has the parts that those who render or resolve it rely on: the
checks of a building call leave no way to store a node without them.
-/

namespace MediaPipeline

/-- A node has every part that may not be empty. -/
def Node.Complete : Node → Prop
  | .input n => n.name ≠ ""
  | .filter n => n.filter ≠ "" ∧ n.params ≠ [] ∧ n.inputs ≠ []
  | .global n => n.inputs ≠ [] ∧ n.outputs ≠ []
  | .option n => n.tag ≠ ""
  | .output n => n.name ≠ "" ∧ n.inputs ≠ []

structure Pipeline.WellFormed (p : Pipeline) : Prop where
  inputCount : p.inputCount = (p.nodes.filterMap Node.input?).length
  /-- Inputs are numbered from 0, whatever nodes lie between them. -/
  index : ∀ (k : Nat) (n : InputNode),
    (p.nodes.filterMap Node.input?)[k]? = some n → n.index = k
  complete : ∀ n ∈ p.nodes, n.Complete

/-! ### One call -/

namespace Pipeline

variable {p : Pipeline}

theorem resolveAll_ne_nil {links : List Link} {labels : List Label}
    (h : p.resolveAll links = .ok labels) (hne : links ≠ []) : labels ≠ [] := by
  rintro rfl
  exact hne (List.forall₂_nil_right_iff.mp (mapM_eq_ok_iff.mp h))

theorem outputLabels_ne_nil (p : Pipeline) (named : List Label) (reserved : Nat) :
    (p.outputLabels named reserved).1 ≠ [] := by
  cases named with
  | cons label named => simp [outputLabels]
  | nil =>
      obtain ⟨n, hn⟩ : ∃ n, max reserved 1 = n + 1 := Nat.exists_eq_add_of_le' (Nat.le_max_right ..)
      simp [outputLabels, hn, LabelGenerator.take]

end Pipeline

namespace BuildCall

variable {call : BuildCall} {p : Pipeline} {n : Node}

theorem Stores.complete (h : call.Stores p n) : n.Complete := by
  cases h with
  | input hname => exact hname
  | filter hcaller hname hparams hinputs =>
      have hsources := Pipeline.sources_ne_nil hcaller
      exact ⟨hname, hparams, Pipeline.resolveAll_ne_nil hinputs hsources⟩
  | global hcaller hinputs =>
      have hsources := Pipeline.sources_ne_nil hcaller
      exact ⟨Pipeline.resolveAll_ne_nil hinputs hsources, p.outputLabels_ne_nil _ _⟩
  | @output caller _ _ hcaller hname hinputs =>
      have hcallers : Pipeline.sources caller [] ≠ [] := Pipeline.sources_ne_nil hcaller
      exact ⟨hname, Pipeline.resolveAll_ne_nil hinputs hcallers⟩
  | option htag _ => exact htag

theorem Stores.index_eq {m : InputNode} (h : call.Stores p (.input m)) :
    m.index = p.inputCount := by
  cases h
  rfl

end BuildCall

namespace Pipeline.WellFormed

variable {p : Pipeline}

theorem create (owner : UInt64) (labels : LabelGenerator) (config : PipelineConfig) :
    (Pipeline.create owner labels config).WellFormed :=
  ⟨rfl, by simp [Pipeline.create], by simp [Pipeline.create]⟩

theorem reset (p : Pipeline) (owner : UInt64) : (p.reset owner).WellFormed :=
  ⟨rfl, by simp [Pipeline.reset], by simp [Pipeline.reset]⟩

theorem result {call : BuildCall} {n : Node} (hp : p.WellFormed) (h : call.Stores p n) :
    (call.result p n).WellFormed := by
  have hadd := call.added_result p n
  have hinputs : (call.result p n).nodes.filterMap Node.input? =
      p.nodes.filterMap Node.input? ++ n.input?.toList := by
    rw [hadd.nodes, List.filterMap_append]
    cases n <;> rfl
  refine ⟨?_, ?_, ?_⟩
  · rw [hadd.inputCount, hinputs, List.length_append, hp.inputCount]
    cases n <;> rfl
  · intro k m hm
    rw [hinputs] at hm
    cases n with
    | input i =>
        -- The new input is the last one, and the count that became its index is that of the others.
        obtain hm | ⟨rfl, rfl⟩ := getElem?_concat_cases hm
        · exact hp.index k m hm
        · rw [h.index_eq, hp.inputCount]
    | filter _ | global _ | option _ | output _ =>
        exact hp.index k m (by simpa [Node.input?] using hm)
  · intro m hm
    rw [hadd.nodes, List.mem_append, List.mem_singleton] at hm
    obtain hm | rfl := hm
    · exact hp.complete m hm
    · exact h.complete

end Pipeline.WellFormed

/-! ### Runs -/

theorem wellFormed_of_run {as : List Action} {t : Nat} {p : Pipeline}
    (hp : (run as).pipelines[t]? = some p) : p.WellFormed :=
  forall_run .create (fun p owner _ => .reset p owner) (fun _ _ _ hp h => hp.result h) hp

/-- Every pipeline of a run is well-formed, whatever calls were made and however many of them
failed; and a call that succeeds adds one node behind all others and returns the handle that has its
position and its kind. -/
theorem registry_wellFormed {as : List Action} {t : Nat} {p : Pipeline}
    (hp : (run as).pipelines[t]? = some p) :
    p.WellFormed ∧ ∀ (call : BuildCall) (h : Handle), (call.perform p).1 = .ok h →
      ∃ n, (call.perform p).2.nodes = p.nodes ++ [n] ∧ h = ⟨p.owner, p.nodes.length, n.kind⟩ := by
  refine ⟨wellFormed_of_run hp, fun call h hh => ?_⟩
  obtain ⟨e, he⟩ | ⟨n, q, hq, hadd⟩ := call.perform_cases p
  · rw [he] at hh
    cases hh
  · rw [hq] at hh ⊢
    cases hh
    exact ⟨n, hadd.nodes, rfl⟩

/-- A reset, calls that fail, nodes of other kinds between two inputs, and a copy that is built
upon. -/
def renewedRun : List Action :=
  [.create (.seeded 0) {}, .build 0 (.input "old.mp4"), .reset 0, .build 0 (.input ""),
    .build 0 (.input "a.mp4"),
    .build 0 (.filter [.node ⟨1, 0, .input⟩]
      { name := "scale", params := [("w", "320")], output := some ⟨"small"⟩ }),
    .build 0 (.output [.node ⟨0, 0, .input⟩] "out.mp4"), .copy 0, .build 1 (.input "b.mp4")]

theorem registry_wellFormed_renewedRun :
    ∃ p, (run renewedRun).pipelines[1]? = some p ∧ p.WellFormed ∧ p.inputCount = 2 ∧
      p.nodes = [.input ⟨"a.mp4", 0⟩,
        .filter ⟨[⟨"0:v"⟩], "scale", [("w", "320")], ⟨"small"⟩⟩, .input ⟨"b.mp4", 1⟩] ∧
      ∃ n, (BuildCall.perform p (.output [.node ⟨1, 2, .input⟩] "out.mp4")).2.nodes =
        p.nodes ++ [n] ∧ (⟨1, 3, .output⟩ : Handle) = ⟨p.owner, p.nodes.length, n.kind⟩ := by
  have hp : (run renewedRun).pipelines[1]? = some _ := rfl
  obtain ⟨hwell, hcall⟩ := registry_wellFormed hp
  exact ⟨_, hp, hwell, rfl, rfl, hcall (.output [.node ⟨1, 2, .input⟩] "out.mp4") _ rfl⟩

end MediaPipeline
