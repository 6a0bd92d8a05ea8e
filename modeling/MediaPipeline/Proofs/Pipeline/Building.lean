import MediaPipeline.Graph.Pipeline
import MediaPipeline.Proofs.Except

/-!
Building calls. A call makes its checks against the pipeline as it is, resolves the links that feed
it, and only then takes labels from the generator and adds one node. `BuildCall.Stores` says for
each call which checks have passed and what the node is; a call that fails changes nothing. All else
about a call follows by cases on `Stores`.
-/

namespace MediaPipeline

/-- A building call with its arguments. -/
inductive BuildCall where
  | input (name : String)
  | filter (caller : List Link) (spec : FilterSpec)
  | global (caller : List Link) (spec : GlobalSpec)
  | output (caller : List Link) (name : String)
  | option (spec : OptionSpec)

def BuildCall.perform (p : Pipeline) : BuildCall → Pipeline.Built
  | input name => p.input name
  | filter caller spec => p.filter caller spec
  | global caller spec => p.global caller spec
  | output caller name => p.output caller name
  | option spec => p.option spec

/-! ### Checks -/

namespace Pipeline

variable {p : Pipeline}

@[simp] theorem checkArgument_eq_ok_iff {isEmpty : Bool} {argument : RequiredArgument} :
    checkArgument isEmpty argument = .ok () ↔ isEmpty = false := by
  cases isEmpty <;> simp [checkArgument]

theorem filterInputs_eq_ok_iff {caller : List Link} {spec : FilterSpec} {inputs : List Label} :
    p.filterInputs caller spec = .ok inputs ↔
      p.checkCaller .filter caller (!spec.inputs.isEmpty) = .ok () ∧ spec.name ≠ "" ∧
        spec.params ≠ [] ∧ p.resolveAll (sources caller spec.inputs) = .ok inputs := by
  simp [filterInputs, check_bind_eq_ok_iff]

theorem globalInputs_eq_ok_iff {caller : List Link} {spec : GlobalSpec} {inputs : List Label} :
    p.globalInputs caller spec = .ok inputs ↔
      p.checkCaller .global caller (!spec.inputs.isEmpty) = .ok () ∧
        p.resolveAll (sources caller spec.inputs) = .ok inputs := by
  simp [globalInputs, check_bind_eq_ok_iff]

theorem outputInputs_eq_ok_iff {caller : List Link} {name : String} {inputs : List Label} :
    p.outputInputs caller name = .ok inputs ↔
      p.checkCaller .output caller false = .ok () ∧ name ≠ "" ∧
        p.resolveAll caller = .ok inputs := by
  simp [outputInputs, check_bind_eq_ok_iff]

theorem optionOutputs_eq_ok_iff {spec : OptionSpec} {outputs : List Label} :
    p.optionOutputs spec = .ok outputs ↔
      spec.tag ≠ "" ∧ p.resolveAll spec.outputs = .ok outputs := by
  simp [optionOutputs, check_bind_eq_ok_iff]

/-- A caller that passes its check leaves a node with links to be fed by. -/
theorem sources_ne_nil {role : CallerRole} {caller named : List Link}
    (h : p.checkCaller role caller (!named.isEmpty) = .ok ()) : sources caller named ≠ [] := by
  cases named with
  | cons link named => simp [sources]
  | nil =>
      cases caller with
      | cons link caller => simp [sources]
      | nil => simp [checkCaller] at h

/-! ### Labels -/

theorem outputLabel_snd (p : Pipeline) (named : Option Label) :
    (p.outputLabel named).2 =
      { p with labels := (p.labels.take (if named.isNone then 1 else 0)).2 } := by
  cases named with
  | none => simp [outputLabel, LabelGenerator.take]
  | some label => rfl

theorem outputLabels_snd (p : Pipeline) (named : List Label) (reserved : Nat) :
    (p.outputLabels named reserved).2 =
      { p with labels := (p.labels.take (if named.isEmpty then max 1 reserved else 0)).2 } := by
  cases named with
  | nil => simp [outputLabels, Nat.max_comm]
  | cons label named => rfl

end Pipeline

namespace BuildCall

/-- Number of labels that a call takes from the generator when it succeeds. -/
def reserved : BuildCall → Nat
  | filter _ spec => if spec.output.isNone then 1 else 0
  | global _ spec => if spec.outputs.isEmpty then max 1 spec.reserved else 0
  | input _ | output _ _ | option _ => 0

/-- The links whose labels feed the node of a call. -/
def sources : BuildCall → List Link
  | filter caller spec => Pipeline.sources caller spec.inputs
  | global caller spec => Pipeline.sources caller spec.inputs
  | output caller _ => caller
  | input _ | option _ => []

/-- What a call stores in `p` once its checks have passed. -/
inductive Stores (p : Pipeline) : BuildCall → Node → Prop
  | input {name : String} : name ≠ "" → Stores p (.input name) (.input ⟨name, p.inputCount⟩)
  | filter {caller : List Link} {spec : FilterSpec} {inputs : List Label} :
    p.checkCaller .filter caller (!spec.inputs.isEmpty) = .ok () → spec.name ≠ "" →
    spec.params ≠ [] → p.resolveAll (Pipeline.sources caller spec.inputs) = .ok inputs →
    Stores p (.filter caller spec)
      (.filter ⟨inputs, spec.name, spec.params, (p.outputLabel spec.output).1⟩)
  | global {caller : List Link} {spec : GlobalSpec} {inputs : List Label} :
    p.checkCaller .global caller (!spec.inputs.isEmpty) = .ok () →
    p.resolveAll (Pipeline.sources caller spec.inputs) = .ok inputs →
    Stores p (.global caller spec)
      (.global ⟨inputs, (p.outputLabels spec.outputs spec.reserved).1, spec.args⟩)
  | output {caller : List Link} {name : String} {inputs : List Label} :
    p.checkCaller .output caller false = .ok () → name ≠ "" → p.resolveAll caller = .ok inputs →
    Stores p (.output caller name) (.output ⟨name, inputs⟩)
  | option {spec : OptionSpec} {outputs : List Label} :
    spec.tag ≠ "" → p.resolveAll spec.outputs = .ok outputs →
    Stores p (.option spec) (.option ⟨spec.tag, spec.value, outputs⟩)

/-- `p` after a call that stored `n`. -/
def result (call : BuildCall) (p : Pipeline) (n : Node) : Pipeline :=
  (Pipeline.add { p with labels := (p.labels.take call.reserved).2 } n).2

/-- What is left to show for a call is that it stores its node once its checks have passed. -/
theorem build_cases {call : BuildCall} {p : Pipeline} {α : Type} {checks : Except GraphError α}
    {node : α → Node × Pipeline}
    (h : ∀ a, checks = .ok a → call.Stores p (node a).1 ∧
      (node a).2 = { p with labels := (p.labels.take call.reserved).2 }) :
    (∃ e, p.build checks node = (.error e, p)) ∨
      ∃ n, call.Stores p n ∧
        p.build checks node = (.ok ⟨p.owner, p.nodes.length, n.kind⟩, call.result p n) := by
  cases checks with
  | error e => exact .inl ⟨e, rfl⟩
  | ok a =>
      obtain ⟨hstores, hlabels⟩ := h a rfl
      refine .inr ⟨_, hstores, ?_⟩
      simp only [Pipeline.build, hlabels, result]
      rfl

/-- A call fails and changes nothing, or it stores one node and returns the handle to it. -/
theorem fails_or_stores (call : BuildCall) (p : Pipeline) :
    (∃ e, call.perform p = (.error e, p)) ∨
      ∃ n, call.Stores p n ∧
        call.perform p = (.ok ⟨p.owner, p.nodes.length, n.kind⟩, call.result p n) := by
  cases call with
  | input name =>
      rw [perform, Pipeline.input]
      refine build_cases fun () hchecks => ⟨.input ?_, rfl⟩
      simpa using hchecks
  | filter caller spec =>
      rw [perform, Pipeline.filter]
      refine build_cases fun inputs hchecks => ?_
      obtain ⟨hcaller, hname, hparams, hinputs⟩ := Pipeline.filterInputs_eq_ok_iff.mp hchecks
      exact ⟨.filter hcaller hname hparams hinputs, p.outputLabel_snd spec.output⟩
  | global caller spec =>
      rw [perform, Pipeline.global]
      refine build_cases fun inputs hchecks => ?_
      obtain ⟨hcaller, hinputs⟩ := Pipeline.globalInputs_eq_ok_iff.mp hchecks
      exact ⟨.global hcaller hinputs, p.outputLabels_snd spec.outputs spec.reserved⟩
  | output caller name =>
      rw [perform, Pipeline.output]
      refine build_cases fun inputs hchecks => ?_
      obtain ⟨hcaller, hname, hinputs⟩ := Pipeline.outputInputs_eq_ok_iff.mp hchecks
      exact ⟨.output hcaller hname hinputs, rfl⟩
  | option spec =>
      rw [perform, Pipeline.option]
      refine build_cases fun outputs hchecks => ?_
      obtain ⟨htag, houtputs⟩ := Pipeline.optionOutputs_eq_ok_iff.mp hchecks
      exact ⟨.option htag houtputs, rfl⟩

end BuildCall

/-- `q` is `p` with one more node. The labels may have moved on. -/
structure Pipeline.Added (p q : Pipeline) (n : Node) : Prop where
  owner : q.owner = p.owner
  nodes : q.nodes = p.nodes ++ [n]
  inputCount : q.inputCount = if n.kind = .input then p.inputCount + 1 else p.inputCount
  config : q.config = p.config

theorem BuildCall.added_result (call : BuildCall) (p : Pipeline) (n : Node) :
    p.Added (call.result p n) n :=
  ⟨rfl, rfl, rfl, rfl⟩

theorem BuildCall.perform_cases (call : BuildCall) (p : Pipeline) :
    (∃ e, call.perform p = (.error e, p)) ∨
      ∃ n q, call.perform p = (.ok ⟨p.owner, p.nodes.length, n.kind⟩, q) ∧ p.Added q n := by
  obtain he | ⟨n, -, hn⟩ := call.fails_or_stores p
  · exact .inl he
  · exact .inr ⟨n, _, hn, call.added_result p n⟩

theorem BuildCall.stores_of_added {call : BuildCall} {p : Pipeline} {n : Node}
    (h : p.Added (call.perform p).2 n) : call.Stores p n := by
  have hnodes := h.nodes
  obtain ⟨e, he⟩ | ⟨m, hstores, hm⟩ := call.fails_or_stores p
  · rw [he] at hnodes
    simp at hnodes
  · rw [hm, (call.added_result p m).nodes] at hnodes
    obtain rfl := (List.append_singleton_inj.mp hnodes).2
    exact hstores

/-! ### Look-ups -/

namespace Pipeline

variable {p q : Pipeline} {h : Handle} {n : Node}

theorem get?_eq_some_iff :
    p.get? h = some n ↔ h.owner = p.owner ∧ p.nodes[h.id]? = some n ∧ n.kind = h.kind := by
  unfold get?
  split
  · next ho => simp [ho, Option.filter_eq_some_iff]
  · next ho => simp [ho]

theorem get?_eq_none (ho : h.owner ≠ p.owner) : p.get? h = none :=
  if_neg ho

theorem Added.get? (ha : p.Added q n) : q.get? ⟨p.owner, p.nodes.length, n.kind⟩ = some n := by
  refine get?_eq_some_iff.mpr ⟨ha.owner.symm, ?_, rfl⟩
  rw [ha.nodes, List.getElem?_concat_length]

end Pipeline

end MediaPipeline
