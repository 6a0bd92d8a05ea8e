import MediaPipeline.Proofs.Pipeline.Requests

/-!
What the outcome of a building call depends on. Of the pipeline a call reads what the handles among
its arguments lead to, the number of inputs where it stores one, and the generator where it takes
labels; the stamp and the other nodes are of no account. The stamps of the handles do not matter
either, as long as they lead to the same nodes, and so everything is said for handles under another
stamp.
-/

namespace MediaPipeline

/-! ### Handles under other stamps -/

/-- The handle with its stamp replaced. -/
def Handle.restamp (σ : UInt64 → UInt64) (h : Handle) : Handle :=
  { h with owner := σ h.owner }

def Link.restamp (σ : UInt64 → UInt64) : Link → Link
  | label l => .label l
  | node h => .node (h.restamp σ)
  | stream h s => .stream (h.restamp σ) s

def FilterSpec.restamp (σ : UInt64 → UInt64) (s : FilterSpec) : FilterSpec :=
  { s with inputs := s.inputs.map (Link.restamp σ) }

def GlobalSpec.restamp (σ : UInt64 → UInt64) (s : GlobalSpec) : GlobalSpec :=
  { s with inputs := s.inputs.map (Link.restamp σ) }

def OptionSpec.restamp (σ : UInt64 → UInt64) (s : OptionSpec) : OptionSpec :=
  { s with outputs := s.outputs.map (Link.restamp σ) }

/-- The call with the stamps of all handles among its arguments replaced. -/
def BuildCall.restamp (σ : UInt64 → UInt64) : BuildCall → BuildCall
  | input name => .input name
  | filter caller spec => .filter (caller.map (Link.restamp σ)) (spec.restamp σ)
  | global caller spec => .global (caller.map (Link.restamp σ)) (spec.restamp σ)
  | output caller name => .output (caller.map (Link.restamp σ)) name
  | option spec => .option (spec.restamp σ)

@[simp] theorem Link.restamp_id : Link.restamp id = id := by
  funext link
  cases link <;> rfl

@[simp] theorem BuildCall.restamp_id (call : BuildCall) : call.restamp id = call := by
  cases call <;> simp [restamp, FilterSpec.restamp, GlobalSpec.restamp, OptionSpec.restamp]

/-- The handles that some links go through. -/
def handlesOf (links : List Link) : List Handle :=
  links.filterMap Link.handle?

/-- All handles among the arguments of a call. -/
def BuildCall.handles : BuildCall → List Handle
  | input _ => []
  | filter caller spec => handlesOf caller ++ handlesOf spec.inputs
  | global caller spec => handlesOf caller ++ handlesOf spec.inputs
  | output caller _ => handlesOf caller
  | option spec => handlesOf spec.outputs

/-! ### Links -/

section

variable {σ : UInt64 → UInt64} {p q : Pipeline}

theorem Pipeline.resolve_restamp {link : Link}
    (h : ∀ r, link.handle? = some r → q.get? (r.restamp σ) = p.get? r) :
    q.resolve (link.restamp σ) = p.resolve link := by
  cases link with
  | label l => rfl
  | node r | stream r _ =>
      have hr := h r rfl
      simp only [Link.restamp, resolve, hr]
      rfl

theorem Pipeline.checkLink_restamp (role : CallerRole) {link : Link}
    (h : ∀ r, link.handle? = some r → q.get? (r.restamp σ) = p.get? r) :
    q.checkLink role (link.restamp σ) = p.checkLink role link := by
  cases link with
  | label l => rfl
  | node r | stream r _ =>
      have hr := h r rfl
      simp only [checkLink, Link.restamp, Link.handle?, hr]
      rfl

theorem mem_handlesOf {links : List Link} {link : Link} {r : Handle} (hl : link ∈ links)
    (hr : link.handle? = some r) : r ∈ handlesOf links :=
  List.mem_filterMap.mpr ⟨link, hl, hr⟩

theorem mapM_map_congr {ε α β γ : Type} {f : α → Except ε γ} {g : β → Except ε γ} {t : β → α}
    {xs : List β} (h : ∀ x ∈ xs, f (t x) = g x) : (xs.map t).mapM f = xs.mapM g := by
  induction xs with
  | nil => rfl
  | cons x xs ih =>
      rw [List.map_cons, List.mapM_cons, List.mapM_cons, h x List.mem_cons_self,
        ih fun y hy => h y (List.mem_cons_of_mem _ hy)]

theorem forM_map_congr {ε α β : Type} {f : α → Except ε PUnit} {g : β → Except ε PUnit}
    {t : β → α} {xs : List β} (h : ∀ x ∈ xs, f (t x) = g x) : (xs.map t).forM f = xs.forM g := by
  induction xs with
  | nil => rfl
  | cons x xs ih =>
      simp only [List.map_cons, List.forM_eq_forM, List.forM_cons] at ih ⊢
      rw [h x List.mem_cons_self, ih fun y hy => h y (List.mem_cons_of_mem _ hy)]

theorem Pipeline.resolveAll_restamp {links : List Link}
    (h : ∀ r ∈ handlesOf links, q.get? (r.restamp σ) = p.get? r) :
    q.resolveAll (links.map (Link.restamp σ)) = p.resolveAll links :=
  mapM_map_congr fun _ hl => resolve_restamp fun r hr => h r (mem_handlesOf hl hr)

theorem Pipeline.checkCaller_restamp (role : CallerRole) (hasSources : Bool) {caller : List Link}
    (h : ∀ r ∈ handlesOf caller, q.get? (r.restamp σ) = p.get? r) :
    q.checkCaller role (caller.map (Link.restamp σ)) hasSources =
      p.checkCaller role caller hasSources := by
  have hforM : (caller.map (Link.restamp σ)).forM (q.checkLink role) =
      caller.forM (p.checkLink role) :=
    forM_map_congr fun _ hl => checkLink_restamp role fun r hr => h r (mem_handlesOf hl hr)
  simp only [checkCaller, List.isEmpty_map, hforM]

theorem Pipeline.sources_restamp (σ : UInt64 → UInt64) (caller named : List Link) :
    sources (caller.map (Link.restamp σ)) (named.map (Link.restamp σ)) =
      (sources caller named).map (Link.restamp σ) := by
  cases named <;> rfl

theorem handlesOf_sources {caller named : List Link} {r : Handle}
    (hr : r ∈ handlesOf (Pipeline.sources caller named)) :
    r ∈ handlesOf caller ++ handlesOf named := by
  cases named with
  | nil => exact List.mem_append_left _ hr
  | cons link named => exact List.mem_append_right _ hr

end

/-! ### Calls -/

namespace BuildCall

/-- The kind of node that a call stores. -/
def kind : BuildCall → NodeKind
  | input _ => .input
  | filter _ _ => .filter
  | global _ _ => .global
  | output _ _ => .output
  | option _ => .option

/-- All checks of a call, with the labels that its links resolve to. -/
def checks (p : Pipeline) : BuildCall → Except GraphError (List Label)
  | input name => (fun _ => []) <$> Pipeline.checkArgument name.isEmpty .inputName
  | filter caller spec => p.filterInputs caller spec
  | global caller spec => p.globalInputs caller spec
  | output caller name => p.outputInputs caller name
  | option spec => p.optionOutputs spec

/-- The node that a call stores in `p` when its links resolve to `resolved`. -/
def node (p : Pipeline) (resolved : List Label) : BuildCall → Node
  | input name => .input ⟨name, p.inputCount⟩
  | filter _ spec =>
    .filter ⟨resolved, spec.name, spec.params, (p.outputLabel spec.output).1⟩
  | global _ spec =>
    .global ⟨resolved, (p.outputLabels spec.outputs spec.reserved).1, spec.args⟩
  | output _ name => .output ⟨name, resolved⟩
  | option spec => .option ⟨spec.tag, spec.value, resolved⟩

variable {call : BuildCall} {p q : Pipeline}

/-- A call is its checks and its node. -/
theorem perform_eq (call : BuildCall) (p : Pipeline) :
    call.perform p = match call.checks p with
      | .error e => (.error e, p)
      | .ok resolved =>
        (.ok ⟨p.owner, p.nodes.length, call.kind⟩, call.result p (call.node p resolved)) := by
  cases call with
  | input name =>
      cases h : Pipeline.checkArgument name.isEmpty .inputName <;>
        simp only [perform, Pipeline.input, Pipeline.build, checks, h] <;> rfl
  | filter caller spec =>
      cases h : p.filterInputs caller spec <;>
        simp only [perform, Pipeline.filter, Pipeline.build, checks, h, p.outputLabel_snd]
      rfl
  | global caller spec =>
      cases h : p.globalInputs caller spec <;>
        simp only [perform, Pipeline.global, Pipeline.build, checks, h, p.outputLabels_snd]
      rfl
  | output caller name =>
      cases h : p.outputInputs caller name <;>
        simp only [perform, Pipeline.output, Pipeline.build, checks, h]
      rfl
  | option spec =>
      cases h : p.optionOutputs spec <;>
        simp only [perform, Pipeline.option, Pipeline.build, checks, h]
      rfl

@[simp] theorem kind_node (call : BuildCall) (p : Pipeline) (resolved : List Label) :
    (call.node p resolved).kind = call.kind := by
  cases call <;> rfl

@[simp] theorem kind_restamp (σ : UInt64 → UInt64) (call : BuildCall) :
    (call.restamp σ).kind = call.kind := by
  cases call <;> rfl

@[simp] theorem reserved_restamp (σ : UInt64 → UInt64) (call : BuildCall) :
    (call.restamp σ).reserved = call.reserved := by
  cases call <;> rfl

/-- The checks of a call are a matter of the nodes that its handles lead to. -/
theorem checks_restamp {σ : UInt64 → UInt64}
    (h : ∀ r ∈ call.handles, q.get? (r.restamp σ) = p.get? r) :
    (call.restamp σ).checks q = call.checks p := by
  cases call with
  | input name => rfl
  | filter caller spec =>
      have hcaller := Pipeline.checkCaller_restamp .filter (!spec.inputs.isEmpty)
        fun r hr => h r (List.mem_append_left _ hr)
      have hsources := Pipeline.resolveAll_restamp fun r hr => h r (handlesOf_sources hr)
      simp only [restamp, checks, Pipeline.filterInputs, FilterSpec.restamp, List.isEmpty_map,
        Pipeline.sources_restamp, hcaller, hsources]
  | global caller spec =>
      have hcaller := Pipeline.checkCaller_restamp .global (!spec.inputs.isEmpty)
        fun r hr => h r (List.mem_append_left _ hr)
      have hsources := Pipeline.resolveAll_restamp fun r hr => h r (handlesOf_sources hr)
      simp only [restamp, checks, Pipeline.globalInputs, GlobalSpec.restamp, List.isEmpty_map,
        Pipeline.sources_restamp, hcaller, hsources]
  | output caller name =>
      have hcaller := Pipeline.checkCaller_restamp .output false h
      have hsources := Pipeline.resolveAll_restamp h
      simp only [restamp, checks, Pipeline.outputInputs, hcaller, hsources]
  | option spec =>
      have hsources := Pipeline.resolveAll_restamp h
      simp only [restamp, checks, Pipeline.optionOutputs, OptionSpec.restamp, hsources]

/-- The node of a call is a matter of the number of inputs, if it is an input, and of the generator,
if labels are taken. -/
theorem node_restamp {σ : UInt64 → UInt64} {resolved : List Label}
    (hcount : call.kind = .input → q.inputCount = p.inputCount)
    (hlabels : call.reserved ≠ 0 → q.labels = p.labels) :
    (call.restamp σ).node q resolved = call.node p resolved := by
  cases call with
  | input name => simp only [restamp, node, hcount rfl]
  | filter caller spec =>
      cases ho : spec.output with
      | some label => simp only [restamp, node, FilterSpec.restamp, Pipeline.outputLabel, ho]
      | none =>
          have hl := hlabels (by simp [reserved, ho])
          simp only [restamp, node, FilterSpec.restamp, Pipeline.outputLabel, ho, hl]
  | global caller spec =>
      cases ho : spec.outputs with
      | cons label labels =>
          simp [restamp, node, GlobalSpec.restamp, Pipeline.outputLabels, ho]
      | nil =>
          have hl := hlabels (by simp [reserved, ho])
          simp [restamp, node, GlobalSpec.restamp, Pipeline.outputLabels, ho, hl]
  | output caller name | option spec => rfl

end BuildCall

end MediaPipeline
