import MediaPipeline.Proofs.Pipeline.Dependence
import MediaPipeline.Proofs.Workspace.WellFormed

/-!
The exact outcome of a building call. A call asks three things, one after the other: that the caller
can start a chain, that no argument is empty, and that every link that is used has a label. The
first two look at different links than the third where a call names sources of its own: the caller
is checked then and not used. `BuildCall.Verdict` says how the checks can end, and the outcome of a
call is read off from it.
-/

namespace MediaPipeline

/-! ### Specifications -/

/-- One call of the chain that makes up a filter step. -/
inductive FilterStep where
  | param (key value : String)
  | inputs (links : List Link)
  | output (label : Label)

namespace FilterStep

def param? : FilterStep → Option (String × String)
  | param key value => some (key, value)
  | _ => none

def inputs? : FilterStep → Option (List Link)
  | inputs links => some links
  | _ => none

def output? : FilterStep → Option Label
  | output label => some label
  | _ => none

end FilterStep

def FilterSpec.step (s : FilterSpec) : FilterStep → FilterSpec
  | .param key value => s.param key value
  | .inputs links => s.withInputs links
  | .output label => s.withOutput label

/-- The filter step that a chain of calls makes. -/
def FilterSpec.ofSteps (name : String) (steps : List FilterStep) : FilterSpec :=
  steps.foldl step { name }

/-- Parameters are kept in order; of the sources and the outputs the last ones count. -/
theorem FilterSpec.ofSteps_eq (name : String) (steps : List FilterStep) :
    ofSteps name steps =
      { name
        params := steps.filterMap FilterStep.param?
        inputs := (steps.filterMap FilterStep.inputs?).getLast?.getD []
        output := (steps.filterMap FilterStep.output?).getLast? } := by
  induction steps using List.reverseRecOn with
  | nil => rfl
  | append_singleton steps step ih =>
      rw [ofSteps] at ih
      rw [ofSteps, List.foldl_append, ih]
      cases step <;>
        simp [FilterSpec.step, param, withInputs, withOutput, FilterStep.param?,
          FilterStep.inputs?, FilterStep.output?]

/-- One call of the chain that makes up a global statement. -/
inductive GlobalStep where
  | reserve (count : Nat)
  | inputs (links : List Link)
  | outputs (labels : List Label)

namespace GlobalStep

def reserve? : GlobalStep → Option Nat
  | reserve count => some (max count 1)
  | _ => none

def inputs? : GlobalStep → Option (List Link)
  | inputs links => some links
  | _ => none

def outputs? : GlobalStep → Option (List Label)
  | outputs labels => some labels
  | _ => none

end GlobalStep

def GlobalSpec.step (s : GlobalSpec) : GlobalStep → GlobalSpec
  | .reserve count => s.reserve count
  | .inputs links => s.withInputs links
  | .outputs labels => s.withOutputs labels

/-- The global statement that a chain of calls makes. -/
def GlobalSpec.ofSteps (args : String) (steps : List GlobalStep) : GlobalSpec :=
  steps.foldl step { args }

/-- Outputs add up; of the sources and the reservations the last ones count. -/
theorem GlobalSpec.ofSteps_eq (args : String) (steps : List GlobalStep) :
    ofSteps args steps =
      { args
        inputs := (steps.filterMap GlobalStep.inputs?).getLast?.getD []
        outputs := (steps.filterMap GlobalStep.outputs?).flatten
        reserved := (steps.filterMap GlobalStep.reserve?).getLast?.getD 1 } := by
  induction steps using List.reverseRecOn with
  | nil => rfl
  | append_singleton steps step ih =>
      rw [ofSteps] at ih
      rw [ofSteps, List.foldl_append, ih]
      cases step <;>
        simp [GlobalSpec.step, reserve, withInputs, withOutputs, GlobalStep.reserve?,
          GlobalStep.inputs?, GlobalStep.outputs?]

/-! ### Checks -/

/-- The check passes if `P` holds, and fails with an error of the kind `E` if not. -/
def Decides {ε α : Type} (P : Prop) (E : ε → Prop) (check : Except ε α) : Prop :=
  (P ∧ ∃ a, check = .ok a) ∨ (¬ P ∧ ∃ e, E e ∧ check = .error e)

section

variable {ε α β : Type} {E : ε → Prop} {P : α → Prop}

theorem Decides.mono {P : Prop} {F : ε → Prop} {check : Except ε α} (h : Decides P E check)
    (hEF : ∀ e, E e → F e) : Decides P F check :=
  h.imp_right fun ⟨hP, e, he, hcheck⟩ => ⟨hP, e, hEF e he, hcheck⟩

theorem Decides.bind {P Q : Prop} {check : Except ε α} {f : α → Except ε β} (h : Decides P E check)
    (hf : ∀ a, Decides Q E (f a)) : Decides (P ∧ Q) E (check >>= f) := by
  obtain ⟨hP, a, rfl⟩ | ⟨hP, e, he, rfl⟩ := h
  · exact (hf a).imp (fun ⟨hQ, hok⟩ => ⟨⟨hP, hQ⟩, hok⟩)
      fun ⟨hQ, herror⟩ => ⟨mt And.right hQ, herror⟩
  · exact .inr ⟨mt And.left hP, e, he, rfl⟩

theorem Decides.ok (a : α) : Decides True E (.ok a) :=
  .inl ⟨trivial, a, rfl⟩

theorem Decides.forM {f : α → Except ε Unit} (h : ∀ x, Decides (P x) E (f x)) (xs : List α) :
    Decides (∀ x ∈ xs, P x) E (xs.forM f) := by
  induction xs with
  | nil => exact .inl ⟨nofun, (), rfl⟩
  | cons x xs ih =>
      rw [List.forM_eq_forM] at ih
      rw [List.forM_eq_forM, List.forM_cons, List.forall_mem_cons]
      exact (h x).bind fun _ => ih

theorem Decides.mapM {f : α → Except ε β} (h : ∀ x, Decides (P x) E (f x)) (xs : List α) :
    Decides (∀ x ∈ xs, P x) E (xs.mapM f) := by
  induction xs with
  | nil => exact .inl ⟨nofun, [], rfl⟩
  | cons x xs ih =>
      rw [List.mapM_cons, List.forall_mem_cons, ← and_true (∀ y ∈ xs, P y)]
      exact (h x).bind fun y => ih.bind fun ys => .ok (y :: ys)

end

namespace Pipeline

/-- The handle leads to a node of the pipeline. -/
def Live (p : Pipeline) (h : Handle) : Prop :=
  ∃ n, p.get? h = some n

/-- A chain can start from the link: it is a text, or it goes through a handle to a node that feeds
others. -/
def Startable (p : Pipeline) (link : Link) : Prop :=
  ∀ h, link.handle? = some h → p.Live h ∧ h.kind ≠ .output

/-- The link has a label: it is a text, a node with a pad that can be taken, or a stream of an
input. -/
def Labelled (p : Pipeline) : Link → Prop
  | .label _ => True
  | .node h => p.Live h ∧ (h.kind = .input ∨ h.kind = .filter ∨ h.kind = .global)
  | .stream h _ => p.Live h ∧ h.kind = .input

variable {p : Pipeline}

theorem checkLink_decides (p : Pipeline) (role : CallerRole) (link : Link) :
    Decides (p.Startable link) (fun e => ∃ fault, e = .invalidCaller role fault)
      (p.checkLink role link) := by
  unfold checkLink Startable
  cases link.handle? with
  | none => exact .inl ⟨nofun, (), rfl⟩
  | some h =>
      dsimp only
      cases hget : p.get? h with
      | none => exact .inr ⟨fun hs => by simp [Live, hget] at hs, _, ⟨_, rfl⟩, rfl⟩
      | some n =>
          by_cases hkind : h.kind = .output
          · exact .inr ⟨fun hs => (hs h rfl).2 hkind, _, ⟨.output, rfl⟩, if_pos hkind⟩
          · refine .inl ⟨?_, (), if_neg hkind⟩
            rintro _ ⟨⟩
            exact ⟨⟨n, hget⟩, hkind⟩

/-- A caller is there, or sources that stand in for it, and a chain can start from each of its
links. -/
def Feeds (p : Pipeline) (caller named : List Link) : Prop :=
  (caller ≠ [] ∨ named ≠ []) ∧ ∀ link ∈ caller, p.Startable link

theorem checkCaller_decides (p : Pipeline) (role : CallerRole) (caller named : List Link) :
    Decides (p.Feeds caller named) (fun e => ∃ fault, e = .invalidCaller role fault)
      (p.checkCaller role caller (!named.isEmpty)) := by
  have hempty : (caller.isEmpty && !!named.isEmpty) = true ↔ ¬ (caller ≠ [] ∨ named ≠ []) := by
    simp
  unfold checkCaller Feeds
  split
  · next h => exact .inr ⟨fun hfeeds => hempty.mp h hfeeds.1, _, ⟨.missing, rfl⟩, rfl⟩
  · next h =>
      have hthere := not_not.mp (mt hempty.mpr h)
      have hlinks := Decides.forM (p.checkLink_decides role) caller
      simpa only [Decides, hthere, true_and] using hlinks

theorem checkArgument_decides {P : Prop} {isEmpty : Bool} (h : isEmpty = false ↔ P)
    (argument : RequiredArgument) :
    Decides P (fun e => ∃ argument, e = .missingArgument argument)
      (checkArgument isEmpty argument) := by
  cases isEmpty with
  | false => exact .inl ⟨h.mp rfl, (), rfl⟩
  | true => exact .inr ⟨nofun ∘ h.mpr, _, ⟨argument, rfl⟩, rfl⟩

/-- A live link has a label as its kind says; that a global node has an output to take is the
invariant of the pipelines of a run. -/
theorem WellFormed.resolve_decides (hp : p.WellFormed) (link : Link) :
    Decides (p.Labelled link) (fun e => ∃ source, e = .unresolvedSource source)
      (p.resolve link) := by
  have hdead : ∀ {h : Handle}, p.get? h = none → ¬ p.Live h := by
    rintro h hget ⟨n, hn⟩
    cases hget.symm.trans hn
  cases link with
  | label label => exact .inl ⟨trivial, label, rfl⟩
  | node h =>
      simp only [resolve, Labelled]
      cases hget : p.get? h with
      | none => exact .inr ⟨fun hl => hdead hget hl.1, _, ⟨_, rfl⟩, rfl⟩
      | some n =>
          obtain ⟨-, hn, hkind⟩ := get?_eq_some_iff.mp hget
          have hlive : p.Live h := ⟨n, hget⟩
          cases n with
          | input n => exact .inl ⟨⟨hlive, .inl hkind.symm⟩, _, rfl⟩
          | filter n => exact .inl ⟨⟨hlive, .inr (.inl hkind.symm)⟩, _, rfl⟩
          | global n =>
              obtain ⟨-, houtputs⟩ := hp.complete _ (List.mem_of_getElem? hn)
              obtain ⟨label, labels, hlabels⟩ := List.exists_cons_of_ne_nil houtputs
              exact .inl ⟨⟨hlive, .inr (.inr hkind.symm)⟩, label, by simp [defaultLabel, hlabels]⟩
          | option n | output n =>
              refine .inr ⟨?_, _, ⟨_, rfl⟩, rfl⟩
              rintro ⟨-, h | h | h⟩ <;> cases hkind.trans h
  | stream h stream =>
      simp only [resolve, Labelled]
      cases hget : p.get? h with
      | none => exact .inr ⟨fun hl => hdead hget hl.1, _, ⟨_, rfl⟩, rfl⟩
      | some n =>
          obtain ⟨-, -, hkind⟩ := get?_eq_some_iff.mp hget
          cases n with
          | input n => exact .inl ⟨⟨⟨_, hget⟩, hkind.symm⟩, _, rfl⟩
          | filter n | global n | option n | output n =>
              have hne : h.kind ≠ .input := by
                rw [← hkind]
                simp [Node.kind]
              exact .inr ⟨fun hl => hne hl.2, _, ⟨_, rfl⟩, rfl⟩

end Pipeline

namespace BuildCall

/-- The role in which a call names itself to its caller, if it has one. -/
def role? : BuildCall → Option CallerRole
  | filter _ _ => some .filter
  | global _ _ => some .global
  | output _ _ => some .output
  | input _ | option _ => none

/-- A call that has a caller can be fed by it. The sources that a call names do not stand in for the
caller here, except that it may be empty then. -/
def CallerFits (p : Pipeline) : BuildCall → Prop
  | filter caller spec => p.Feeds caller spec.inputs
  | global caller spec => p.Feeds caller spec.inputs
  | output caller _ => p.Feeds caller []
  | input _ | option _ => True

/-- No argument of a call is empty that may not be. -/
def Complete : BuildCall → Prop
  | input name => name ≠ ""
  | filter _ spec => spec.name ≠ "" ∧ spec.params ≠ []
  | global _ _ => True
  | output _ name => name ≠ ""
  | option spec => spec.tag ≠ ""

/-- The links that a call uses: those that feed its node, or those that an option keeps. -/
def links : BuildCall → List Link
  | option spec => spec.outputs
  | call => call.sources

def checkCaller (p : Pipeline) : BuildCall → Except GraphError Unit
  | filter caller spec => p.checkCaller .filter caller (!spec.inputs.isEmpty)
  | global caller spec => p.checkCaller .global caller (!spec.inputs.isEmpty)
  | output caller _ => p.checkCaller .output caller false
  | input _ | option _ => .ok ()

def checkArguments : BuildCall → Except GraphError Unit
  | input name => Pipeline.checkArgument name.isEmpty .inputName
  | filter _ spec => do
    Pipeline.checkArgument spec.name.isEmpty .filterName
    Pipeline.checkArgument spec.params.isEmpty (.filterParams spec.name)
  | global _ _ => .ok ()
  | output _ name => Pipeline.checkArgument name.isEmpty .outputName
  | option spec => Pipeline.checkArgument spec.tag.isEmpty .optionTag

/-- All calls make their checks in one order. -/
theorem checks_eq (call : BuildCall) (p : Pipeline) :
    call.checks p = (do
      call.checkCaller p
      call.checkArguments
      p.resolveAll call.links) := by
  cases call with
  | input name =>
      simp only [checks, checkArguments]
      cases Pipeline.checkArgument name.isEmpty .inputName <;> rfl
  | filter caller spec =>
      simp only [checks, Pipeline.filterInputs, checkCaller, checkArguments, bind_assoc]
      rfl
  | global caller spec | output caller name | option spec => rfl

variable {p : Pipeline}

theorem checkCaller_decides (call : BuildCall) (p : Pipeline) :
    Decides (call.CallerFits p)
      (fun e => ∃ role fault, call.role? = some role ∧ e = .invalidCaller role fault)
      (call.checkCaller p) := by
  cases call with
  | input name | option spec => exact .inl ⟨trivial, (), rfl⟩
  | filter caller spec =>
      exact (p.checkCaller_decides .filter caller spec.inputs).mono
        fun e ⟨fault, he⟩ => ⟨_, fault, rfl, he⟩
  | global caller spec =>
      exact (p.checkCaller_decides .global caller spec.inputs).mono
        fun e ⟨fault, he⟩ => ⟨_, fault, rfl, he⟩
  | output caller name =>
      exact (p.checkCaller_decides .output caller []).mono
        fun e ⟨fault, he⟩ => ⟨_, fault, rfl, he⟩

theorem checkArguments_decides (call : BuildCall) :
    Decides call.Complete (fun e => ∃ argument, e = .missingArgument argument)
      call.checkArguments := by
  cases call with
  | input name => exact Pipeline.checkArgument_decides (by simp [Complete]) .inputName
  | filter caller spec =>
      exact (Pipeline.checkArgument_decides (by simp) .filterName).bind fun _ =>
        Pipeline.checkArgument_decides (by simp) (.filterParams spec.name)
  | global caller spec => exact .ok ()
  | output caller name => exact Pipeline.checkArgument_decides (by simp [Complete]) .outputName
  | option spec => exact Pipeline.checkArgument_decides (by simp [Complete]) .optionTag

/-- The checks of a call pass, or one of them is the first that fails. -/
theorem checks_cases (call : BuildCall) (hp : p.WellFormed) :
    ((call.CallerFits p ∧ call.Complete ∧ ∀ link ∈ call.links, p.Labelled link) ∧
      ∃ labels, call.checks p = .ok labels) ∨
    (¬ call.CallerFits p ∧ ∃ role fault, call.role? = some role ∧
      call.checks p = .error (.invalidCaller role fault)) ∨
    (call.CallerFits p ∧ ¬ call.Complete ∧ ∃ argument,
      call.checks p = .error (.missingArgument argument)) ∨
    (call.CallerFits p ∧ call.Complete ∧ (¬ ∀ link ∈ call.links, p.Labelled link) ∧ ∃ source,
      call.checks p = .error (.unresolvedSource source)) := by
  rw [checks_eq, Pipeline.resolveAll]
  -- Each check is looked at only where those in front of it pass.
  obtain ⟨hcaller, _, hok⟩ | ⟨hcaller, _, ⟨role, fault, hrole, rfl⟩, herror⟩ :=
    call.checkCaller_decides p
  · rw [hok]
    obtain ⟨hcomplete, _, hok⟩ | ⟨hcomplete, _, ⟨argument, rfl⟩, herror⟩ :=
      call.checkArguments_decides
    · rw [hok]
      obtain ⟨hlabelled, hok⟩ | ⟨hlabelled, _, ⟨source, rfl⟩, herror⟩ :=
        Decides.mapM hp.resolve_decides call.links
      · exact .inl ⟨⟨hcaller, hcomplete, hlabelled⟩, hok⟩
      · exact .inr (.inr (.inr ⟨hcaller, hcomplete, hlabelled, source, herror⟩))
    · rw [herror]
      exact .inr (.inr (.inl ⟨hcaller, hcomplete, argument, rfl⟩))
  · rw [herror]
    exact .inr (.inl ⟨hcaller, role, fault, hrole, rfl⟩)

/-- The node says what its call was given, and has the labels that the links of the call resolved
to. Outputs that the call names are kept. -/
def Fills (labels : List Label) : BuildCall → Node → Prop
  | input name, .input n => n.name = name
  | filter _ spec, .filter n =>
    n.inputs = labels ∧ n.filter = spec.name ∧ n.params = spec.params ∧
      ∀ label ∈ spec.output, n.output = label
  | global _ spec, .global n =>
    n.inputs = labels ∧ n.args = spec.args ∧ (spec.outputs ≠ [] → n.outputs = spec.outputs)
  | output _ name, .output n => n.name = name ∧ n.inputs = labels
  | option spec, .option n => n.tag = spec.tag ∧ n.value = spec.value ∧ n.outputs = labels
  | _, _ => False

theorem fills_node (call : BuildCall) (p : Pipeline) (labels : List Label) :
    call.Fills labels (call.node p labels) := by
  cases call with
  | input name => rfl
  | filter caller spec =>
      refine ⟨rfl, rfl, rfl, fun label hlabel => ?_⟩
      rw [Option.mem_def] at hlabel
      simp only [hlabel, Pipeline.outputLabel]
  | global caller spec =>
      refine ⟨rfl, rfl, fun houtputs => ?_⟩
      simp [Pipeline.outputLabels, houtputs]
  | output caller name => exact ⟨rfl, rfl⟩
  | option spec => exact ⟨rfl, rfl, rfl⟩

end BuildCall

/-! ### Outcomes -/

/-- A call on a pipeline of a run succeeds if and only if its caller can feed it, none of its
arguments is missing and every link it uses has a label, and then it adds the node with these
labels. If it fails, the first of the three that does not hold gives the kind of the error, and
nothing is changed. What specifications are made of is told by the chains that make them. -/
theorem building_outcome :
    (∀ (as : List Action) (t : Nat) (p : Pipeline), (run as).pipelines[t]? = some p →
      ∀ call : BuildCall,
      ((∃ h, (call.perform p).1 = .ok h) ↔
        call.CallerFits p ∧ call.Complete ∧ ∀ link ∈ call.links, p.Labelled link) ∧
      (∀ h, (call.perform p).1 = .ok h → ∃ labels n,
        List.Forall₂ (fun link label => p.resolve link = .ok label) call.links labels ∧
        call.Fills labels n ∧ (call.perform p).2.nodes = p.nodes ++ [n]) ∧
      (¬ call.CallerFits p → ∃ role fault, call.role? = some role ∧
        call.perform p = (.error (.invalidCaller role fault), p)) ∧
      (call.CallerFits p → ¬ call.Complete → ∃ argument,
        call.perform p = (.error (.missingArgument argument), p)) ∧
      (call.CallerFits p → call.Complete → (¬ ∀ link ∈ call.links, p.Labelled link) → ∃ source,
        call.perform p = (.error (.unresolvedSource source), p))) ∧
    (∀ name steps, FilterSpec.ofSteps name steps =
      { name
        params := steps.filterMap FilterStep.param?
        inputs := (steps.filterMap FilterStep.inputs?).getLast?.getD []
        output := (steps.filterMap FilterStep.output?).getLast? }) ∧
    ∀ args steps, GlobalSpec.ofSteps args steps =
      { args
        inputs := (steps.filterMap GlobalStep.inputs?).getLast?.getD []
        outputs := (steps.filterMap GlobalStep.outputs?).flatten
        reserved := (steps.filterMap GlobalStep.reserve?).getLast?.getD 1 } := by
  refine ⟨fun as t p hp call => ?_, FilterSpec.ofSteps_eq, GlobalSpec.ofSteps_eq⟩
  have hperform := call.perform_eq p
  obtain ⟨⟨hcaller, hcomplete, hlabelled⟩, labels, hchecks⟩ |
    ⟨hcaller, role, fault, hrole, hchecks⟩ | ⟨hcaller, hcomplete, argument, hchecks⟩ |
    ⟨hcaller, hcomplete, hlabelled, source, hchecks⟩ := call.checks_cases (wellFormed_of_run hp)
  · have hresolved := hchecks
    rw [BuildCall.checks_eq, check_bind_eq_ok_iff, check_bind_eq_ok_iff] at hresolved
    rw [hchecks] at hperform
    exact ⟨iff_of_true ⟨_, congrArg Prod.fst hperform⟩ ⟨hcaller, hcomplete, hlabelled⟩,
      fun _ _ => ⟨labels, _, mapM_eq_ok_iff.mp hresolved.2.2, call.fills_node p labels,
        congrArg (fun built : Pipeline.Built => built.2.nodes) hperform⟩,
      fun h => absurd hcaller h, fun _ h => absurd hcomplete h, fun _ _ h => absurd hlabelled h⟩
  -- In the other cases the call returns the error of the checks and the pipeline as it was.
  all_goals
    rw [hchecks] at hperform
    have hfails : ¬ ∃ h, (call.perform p).1 = .ok h := by
      rw [hperform]
      exact nofun
  · exact ⟨iff_of_false hfails fun h => hcaller h.1, fun h hh => absurd ⟨h, hh⟩ hfails,
      fun _ => ⟨role, fault, hrole, hperform⟩, fun h => absurd h hcaller, fun h => absurd h hcaller⟩
  · exact ⟨iff_of_false hfails fun h => hcomplete h.2.1, fun h hh => absurd ⟨h, hh⟩ hfails,
      fun h => absurd hcaller h, fun _ _ => ⟨argument, hperform⟩, fun _ h => absurd h hcomplete⟩
  · exact ⟨iff_of_false hfails fun h => hlabelled h.2.2, fun h hh => absurd ⟨h, hh⟩ hfails,
      fun h => absurd hcaller h, fun _ h => absurd hcomplete h, fun _ _ _ => ⟨source, hperform⟩⟩

/-- An input and an output that maps it. -/
def convertedRun : List Action :=
  [.create (.seeded 0) {}, .build 0 (.input "a.mp4"),
    .build 0 (.output [.node ⟨0, 0, .input⟩] "out.mp4")]

/-- A step with sources of its own, of which one is the audio of the input. -/
def mixingStep : FilterSpec :=
  .ofSteps "amix" [.inputs [], .param "inputs" "2", .output ⟨"m"⟩,
    .inputs [.label ⟨"1:a"⟩, .stream ⟨0, 0, .input⟩ .audio], .param "duration" "first",
    .output ⟨"mixed"⟩]

/-- The output cannot feed the step, although the step does not use what it is called on; on the
input the step is added. -/
theorem building_outcome_convertedRun :
    ∃ p, (run convertedRun).pipelines[0]? = some p ∧
      (∃ role fault, (BuildCall.filter [.node ⟨0, 1, .output⟩] mixingStep).role? = some role ∧
        BuildCall.perform p (.filter [.node ⟨0, 1, .output⟩] mixingStep) =
          (.error (.invalidCaller role fault), p)) ∧
      ∃ h, (BuildCall.perform p (.filter [.node ⟨0, 0, .input⟩] mixingStep)).1 = .ok h := by
  obtain ⟨p, hp, hlive⟩ : ∃ p, (run convertedRun).pipelines[0]? = some p ∧
      p.Live ⟨0, 0, .input⟩ := ⟨_, rfl, .input ⟨"a.mp4", 0⟩, rfl⟩
  obtain ⟨houtcome, -⟩ := building_outcome
  obtain ⟨-, -, hcaller, -⟩ := houtcome _ _ p hp (.filter [.node ⟨0, 1, .output⟩] mixingStep)
  obtain ⟨hsuccess, -⟩ := houtcome _ _ p hp (.filter [.node ⟨0, 0, .input⟩] mixingStep)
  refine ⟨_, hp, hcaller ?_, hsuccess.mpr ⟨⟨.inl nofun, ?_⟩, ⟨nofun, nofun⟩, ?_⟩⟩
  · rintro ⟨-, hstart⟩
    exact (hstart _ List.mem_cons_self ⟨0, 1, .output⟩ rfl).2 rfl
  · refine List.forall_mem_singleton.mpr ?_
    rintro _ ⟨⟩
    exact ⟨hlive, nofun⟩
  · exact List.forall_mem_cons.mpr ⟨trivial, List.forall_mem_singleton.mpr ⟨hlive, rfl⟩⟩

end MediaPipeline
