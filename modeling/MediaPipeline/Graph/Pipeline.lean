import MediaPipeline.Config
import MediaPipeline.Graph.Command
import MediaPipeline.Graph.Error
import MediaPipeline.Graph.Spec
import MediaPipeline.Label.Generator

/-!
A pipeline holds the nodes of one description in the order in which they were built. Building calls
first make all their checks against the pipeline as it is and then add one node; a call that fails
changes nothing. Handles carry the owner stamp of the pipeline that issued them, and a reset takes
a new stamp, so that older handles stop resolving.
-/

namespace MediaPipeline

/-- Nodes of a description in creation order, with what is needed to add more. -/
structure Pipeline where
  /-- Stamped into every handle. -/
  owner : UInt64
  nodes : List Node
  inputCount : Nat
  labels : LabelGenerator
  config : PipelineConfig

namespace Pipeline

def create (owner : UInt64) (labels : LabelGenerator) (config : PipelineConfig) : Pipeline :=
  ⟨owner, [], 0, labels, config⟩

/-- Forgets every node and takes a new owner stamp. Labels go on where they were. -/
def reset (p : Pipeline) (owner : UInt64) : Pipeline :=
  { p with owner, nodes := [], inputCount := 0 }

/-- The node of a handle that this pipeline issued and still knows. -/
def get? (p : Pipeline) (h : Handle) : Option Node :=
  if h.owner = p.owner then p.nodes[h.id]?.filter fun n => n.kind = h.kind else none

/-! ### Labels of links -/

def defaultLabel : Node → Except GraphError Label
  | .filter n => .ok n.output
  | .input n => .ok (n.label .video)
  | .global n => match n.outputs with
    | label :: _ => .ok label
    | [] => .error (.unresolvedSource .globalWithoutOutputs)
  | n => .error (.unresolvedSource (.kind n.kind))

def streamLabel (stream : StreamType) : Node → Except GraphError Label
  | .input n => .ok (n.label stream)
  | n => .error (.unresolvedSource (.selection n.kind))

def resolve (p : Pipeline) (link : Link) : Except GraphError Label :=
  let ofHandle (h : Handle) (label : Node → Except GraphError Label) :=
    match p.get? h with
    | some n => label n
    | none => .error (.unresolvedSource (.unknown h.id))
  match link with
  | .label label => .ok label
  | .node h => ofHandle h defaultLabel
  | .stream h stream => ofHandle h (streamLabel stream)

def resolveAll (p : Pipeline) (links : List Link) : Except GraphError (List Label) :=
  links.mapM p.resolve

/-! ### Checks -/

def checkLink (p : Pipeline) (role : CallerRole) (link : Link) : Except GraphError Unit :=
  match link.handle? with
  | none => .ok ()
  | some h =>
    match p.get? h with
    | none => .error (.invalidCaller role (.foreign h.id))
    | some _ => if h.kind = .output then .error (.invalidCaller role .output) else .ok ()

/-- Checks a caller; it may be empty only where the call names its own sources. -/
def checkCaller (p : Pipeline) (role : CallerRole) (caller : List Link) (hasSources : Bool) :
    Except GraphError Unit :=
  if caller.isEmpty && !hasSources then .error (.invalidCaller role .missing)
  else caller.forM (p.checkLink role)

def checkArgument (isEmpty : Bool) (argument : RequiredArgument) : Except GraphError Unit :=
  if isEmpty then .error (.missingArgument argument) else .ok ()

/-- The links a node is fed by: those the call names, or else the caller. -/
def sources (caller named : List Link) : List Link :=
  if named.isEmpty then caller else named

def filterInputs (p : Pipeline) (caller : List Link) (spec : FilterSpec) :
    Except GraphError (List Label) := do
  p.checkCaller .filter caller (!spec.inputs.isEmpty)
  checkArgument spec.name.isEmpty .filterName
  checkArgument spec.params.isEmpty (.filterParams spec.name)
  p.resolveAll (sources caller spec.inputs)

def globalInputs (p : Pipeline) (caller : List Link) (spec : GlobalSpec) :
    Except GraphError (List Label) := do
  p.checkCaller .global caller (!spec.inputs.isEmpty)
  p.resolveAll (sources caller spec.inputs)

def outputInputs (p : Pipeline) (caller : List Link) (name : String) :
    Except GraphError (List Label) := do
  p.checkCaller .output caller false
  checkArgument name.isEmpty .outputName
  p.resolveAll caller

def optionOutputs (p : Pipeline) (spec : OptionSpec) : Except GraphError (List Label) := do
  checkArgument spec.tag.isEmpty .optionTag
  p.resolveAll spec.outputs

/-! ### Building calls -/

def add (p : Pipeline) (node : Node) : Handle × Pipeline :=
  let inputCount := if node.kind = .input then p.inputCount + 1 else p.inputCount
  (⟨p.owner, p.nodes.length, node.kind⟩, { p with nodes := p.nodes ++ [node], inputCount })

def outputLabel (p : Pipeline) : Option Label → Label × Pipeline
  | some label => (label, p)
  | none =>
    let (label, labels) := p.labels.next
    (label, { p with labels })

/-- The labels that were named, or generated ones, at least one. -/
def outputLabels (p : Pipeline) (named : List Label) (reserved : Nat) : List Label × Pipeline :=
  if named.isEmpty then
    let (generated, labels) := p.labels.take (max reserved 1)
    (generated, { p with labels })
  else (named, p)

/-- The outcome of a building call, and the pipeline after it. -/
abbrev Built := Except GraphError Handle × Pipeline

/-- Adds a node where the checks of its call have passed. -/
def build (p : Pipeline) {α : Type} (checks : Except GraphError α) (node : α → Node × Pipeline) :
    Built :=
  match checks with
  | .error e => (.error e, p)
  | .ok a =>
    let (n, p) := node a
    let (h, p) := p.add n
    (.ok h, p)

def input (p : Pipeline) (name : String) : Built :=
  p.build (checkArgument name.isEmpty .inputName) fun _ => (.input ⟨name, p.inputCount⟩, p)

/-- Adds a filter step fed by the caller, or by the sources the step names. -/
def filter (p : Pipeline) (caller : List Link) (spec : FilterSpec) : Built :=
  p.build (p.filterInputs caller spec) fun inputs =>
    let (output, p) := p.outputLabel spec.output
    (.filter ⟨inputs, spec.name, spec.params, output⟩, p)

/-- Adds a statement in free form. -/
def global (p : Pipeline) (caller : List Link) (spec : GlobalSpec) : Built :=
  p.build (p.globalInputs caller spec) fun inputs =>
    let (outputs, p) := p.outputLabels spec.outputs spec.reserved
    (.global ⟨inputs, outputs, spec.args⟩, p)

/-- Adds a destination with one mapping per link of the caller. -/
def output (p : Pipeline) (caller : List Link) (name : String) : Built :=
  p.build (p.outputInputs caller name) fun inputs => (.output ⟨name, inputs⟩, p)

/-- Adds a command-line flag outside of the filter graph. -/
def option (p : Pipeline) (spec : OptionSpec) : Built :=
  p.build (p.optionOutputs spec) fun outputs => (.option ⟨spec.tag, spec.value, outputs⟩, p)

/-! ### Command and run -/

/-- The command line of the whole pipeline, asked for through one of its outputs. -/
def command (p : Pipeline) (root : Handle) : Except GraphError String :=
  match p.get? root with
  | some (.output _) => .ok (compile p.nodes p.config.program)
  | _ => .error .missingOutputRoot

/-- What a run amounts to when its process has ended, or has not started. -/
def outcome (p : Pipeline) : Except IoFailure ProcessOutput → Except GraphError ProcessOutput
  | .error failure => .error (.io failure)
  | .ok o =>
    if o.success then .ok o
    else .error (.processFailure p.config.program o.code o.stdoutText o.stderrText)

/-- Compiles the pipeline and hands its command line to `execute`. -/
def run {m : Type → Type} [Monad m] (p : Pipeline)
    (execute : String → m (Except IoFailure ProcessOutput)) (root : Handle) :
    m (Except GraphError ProcessOutput) :=
  match p.command root with
  | .error e => pure (.error e)
  | .ok command => p.outcome <$> execute command

end Pipeline

end MediaPipeline
