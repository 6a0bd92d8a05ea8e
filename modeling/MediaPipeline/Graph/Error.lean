import MediaPipeline.Graph.Node
import MediaPipeline.Process.Output

/-!
Why a pipeline could not be built or run.
-/

namespace MediaPipeline

/-- The building calls that take sources from a caller. -/
inductive CallerRole where
  | filter
  | global
  | output
  deriving DecidableEq

def CallerRole.name : CallerRole → String
  | filter => "filter"
  | global => "global"
  | output => "output"

inductive RequiredArgument where
  | inputName
  | filterName
  | filterParams (filter : String)
  | outputName
  | optionTag
  deriving DecidableEq

def RequiredArgument.message : RequiredArgument → String
  | inputName => "input requires a file name"
  | filterName => "filter requires a filter name"
  | filterParams filter => "filter '" ++ filter ++ "' requires at least one parameter"
  | outputName => "output requires a file name"
  | optionTag => "option requires a tag"

/-- Why a caller cannot feed a node. -/
inductive CallerFault where
  | missing
  | foreign (id : Nat)
  | output
  deriving DecidableEq

def CallerFault.message (role : CallerRole) : CallerFault → String
  | missing => role.name ++ " requires a filter, input, global or label caller"
  | foreign id =>
    role.name ++ " received node #" ++ toString id ++ " which does not belong to this stream"
  | output => role.name ++ " cannot be fed by an output node"

inductive Unlabelled where
  | unknown (id : Nat)
  | globalWithoutOutputs
  /-- A node of a kind without a pad that could be taken. -/
  | kind (kind : NodeKind)
  | selection (kind : NodeKind)
  deriving DecidableEq

def Unlabelled.message : Unlabelled → String
  | unknown id => "unknown node #" ++ toString id
  | globalWithoutOutputs => "a global node without outputs"
  | kind k => k.description
  | selection k => k.description ++ " (stream selection needs an input node)"

/-- Why a pipeline could not be built or run. -/
inductive GraphError where
  | missingArgument (argument : RequiredArgument)
  | invalidCaller (role : CallerRole) (fault : CallerFault)
  | unresolvedSource (source : Unlabelled)
  | missingOutputRoot
  | processFailure (program : String) (code : Option Int32) (stdout stderr : String)
  | io (failure : IoFailure)
  deriving DecidableEq

/-- An exit code as a message gives it. -/
def statusText : Option Int32 → String
  | none => "unknown"
  | some code => toString code

def GraphError.message : GraphError → String
  | missingArgument argument => "Missing required argument: " ++ argument.message
  | invalidCaller role fault => "Invalid caller type: " ++ fault.message role
  | unresolvedSource source => "Cannot derive a label from " ++ source.message
  | missingOutputRoot => "run requires an output node as its caller"
  | processFailure program code _ stderr =>
    program ++ " exited with status " ++ statusText code ++ ": " ++ stderr
  | io failure => "IO error: " ++ failure.message

end MediaPipeline
