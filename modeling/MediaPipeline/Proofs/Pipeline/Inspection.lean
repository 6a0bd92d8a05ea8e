import MediaPipeline.Graph.Inspection
import MediaPipeline.Json.Record
import MediaPipeline.Proofs.Json.Parsing
import MediaPipeline.Proofs.Pipeline.Building

/-!
The document of a node list says all there is to say about it. It is written without white space, an
object for each node, with its kind in front of its fields. A reader that takes the fields by name
gets the list back from the text; so different lists have different texts, whatever is in them.
-/

namespace MediaPipeline

open Json (Reader ReadError Record Written quotedText listText objectText)

/-! ### The text of a node -/

/-- Labels as quoted texts. -/
def labelsText (labels : List Label) : String :=
  listText (labels.map fun l => quotedText l.text)

/-- The text of a node: its kind, and then its fields in order. -/
def Node.text : Node → String
  | input n => objectText [("type", quotedText "input"), ("name", quotedText n.name),
      ("index", toString n.index)]
  | filter n => objectText [("type", quotedText "filter"), ("inputs", labelsText n.inputs),
      ("filter", quotedText n.filter),
      ("params", listText (n.params.map fun p => listText [quotedText p.1, quotedText p.2])),
      ("output", quotedText n.output.text)]
  | global n => objectText [("type", quotedText "global"), ("inputs", labelsText n.inputs),
      ("outputs", labelsText n.outputs), ("args", quotedText n.args)]
  | option n => objectText [("type", quotedText "option"), ("tag", quotedText n.tag),
      ("name", quotedText n.value), ("outputs", labelsText n.outputs)]
  | output n => objectText [("type", quotedText "output"), ("name", quotedText n.name),
      ("inputs", labelsText n.inputs)]

@[simp] theorem Label.toText_toJson (l : Label) : l.toJson.toText = quotedText l.text :=
  Json.toText_ofString l.text

@[simp] theorem Label.toText_listToJson (labels : List Label) :
    (Label.listToJson labels).toText = labelsText labels := by
  simp [listToJson, labelsText, Function.comp_def]

@[simp] theorem toText_parameterToJson (param : String × String) :
    (parameterToJson param).toText = listText [quotedText param.1, quotedText param.2] := by
  simp [parameterToJson]

theorem Node.toText_toJson (n : Node) : n.toJson.toText = n.text := by
  rw [toJson, Json.toText_ofMembers]
  cases n with
  | input n => simp [text, members, InputNode.members, kind, NodeKind.name]
  | filter n => simp [text, members, FilterNode.members, kind, NodeKind.name, Function.comp_def]
  | global n => simp [text, members, GlobalNode.members, kind, NodeKind.name]
  | option n => simp [text, members, OptionNode.members, kind, NodeKind.name]
  | output n => simp [text, members, OutputNode.members, kind, NodeKind.name]

theorem inspect_eq (nodes : List Node) : inspect nodes = listText (nodes.map Node.text) := by
  rw [inspect, Json.toText_ofList, List.map_map]
  exact congrArg listText (List.map_congr_left fun n _ => n.toText_toJson)

/-! ### Reading nodes -/

def Label.read : Reader Label :=
  fun v => Label.mk <$> Reader.text v

/-- A key and its value. -/
def readPair : Reader (String × String) := fun v => do
  match ← Reader.list Reader.text v with
  | [key, value] => pure (key, value)
  | texts => throw (.invalidLength texts.length "a key and a value")

/-- A natural number of any size. -/
def readNatural : Reader Nat
  | .number numeral =>
    if numeral.all Decimal.isDigit then .ok (Decimal.value numeral)
    else .error (Json.mismatch "a natural number" (.number numeral))
  | v => .error (v.mismatch "a natural number")

def InputNode.read (fields : Record.Values) : Except ReadError InputNode := do
  pure {
    name := ← fields.required "name" Reader.text
    index := ← fields.required "index" readNatural }

def FilterNode.read (fields : Record.Values) : Except ReadError FilterNode := do
  pure {
    inputs := ← fields.required "inputs" (Reader.list Label.read)
    filter := ← fields.required "filter" Reader.text
    params := ← fields.required "params" (Reader.list readPair)
    output := ← fields.required "output" Label.read }

def GlobalNode.read (fields : Record.Values) : Except ReadError GlobalNode := do
  pure {
    inputs := ← fields.required "inputs" (Reader.list Label.read)
    outputs := ← fields.required "outputs" (Reader.list Label.read)
    args := ← fields.required "args" Reader.text }

def OptionNode.read (fields : Record.Values) : Except ReadError OptionNode := do
  pure {
    tag := ← fields.required "tag" Reader.text
    value := ← fields.required "name" Reader.text
    outputs := ← fields.required "outputs" (Reader.list Label.read) }

def OutputNode.read (fields : Record.Values) : Except ReadError OutputNode := do
  pure {
    name := ← fields.required "name" Reader.text
    inputs := ← fields.required "inputs" (Reader.list Label.read) }

/-- The kind of a node by its word. -/
def NodeKind.read : Reader NodeKind :=
  Reader.variant ([.input, .filter, .global, .option, .output].map fun k => (NodeKind.name k, k))

/-- A node of a known kind. -/
def NodeKind.readNode (fields : Record.Values) : NodeKind → Except ReadError Node
  | input => .input <$> InputNode.read fields
  | filter => .filter <$> FilterNode.read fields
  | global => .global <$> GlobalNode.read fields
  | option => .option <$> OptionNode.read fields
  | output => .output <$> OutputNode.read fields

def Node.read : Reader Node
  | .object members => do
    let fields : Record.Values ← Reader.members .ok members
    let kind ← fields.required "type" NodeKind.read
    kind.readNode fields
  | v => .error (v.mismatch "a node")

/-! ### Reading what was written -/

@[simp] theorem Label.read_toJson (l : Label) : Label.read l.toJson = .ok l := by
  rw [read, toJson, Reader.text_ofString]
  rfl

@[simp] theorem Label.read_listToJson (labels : List Label) :
    Reader.list Label.read (Label.listToJson labels) = .ok labels :=
  Reader.list_ofList _ fun l _ => l.read_toJson

@[simp] theorem readPair_toJson (param : String × String) :
    readPair (parameterToJson param) = .ok param := by
  have htexts : Reader.list Reader.text (parameterToJson param) = .ok [param.1, param.2] :=
    Reader.list_ofList [param.1, param.2] fun s _ => Reader.text_ofString s
  rw [readPair, htexts]
  rfl

@[simp] theorem readNatural_ofNat (n : Nat) : readNatural (.ofNat n) = .ok n := by
  rw [readNatural.eq_def, Json.ofNat, Decimal.toList_toString]
  simp only [Decimal.all_isDigit_toDigits, if_true, Decimal.value_toDigits]

theorem NodeKind.read_name (k : NodeKind) : NodeKind.read (.ofString k.name) = .ok k := by
  rw [NodeKind.read, Json.ofString, Reader.variant, Json.Spelling.read_ofString]
  cases k <;> rfl

/-- The field that comes first is found by its name, and not by another one. -/
theorem required_cons {α : Type} (name key : String) (v : Json.Value) (fields : Record.Values)
    (read : Reader α) :
    Record.Values.required ((key, v) :: fields) name read =
      if name = key then read v else fields.required name read := by
  by_cases h : name = key
  · simp [Record.Values.required, h]
  · simp [Record.Values.required, List.lookup_cons, h, beq_eq_false_iff_ne.mpr h]

theorem InputNode.read_members (n : InputNode) (kind : Json.Value) :
    InputNode.read (("type", kind) :: n.members) = .ok n := by
  simp [read, members, required_cons, bind, Except.bind, pure, Except.pure]

theorem FilterNode.read_members (n : FilterNode) (kind : Json.Value) :
    FilterNode.read (("type", kind) :: n.members) = .ok n := by
  have hparams : Reader.list readPair (.ofList (n.params.map parameterToJson)) =
      .ok n.params := Reader.list_ofList _ fun param _ => readPair_toJson param
  simp [read, members, required_cons, hparams, bind, Except.bind, pure, Except.pure]

theorem GlobalNode.read_members (n : GlobalNode) (kind : Json.Value) :
    GlobalNode.read (("type", kind) :: n.members) = .ok n := by
  simp [read, members, required_cons, bind, Except.bind, pure, Except.pure]

theorem OptionNode.read_members (n : OptionNode) (kind : Json.Value) :
    OptionNode.read (("type", kind) :: n.members) = .ok n := by
  simp [read, members, required_cons, bind, Except.bind, pure, Except.pure]

theorem OutputNode.read_members (n : OutputNode) (kind : Json.Value) :
    OutputNode.read (("type", kind) :: n.members) = .ok n := by
  simp [read, members, required_cons, bind, Except.bind, pure, Except.pure]

theorem Node.readNode_members (n : Node) (kind : Json.Value) :
    n.kind.readNode (("type", kind) :: n.members) = .ok n := by
  cases n with
  | input n => exact congrArg (Node.input <$> ·) (n.read_members kind)
  | filter n => exact congrArg (Node.filter <$> ·) (n.read_members kind)
  | global n => exact congrArg (Node.global <$> ·) (n.read_members kind)
  | option n => exact congrArg (Node.option <$> ·) (n.read_members kind)
  | output n => exact congrArg (Node.output <$> ·) (n.read_members kind)

theorem Node.read_toJson (n : Node) : Node.read n.toJson = .ok n := by
  have hkind : Record.Values.required (("type", Json.ofString n.kind.name) :: n.members) "type"
      NodeKind.read = .ok n.kind := by
    rw [required_cons, if_pos rfl, NodeKind.read_name]
  rw [Node.toJson, Json.ofMembers, Node.read]
  exact bind_eq_ok_iff.mpr ⟨_, Reader.members_ofMembers _,
    bind_eq_ok_iff.mpr ⟨_, hkind, n.readNode_members _⟩⟩

/-! ### Node lists -/

@[simp] theorem Label.written_listToJson (labels : List Label) :
    (Label.listToJson labels).Written :=
  .ofList (List.forall_mem_map.mpr fun l _ => .ofString l.text)

@[simp] theorem written_parameterToJson (param : String × String) :
    (parameterToJson param).Written :=
  .ofList (by simp)

theorem Node.written_toJson (n : Node) : n.toJson.Written := by
  refine .ofMembers (List.forall_mem_cons.mpr ⟨.ofString _, ?_⟩)
  cases n with
  | input n => simp [members, InputNode.members]
  | filter n =>
      have hparams : (Json.ofList (n.params.map parameterToJson)).Written :=
        .ofList (List.forall_mem_map.mpr fun param _ => written_parameterToJson param)
      simp [members, FilterNode.members, Label.toJson, hparams]
  | global n => simp [members, GlobalNode.members]
  | option n => simp [members, OptionNode.members]
  | output n => simp [members, OutputNode.members]

/-- A node list is written as the texts of its nodes, in which nothing is escaped but quotes,
backslashes and control characters. It is read back from there, so that no two lists have one
text. -/
theorem inspect_faithful (nodes : List Node) :
    inspect nodes = listText (nodes.map Node.text) ∧
    (∀ c : Char, Json.escaped c = String.singleton c ↔ c ≠ '"' ∧ c ≠ '\\' ∧ 0x20 ≤ c.toNat) ∧
    Json.readText (Reader.list Node.read) (inspect nodes) = .ok nodes ∧
    ∀ others, inspect others = inspect nodes ↔ others = nodes := by
  have hread : ∀ ns, Json.readText (Reader.list Node.read) (inspect ns) = .ok ns := fun ns =>
    (Json.readText_toText _ (.ofList (List.forall_mem_map.mpr fun n _ => n.written_toJson))).trans
      (Reader.list_ofList _ fun n _ => n.read_toJson)
  refine ⟨inspect_eq nodes, fun c => Json.escaped_eq_iff, hread nodes,
    fun others => ⟨fun h => ?_, fun h => by rw [h]⟩⟩
  have hothers := hread others
  rw [h, hread nodes] at hothers
  exact (Except.ok.inj hothers).symm

example :
    inspect [.input ⟨"a \"b\".mp4", 10⟩,
        .filter ⟨[⟨"10:v"⟩], "scale", [("w", "\\\n\x01é")], ⟨"s"⟩⟩] =
      "[\x7b\"type\":\"input\",\"name\":\"a \\\"b\\\".mp4\",\"index\":10\x7d," ++
        "\x7b\"type\":\"filter\",\"inputs\":[\"10:v\"],\"filter\":\"scale\"," ++
        "\"params\":[[\"w\",\"\\\\\\n\\u0001é\"]],\"output\":\"s\"\x7d]" := by
  decide +kernel

end MediaPipeline
