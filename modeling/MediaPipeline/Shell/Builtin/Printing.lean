import MediaPipeline.Shell.Builtin.Basic

/-!
Commands that write texts, test conditions and calculate.
-/

namespace MediaPipeline.Shell.Builtin

def echo : Builtin := fun args => do
  let m ← get
  let escapes := !m.isStandard && m.hasOption "xpg_echo"
  Session.out (echoText (.shell m.dialect) (if escapes then ['-', 'e'] :: args else args))
  Session.setStatus 0

/-- Whether a text names a variable or an element of one. -/
def isTarget (text : Octets) : Bool :=
  let base := text.takeWhile (· != '[')
  isName base && (base.length = text.length || (text.getLast? == some ']' && base.length + 2 < text.length))

/-- Sets what a text names: a variable or an element. -/
def assignTarget (target value : Octets) : Session Unit := do
  let base := target.takeWhile (· != '[')
  if base.length = target.length then Session.assign target value
  else Session.assignElement base (target.drop (base.length + 1)).dropLast value false

def checkTarget (text : Octets) : Session Unit := do
  if !isTarget text then abort (inMessage text ++ ": not a valid identifier".toList)

def printf : Builtin := fun args => do
  let d := (← get).dialect
  let o ← match d with
    | .standard => options "" false "" args
    | .extended => options "v:" false " [-v var] format [arguments]" args
  match o.operands with
  | [] =>
    match d with
    | .standard => abort "usage: printf format [arg ...]".toList
    | .extended => usage " [-v var] format [arguments]"
  | format :: args => do
    let zone := ((← get).bindings.text? "TZ".toList)
    let f := formatText (.shell d) zone format args
    for c in f.complaints do complain c
    match o.value? 'v' with
    | some name => do
      if !isTarget name then refuse 2 (inMessage name ++ ": not a valid identifier".toList)
      assignTarget name f.out
    | none => Session.out f.out
    Session.setStatus f.status

def surroundings (m : Machine) : Surroundings where
  files := m.files
  behind n := do
    let o ← (m.descriptors.lookup n).bind (m.streams[·]?)
    match o.stream with
    | .document place _ _ | .channel place => m.files.at? place
    | .directory => some .directory
    | .device d => some (.device d)
    | .source .. | .sink .. => none
  isSet name :=
    let base := name.takeWhile (· != '[')
    let key := (name.drop (base.length + 1)).dropLast
    match m.value? base with
    | none => false
    | some v =>
      if base.length = name.length then v.text?.isSome
      else match v with
        | .table es => (es.lookup key).isSome
        | v => key == ['@'] || (v.keys.contains key)
  isOn name :=
    let s := String.ofList name
    let letters : List (String × Char) := [
      ("errexit", 'e'), ("noglob", 'f'), ("nounset", 'u'), ("xtrace", 'x'), ("verbose", 'v'),
      ("noclobber", 'C'), ("allexport", 'a'), ("braceexpand", 'B'), ("hashall", 'h')]
    match letters.lookup s with
    | some c => m.hasFlag c
    | none => m.hasOption s

def test (brackets : Bool) : Builtin := fun args => do
  let m ← get
  if brackets && args.getLast? != some [']'] then
    refuse 2 (if m.isStandard then "missing ]" else "missing \x60]'").toList
  else
    let words := if brackets then args.dropLast else args
    let result := match m.dialect with
      | .standard => condition (surroundings m) words
      | .extended =>
        let c : Counted := ⟨.shell .extended, surroundings m, if brackets then some [']'] else none⟩
        c.evaluate words
    match result with
    | .ok b => Session.setStatus (if b then 0 else 1)
    | .error text => refuse 2 text

def calculate : Builtin := fun args => do
  if args.isEmpty then abort "expression expected".toList
  let mut last := 0
  for a in args do
    match ← Session.tryCalculate a with
    | .ok n => last := n.toInt
    | .error f => Session.refuseCalculation "let: ".toList f
  Session.setStatus (if last = 0 then 1 else 0)

end MediaPipeline.Shell.Builtin
