import MediaPipeline.Shell.Builtin.Printing
import MediaPipeline.Shell.Listing

/-!
Commands that declare variables, give them attributes, show them and take them back.
-/

namespace MediaPipeline.Shell.Builtin

/-! ### The standard dialect -/

def setting (argument : Octets) : Session (Octets × Option Octets) := do
  let name := argument.takeWhile (· != '=')
  if !isName name then abort (name ++ ": bad variable name".toList)
  let hasValue := name.length < argument.length
  pure (name, if hasValue then some (argument.drop (name.length + 1)) else none)

/-- Refuses to change a variable that may not be changed. -/
def checkUnprotected (name : Octets) : Session Unit := do
  if ((← get).bindings.get name).readonly then abort (name ++ ": is read only".toList)

def assignSetting (name : Octets) (value : Option Octets) : Session Unit := do
  if let some v := value then
    checkUnprotected name
    Session.assign name v

def change (name : Octets) (f : Binding → Binding) : Session Unit :=
  modify fun m => { m with bindings := m.bindings.update name f }

def sorted (bs : Bindings) : Bindings :=
  bs.mergeSort fun a b => Files.inOrder a.1 b.1

def mark (command : String) (has : Binding → Bool) (give : Binding → Binding) : Builtin :=
  fun args => do
    let o ← options "p" false "" args
    if o.operands.isEmpty || o.has 'p' then
      let own := (sorted (← get).bindings).filter fun b => has b.2
      Session.out (own.flatMap fun (name, b) =>
        command.toList ++ ' ' :: name ++ (match b.value.bind Value.text? with
          | some t => '=' :: Quoting.standard t
          | none => []) ++ ['\n'])
    else
      for a in o.operands do
        let (name, value) ← setting a
        assignSetting name value
        change name give
    Session.setStatus 0

/-- Keeps what is known of a variable for the end of the function that runs. -/
def saveForFrame (name : Octets) : Session Unit :=
  modify fun m =>
    match m.frames with
    | [] => m
    | frame :: outer =>
      if frame.saved.any (·.1 == name) then m
      else
        let frame := { frame with saved := (name, m.bindings.find? name) :: frame.saved }
        { m with frames := frame :: outer }

def saveFlags : Session Unit :=
  modify fun m =>
    match m.frames with
    | [] => m
    | frame :: outer => { m with frames := { frame with flags := frame.flags.or (some m.flags) } :: outer }

/-- Makes variables give their values back at the end of the function. -/
def localStandard : Builtin := fun args => do
  if (← get).frames.isEmpty then abort "not in a function".toList
  for a in args do
    if a == ['-'] then saveFlags
    else
      let (name, value) ← setting a
      saveForFrame name
      assignSetting name value
  Session.setStatus 0

/-! ### The extended dialect -/

def declareUsage (command : String) : String :=
  match command with
  | "local" => " [option] name[=value] ..."
  | "export" => " [-fn] [name[=value] ...] or export -p"
  | "readonly" => " [-aAf] [name[=value] ...] or readonly -p"
  | "typeset" => " [-aAfFgiIlnrtux] name[=value] ... or typeset -p [-aAfFilnrtux] [name ...]"
  | _ => " [-aAfFgiIlnrtux] [name[=value] ...] or declare -p [-aAfFilnrtux] [name ...]"

def withAttribute (b : Binding) (letter : Char) (on : Bool) : Binding :=
  let cased (c : CaseChange) : Binding :=
    if on then { b with letters := some c }
    else if b.letters matches some _ then { b with letters := none } else b
  match letter with
  | 'x' => { b with exported := on }
  | 'i' => { b with integer := on }
  | 'n' => { b with reference := on }
  | 't' => { b with traced := on }
  | 'u' => cased .upper
  | 'l' => cased .lower
  | 'c' => cased .toggle
  | 'a' =>
    if on then match b.value with
      | some (.items _) | some (.table _) => b
      | v => { b with value := some (.items (Value.toItems v)), hollow := v.isNone }
    else b
  | 'A' =>
    if on then match b.value with
      | some (.table _) => b
      | _ => { b with value := some (.table []), hollow := true }
    else b
  | _ => b

/-- What an argument of a declaration says: a name, perhaps of an element, and a value, perhaps to be
added. -/
structure Declared where
  name : Octets
  key : Option Octets := none
  append : Bool := false
  value : Option Octets := none

def keyIn : Nat → Octets → Octets
  | _, [] => []
  | depth, c :: rest =>
    if c == ']' then if depth = 0 then [] else c :: keyIn (depth - 1) rest
    else c :: keyIn (if c == '[' then depth + 1 else depth) rest

def Declared.ofText (text : Octets) : Declared :=
  let name := text.takeWhile fun c => c != '=' && c != '['
  let rest := text.drop name.length
  let (name, key, rest) : Octets × Option Octets × Octets := match rest with
    | '[' :: inside =>
      let key := keyIn 0 inside
      match inside.drop key.length with
      | ']' :: rest => (name, some key, rest)
      | _ => (text, none, [])
    | rest => (name, none, rest)
  match rest with
  | '=' :: v =>
    if name.getLast? == some '+' then { name := name.dropLast, key, append := true, value := some v }
    else { name, key, value := some v }
  | '+' :: '=' :: v => { name, key, append := true, value := some v }
  | _ => { name, key }

def showDeclarations (bs : Bindings) : Session Unit :=
  Session.out ((sorted bs).flatMap fun (name, b) => Binding.declaration name b ++ ['\n'])

/-- Declares one variable. A text in parentheses may be taken apart into the elements of a list. -/
def declareOne (elements : Octets → Session (List ListElement)) (command : String)
    (isLocal : Bool) (letters : List (Char × Octets)) (o : Operand) : Session Unit := do
  let d : Declared := match o.items with
    | some _ => { name := o.text }
    | none => .ofText o.text
  let plainOnly := command == "export" || command == "readonly"
  if !isName d.name || (plainOnly && d.key.isSome) then
    let shown := match plainOnly, d.key with
      | true, some k => d.name ++ '[' :: k ++ [']']
      | _, _ => o.text
    complain (inMessage shown ++ ": not a valid identifier".toList)
    Session.setStatus 1
  else
    let m ← get
    let name := if letters.any (·.1 == 'n') then d.name else m.bindings.target 10 d.name
    let isSaved := m.frames.head?.any fun f => f.saved.any (·.1 == name)
    let before := m.bindings.get name
    let sets := d.value.isSome || o.items.isSome
    if before.readonly && (sets || (isLocal && !isSaved) || letters.any fun l => l == ('r', ['+']))
        && (command != "export" && command != "readonly" || !sets) then
      complain (name ++ ": readonly variable".toList)
      Session.setStatus 1
    else if before.readonly && sets then
      Session.complain (name ++ ": readonly variable".toList)
      Session.setStatus 1
    else if letters.any (·.1 == 'n') && d.key.isSome then
      complain (o.text.takeWhile (· != '=') ++ ": reference variable cannot be an array".toList)
      Session.setStatus 1
    else if letters.any (·.1 == 'n') && d.value.any (fun v => !v.isEmpty && !isTarget v) then
      complain (inMessage (d.value.getD []) ++
        ": invalid variable name for name reference".toList)
      Session.setStatus 1
    else if letters.any (·.1 == 'n') && d.value == some d.name then
      complain (name ++ ": nameref variable self references not allowed".toList)
      Session.setStatus 1
    else do
      if isLocal && !isSaved then
        saveForFrame name
        modify fun m => { m with bindings := m.bindings.remove name }
        change name id
      let cases := letters.filter fun l => "ulc".toList.contains l.1
      let letters := if cases.length > 1 then letters.filter fun l => !"ulc".toList.contains l.1
        else letters
      change name fun b => letters.foldl (fun b (c, sign) =>
        if c == 'n' then b else withAttribute b c (sign != ['+'])) b
      let isList := letters.any fun l => l.1 == 'a' || l.1 == 'A'
      match o.items, d.value with
      | some (append, elements), _ =>
        Session.assignItems name elements append true
      | none, some v =>
        match d.key with
        | some k => Session.assignElement name k v d.append
        | none =>
          if isList && v.head? == some '(' && v.getLast? == some ')' then
            Session.assignItems name (← elements v) d.append true
          else Session.assignText name v d.append
      | none, none => pure ()
      change name fun b => letters.foldl (fun b (c, sign) =>
        if c == 'n' then withAttribute b c (sign != ['+'])
        else if c == 'r' && sign != ['+'] then { b with readonly := true } else b) b

def functionMark (m : Machine) (name : Octets) : Octets :=
  let marks := (if m.protectedFunctions.contains name then ['r'] else []) ++
    (if m.tracedFunctions.contains name then ['t'] else []) ++
    (if m.exportedFunctions.contains name then ['x'] else [])
  "declare -f".toList ++ marks ++ ' ' :: name ++ ['\n']

def declareFunctions (o : Options) (namesOnly : Bool) : Session Unit := do
  let m ← get
  if o.operands.isEmpty then
    let names := (m.functions.map Prod.fst).mergeSort Files.inOrder
    for name in names do
      if namesOnly then Session.out (functionMark m name)
      else
        Session.out (listed m name)
        if [m.exportedFunctions, m.protectedFunctions, m.tracedFunctions].any (·.contains name) then
          Session.out (functionMark m name)
  else
    for name in o.operands do
      if (m.functions.lookup name).isNone then Session.setStatus 1
      else if namesOnly then Session.out (name ++ ['\n'])
      else
        Session.out (listed m name)
        if o.has 'p' then Session.out (functionMark m name)
where
  listed (m : Machine) (name : Octets) : Octets :=
    ((m.functions.lookup name).map (functionText m.heres name)).getD [] ++ ['\n']

def markFunction (command : String) (takesBack : Bool) (name : Octets) : Session Unit :=
  modify fun m =>
    if command == "export" then
      let others := m.exportedFunctions.filter (· != name)
      { m with exportedFunctions := if takesBack then others else others ++ [name] }
    else
      { m with protectedFunctions := m.protectedFunctions.filter (· != name) ++ [name] }

def declare (elements : Octets → Session (List ListElement)) (command : String)
    (operands : List Operand) : Session Unit := do
  let m ← get
  if command == "local" && !m.inFunction then abort "can only be used in a function".toList
  let known := match command with
    | "export" => "fnp"
    | "readonly" => "aAfp"
    | _ => "aAcfFgiIlnprtux"
  let o ← options known (command != "export" && command != "readonly") (declareUsage command)
    (texts operands)
  let own := operands.drop (operands.length - o.operands.length)
  Session.setStatus 0
  if o.has 'f' || o.has 'F' then
    if command == "export" || command == "readonly" then
      for name in o.operands do
        if (m.functions.lookup name).isNone then
          complain (name ++ ": not a function".toList)
          Session.setStatus 1
        else markFunction command (o.has 'n') name
    else if !o.operands.isEmpty && (o.has 'x' || o.has 'r' || o.has 't') && !o.has 'p' then
      for name in o.operands do
        if (m.functions.lookup name).isNone then Session.setStatus 1
        else
          if o.has 'x' then markFunction "export" false name
          if o.has 'r' then markFunction "readonly" false name
          if o.has 't' then modify fun m =>
            { m with tracedFunctions := m.tracedFunctions.filter (· != name) ++ [name] }
    else declareFunctions o (o.has 'F')
  else if own.isEmpty || o.has 'p' then
    let letters := o.letters.filter fun l => l.1 != 'p' && l.1 != 'g'
    let known := m.knownBindings
    let wanted := match command with
      | "export" => known.filter fun b => b.2.exported
      | "readonly" => known.filter fun b => b.2.readonly
      | "local" => known.filter fun b => m.frames.head?.any fun f => f.saved.any (·.1 == b.1)
      | _ => known.filter fun b => letters.all fun l => b.2.attributes.contains l.1
    if own.isEmpty then
      if command != "declare" && command != "typeset" || o.has 'p' || !letters.isEmpty then
        showDeclarations wanted
      else
        Session.out ((sorted known).flatMap fun (name, b) => match b.value with
          | some (.text t) =>
            name ++ '=' :: (if t.isEmpty then [] else Quoting.extended t) ++ ['\n']
          | some v => name ++ '=' :: Binding.quotedElements v ++ ['\n']
          | none => [])
    else
      for w in o.operands do
        match known.find? w with
        | some b => Session.out (Binding.declaration w b ++ ['\n'])
        | none => do
          complain (w ++ ": not found".toList)
          Session.setStatus 1
  else
    let isLocal := m.inFunction && command != "export" && command != "readonly" && !o.has 'g'
    let letters := match command with
      | "export" => [('x', if o.has 'n' then ['+'] else [])]
      | "readonly" => o.letters ++ [('r', [])]
      | _ => o.letters
    for w in own do
      if command == "local" && w.text == ['-'] then saveFlags
      else declareOne elements command isLocal letters w

/-! ### Both dialects -/

/-- Takes back a variable. One of the function that runs stays without a value; one of a function
around it gives way to what it hides. -/
def forget (name : Octets) (m : Machine) : Machine :=
  let holds (f : Frame) : Bool := f.saved.any fun s => s.1 == name
  match m.frames.span fun f => !holds f with
  | ([], _ :: _) => { m with bindings := m.bindings.update name fun _ => {} }
  | (_, []) => { m with bindings := m.bindings.remove name }
  | (inner, f :: outer) =>
    let hidden := (f.saved.lookup name).getD none
    let f := { f with saved := f.saved.filter fun s => s.1 != name }
    { m with bindings := m.bindings.restore name hidden, frames := inner ++ f :: outer }

/-- Takes back variables, elements, or with `-f` functions. -/
def unset : Builtin := fun args => do
  let m ← get
  let o ← options (if m.isStandard then "fv" else "fvn") false " [-f] [-v] [-n] [name ...]" args
  if !m.isStandard && o.has 'f' && o.has 'v' then
    abort "cannot simultaneously unset a function and a variable".toList
  let functions := (o.letters.reverse.find? fun l => l.1 == 'f' || l.1 == 'v').any (·.1 == 'f')
  Session.setStatus 0
  for word in o.operands do
    let dropFunction : Session Unit := do
      if (← get).protectedFunctions.contains word then
        complain (word ++ ": cannot unset: readonly function".toList)
        Session.setStatus 1
      else
        modify fun m => { m with functions := m.functions.filter (·.1 != word),
                                 exportedFunctions := m.exportedFunctions.filter (· != word) }
    if functions then dropFunction
    else match m.dialect with
      | .standard => do
        let (name, _) ← setting word
        if ((← get).bindings.get name).readonly then
          abort (name ++ ": is read only".toList)
        modify fun m => { m with bindings := m.bindings.remove name }
      | .extended => do
        let d := Declared.ofText word
        if !isName d.name then
          if o.has 'v' then
            complain (inMessage word ++ ": not a valid identifier".toList)
            Session.setStatus 1
          else dropFunction
        else
          let m ← get
          let name := if o.has 'n' then d.name else m.bindings.target 10 d.name
          match m.bindings.find? name, d.key with
          | some b, key =>
            if b.readonly then
              complain (name ++ ": cannot unset: readonly variable".toList)
              Session.setStatus 1
            else match key with
              | some k => Session.removeElement name k
              | none =>
                if name == "PATH".toList then modify fun m => { m with remembered := [] }
                modify (forget name)
          | none, none => if !o.has 'v' then dropFunction
          | none, some _ => pure ()

end MediaPipeline.Shell.Builtin
