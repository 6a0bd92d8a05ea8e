import MediaPipeline.Shell.Builtin.Printing

/-!
Commands that read lines into variables.
-/

namespace MediaPipeline.Shell.Builtin

structure LineRules where
  raw : Bool := false
  delimiter : Option Char := some '\n'
  limit : Option Nat := none
  /-- Bytes that go on with a character do not count. -/
  wide : Bool := false

structure LineTaken where
  reversed : List Glob.Marked := []
  letters : Nat := 0
  consumed : Nat := 0
  ended : Bool := false

def takeLine (r : LineRules) : Octets → LineTaken → LineTaken
  | text, t =>
    let goesOn (c : Char) : Bool := r.wide && (Octets.continuation? c).isSome
    if r.limit == some t.letters && !text.head?.any goesOn then { t with ended := true }
    else match text with
      | [] => t
      | c :: rest =>
        let step (n : Nat) (more : List Glob.Marked) : LineTaken :=
          let letters := t.letters + (more.filter fun m => !goesOn m.1).length
          { t with consumed := t.consumed + n, letters, reversed := more ++ t.reversed }
        if some c == r.delimiter then { step 1 [] with ended := true }
        else if c == '\\' && !r.raw then
          match rest with
          | [] => step 1 []
          | '\n' :: rest => takeLine r rest (step 2 [])
          | d :: rest => takeLine r rest (step 2 [(d, true)])
        else if c == '\x00' then takeLine r rest (step 1 [])
        else takeLine r rest (step 1 [(c, false)])
  termination_by text => text.length

/-- Splits a line into as many fields as there are names. The last takes the rest, but without a
separator behind a single field. -/
def splitLine (separators : Octets) : Nat → List Glob.Marked → List Octets
  | 0, _ => []
  | count + 1, text =>
    let separates (m : Glob.Marked) : Bool := !m.2 && separators.contains m.1
    let blank (m : Glob.Marked) : Bool :=
      separates m && (m.1 == ' ' || m.1 == '\t' || m.1 == '\n')
    let text := text.dropWhile blank
    let field := text.takeWhile fun m => !separates m
    let rest := (text.drop field.length).dropWhile blank
    let rest := match rest with
      | m :: behind => if separates m then behind.dropWhile blank else rest
      | [] => []
    if count = 0 then
      if rest.isEmpty then [field.map Prod.fst]
      else [((text.reverse.dropWhile blank).reverse).map Prod.fst]
    else field.map Prod.fst :: splitLine separators count rest

def allFields (separators : Octets) (text : List Glob.Marked) : List Octets :=
  let pieces : List Piece := text.map fun (c, quoted) => if quoted then .char c true else .found c
  (fields separators pieces).map fun f => f.map Prod.fst

def checkName (name : Octets) : Session Unit := do
  match (← get).dialect with
  | .standard => if !isName name then abort (name ++ ": bad variable name".toList)
  | .extended => checkTarget name

def readLine (descriptor : Nat) (r : LineRules) (whole : Bool) (holder : Option Octets)
    (names : List Octets) : Session Unit := do
  let m ← get
  let text ← match ← Session.peekAll descriptor with
    | .ok text => pure text
    | .error f => do
      if !m.isStandard then
        complain ("read error: ".toList ++ Octets.ofNat descriptor ++ ": ".toList ++ f.message.toList)
      pure []
  let t := takeLine r text {}
  Session.consume descriptor t.consumed
  let line := t.reversed.reverse
  let separators := m.separators
  match holder with
  | some name => do
    checkName name
    let items : List ListElement := (allFields separators line).map fun f => { text := f }
    modify fun m => { m with bindings := m.bindings.update name fun b => { b with value := none } }
    Session.assignItems name items false
  | none =>
    let values := match names with
      | [] => [line.map Prod.fst]
      | _ =>
        if whole then [line.map Prod.fst] else splitLine separators names.length line
    let names := if names.isEmpty then ["REPLY".toList] else names
    for (name, i) in names.zipIdx do
      checkName name
      if m.isStandard then
        if ((← get).bindings.get name).readonly then abort (name ++ ": is read only".toList)
      assignTarget name (values[i]?.getD [])
  Session.setStatus (if t.ended then 0 else 1)

def read : Builtin := fun args => do
  match (← get).dialect with
  | .standard => do
    let o ← options "p:r" false "" args
    if o.operands.isEmpty then abort "arg count".toList
    readLine 0 { raw := o.has 'r' } false none o.operands
  | .extended => do
    let o ← options "ersa:d:i:n:N:p:t:u:" false
      (" [-ers] [-a array] [-d delim] [-i text] [-n nchars] [-N nchars] [-p prompt] " ++
        "[-t timeout] [-u fd] [name ...]") args
    let count (c : Char) (what : String) : Session (Option Nat) := do
      match o.value? c with
      | none => pure none
      | some t =>
        match narrow? t with
        | some n => if n < 0 then abort (t ++ what.toList) else pure (some n.toNat)
        | none => abort (t ++ what.toList)
    let limit ← count 'n' ": invalid number"
    let exact ← count 'N' ": invalid number"
    let descriptor := (← count 'u' ": invalid file descriptor specification").getD 0
    let m ← get
    if (m.descriptors.lookup descriptor).isNone && o.has 'u' then
      abort (Octets.ofNat descriptor ++ ": invalid file descriptor: Bad file descriptor".toList)
    for name in o.operands do checkName name
    if o.value? 't' == some ['0'] then Session.setStatus 0
    else
      let delimiter := match o.value? 'd' with
        | some t => t.head?.getD '\x00'
        | none => '\n'
      readLine descriptor {
        raw := o.has 'r', wide := true, delimiter := if exact.isSome then none else some delimiter,
        limit := exact.or limit } exact.isSome (o.value? 'a') o.operands

def piecesOf (delimiter : Char) (text : Octets) : List Octets :=
  let ps := text.splitOn delimiter
  (ps.dropLast.map fun p => p ++ [delimiter]) ++ (ps.getLast?.toList.filter fun p => !p.isEmpty)

/-- Reads lines into a list. Before some of them are put into it a script may be called on them. -/
def readLines (e : Engine) : Builtin := fun args => do
  let o ← options "d:n:O:s:tu:C:c:" false
    (" [-d delim] [-n count] [-O origin] [-s count] [-t] [-u fd] [-C callback] [-c quantum] " ++
      "[array]") args
  let number (c : Char) (standard : Nat) : Nat :=
    (((o.value? c).bind narrow?).getD standard).toNat
  let name := o.operands.head?.getD "MAPFILE".toList
  checkName name
  let descriptor := number 'u' 0
  let text ← match ← Session.peekAll descriptor with
    | .ok text => pure text
    | .error _ => pure []
  let delimiter := match o.value? 'd' with
    | some t => t.head?.getD '\x00'
    | none => '\n'
  let lines := piecesOf delimiter text
  let skipped := number 's' 0
  let most := number 'n' 0
  let kept := lines.drop skipped
  let kept := if most = 0 then kept else kept.take most
  let consumed := (((lines.take skipped) ++ kept).map List.length).foldl (· + ·) 0
  Session.consume descriptor consumed
  let bare (l : Octets) : Octets :=
    let l := if (o.has 't' || delimiter == '\x00') && l.getLast? == some delimiter then l.dropLast else l
    l.filter (· != '\x00')
  let origin := number 'O' 0
  let items := kept.zipIdx.map fun (l, i) => (origin + i, bare l)
  if let some callback := o.value? 'C' then
    let quantum := max 1 (number 'c' 5000)
    for ((n, t), i) in items.zipIdx do
      if (i + 1) % quantum = 0 then
        e.text (callback ++ ' ' :: Octets.ofNat n ++ ' ' :: Quoting.single t)
  modify fun m => { m with bindings := m.bindings.update name fun b =>
    let before := if o.has 'O' then Value.toItems b.value else []
    { b with hollow := false
             value := some (.items (items.foldl (fun es (n, t) => Value.putItem es n t) before)) } }
  Session.setStatus 0

end MediaPipeline.Shell.Builtin
