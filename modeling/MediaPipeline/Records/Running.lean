import MediaPipeline.Records.State

/-!
Running scripts on records: expressions, statements, rules and functions, and the program that does
so.
-/

namespace MediaPipeline.Records

open Shell (Session Regex)

namespace Working

/-! ### Places -/

inductive Spot where
  | variable (v : Name)
  | element (a : Name) (k : Key)
  | field (n : Nat)

def Spot.get (s : Surroundings) : Spot → Working Value
  | .variable v => Working.get s v
  | .element a k => onTable a fun t => t.get k
  | .field n => Working.field s n

def Spot.set (s : Surroundings) (v : Value) : Spot → Working Unit
  | .variable n => assign s n v
  | .element a k => onTable a fun t => ((), t.set k v)
  | .field n => setField s n v

/-! ### Loops -/

/-- How many rounds a loop may take. -/
def roundBound : Nat := 10000000

/-- Repeats a step until it says that it is the last. -/
def rounds : Nat → Working Bool → Working Unit
  | 0, _ => shell (throw .exhausted)
  | n + 1, round => do
    if ← round then rounds n round

/-- Runs the body of a loop, and says whether the loop goes on. -/
def body (b : Working Unit) : Working Bool :=
  tryCatch (do
    b
    pure true) fun l => match l with
      | .leave => pure false
      | .again => pure true
      | l => throw l

/-! ### Functions that are always there -/

/-- An integer of a number, between the bounds of half a word. -/
def halfWord (x : Float) : Int :=
  max (-2147483647) (min 2147483647 (Number.toInt x))

/-- A part of a text by where it begins and how long it is. Where it begins in front of the text it is
as much longer. -/
def part (t : Octets) (first : Float) (length : Option Float) : Octets :=
  let first := halfWord first
  let length := (length.map halfWord).getD 2147483647
  let length := if first < 0 then (length - first).bmod 4294967296 else length
  (t.drop (first - 1).toNat).take length.toNat

/-- Where one text begins in another, from one on, and zero where it does not. -/
def indexOf (t part : Octets) : Nat :=
  ((List.range (t.length + 1)).find? fun i => part.isPrefixOf (t.drop i)).elim 0 (· + 1)

/-- The number of seconds of a moment that is told by its year, month, day, hour, minute and second on
the clock of a setting. -/
def secondsOf (zone : Option Octets) (text : Octets) : Option Int :=
  match (Separator.words text).map fun w => Number.toInt (Number.ofText w) with
  | year :: month :: day :: hour :: minute :: second :: _ =>
    let months := year * 12 + month - 1
    let first := Moment.dayNumber (Int.fdiv months 12) (Int.fmod months 12 + 1).toNat 1
    let there := ((first + day - 1) * 24 + hour) * 3600 + minute * 60 + second
    let guess := there - (Moment.onClock zone there).ahead
    some (there - (Moment.onClock zone guess).ahead)
  | _ => none

def standard (s : Surroundings) (f : Standard) (values : List Value) : Working Value := do
  let w ← work
  let text (n : Nat) : Octets := w.textOf (values[n]?.getD .unset)
  let number (n : Nat) : Float := (values[n]?.getD .unset).toNumber
  let zone := s.invocation.environment.lookup "TZ".toList
  match f with
  | .length =>
    let t := if values.isEmpty then w.record else text 0
    pure (.ofNat t.length)
  | .index => pure (.ofNat (indexOf (text 0) (text 1)))
  | .substr =>
    pure (.text (part (text 0) (number 1) (if values.length > 2 then some (number 2) else none)))
  | .sprintf =>
    match formatted w.conversion (text 0) (values.drop 1) with
    | (t, none) => pure (.text t)
    | (_, some fault) => fail s (fault.message "sprintf" (text 0))
  | .sin => pure (.number (number 0).sin)
  | .cos => pure (.number (number 0).cos)
  | .atan2 => pure (.number (Float.atan2 (number 0) (number 1)))
  | .exp => pure (.number (number 0).exp)
  | .log => pure (.number (number 0).log)
  | .int => pure (.number (Number.whole (number 0)))
  | .sqrt => pure (.number (number 0).sqrt)
  | .rand => do
    let sums := Drawing.next w.sums
    change fun w => { w with sums }
    pure (.number (Float.ofNat (Drawing.drawn sums) / 2147483647))
  | .srand => do
    let seed := values.head?.getD (.number (Float.ofInt Moment.present))
    let start := (Number.toInt seed.toNumber).emod 4294967296
    change fun w => { w with seed, sums := Drawing.start start.toNat }
    pure w.seed
  | .close => do
    match ← Working.close s (text 0) with
    | some status => pure (.ofNat status)
    | none => pure (.number (-1))
  | .system => do
    flushAll
    return .ofNat (← shell (runCommand s "sh".toList (text 0)))
  | .toupper => pure (.text ((text 0).map Char.toUpper))
  | .tolower => pure (.text ((text 0).map Char.toLower))
  | .fflush =>
    if values.isEmpty || text 0 == "/dev/stdout".toList then
      flush
      pure .zero
    else if (text 0).isEmpty then
      flushAll
      pure .zero
    else do
      let outlets ← w.outlets.mapM fun o => if o.name == text 0 then flushOutlet o else pure o
      change fun w => { w with outlets }
      pure (if w.outlets.any fun o => o.name == text 0 then .zero else .number (-1))
  | .time => pure (.number (Float.ofInt Moment.present))
  | .timeText =>
    let format := if values.isEmpty then "%c".toList else text 0
    let seconds := if values.length < 2 then Moment.present else Number.toInt (number 1)
    let universal := (values[2]?.map Value.isTrue).getD false
    pure (.text ((Moment.onClock (if universal then none else zone) seconds).format false format))
  | .timeOf =>
    pure (.number (match secondsOf zone (text 0) with
      | some n => Float.ofInt n
      | none => -1))

/-! ### Expressions and statements -/

def argumentCell (v : Name) : Working (Option Cell) := do
  let w ← work
  if v = .shared (standing "NF") then pure none
  else
    let i := w.root w.cells.size (w.place v)
    pure (match w.cells[i]? with
      | some (.value v) => some (.value v)
      | _ => some (.link i))

def patternFor (s : Surroundings) (v : Value) : Working Regex := do
  match patternOfText (← textOf v) with
  | .ok r => pure r
  | .error text => fail s text

def printText (values : List Value) : Working Octets := do
  let w ← work
  let ending := w.sharedText "ORS"
  if values.isEmpty then return w.record ++ ending
  let parts := values.map fun v => v.toText w.printing
  pure ((parts.intersperse (w.sharedText "OFS")).flatten ++ ending)

mutual

def eval (s : Surroundings) : Nat → Expr → Working Value
  | 0, _ => shell (throw .exhausted)
  | n + 1, e => do
    match e with
    | .number x => pure (.number x)
    | .text t => pure (.text t)
    | .pattern r _ => return .ofBool (r.isIn false (← work).record)
    | .variable v => get s v
    | .element a keys => do
      let k ← keyOf (← values s n keys)
      onTable a fun t => t.get k
    | .field index => do
      field s (← fieldNumber s (← eval s n index))
    | .grouped e => eval s n e
    | .several _ => pure .unset
    | .assign place op e => do
      let spot ← spotOf s n place
      match op with
      | none => do
        let v ← eval s n e
        spot.set s v
        pure v
      | some op => do
        let y ← eval s n e
        let x ← spot.get s
        let v := Value.number (op.apply x.toNumber y.toNumber)
        spot.set s v
        pure v
    | .step place up before => do
      let spot ← spotOf s n place
      let x := (← spot.get s).toNumber
      let y := if up then x + 1 else x - 1
      spot.set s (.number y)
      pure (.number (if before then y else x))
    | .operate op a b => do
      let x ← eval s n a
      let y ← eval s n b
      pure (.number (op.apply x.toNumber y.toNumber))
    | .compare r a b => do
      let x ← eval s n a
      let y ← eval s n b
      return .ofBool (r.holds (← work).conversion x y)
    | .fits negated a b => do
      let t ← textOf (← eval s n a)
      let r ← patternOf s n b
      return .ofBool (r.isIn false t != negated)
    | .member keys a => do
      let k ← keyOf (← values s n keys)
      return .ofBool (← onTable a fun t => t.contains k)
    | .both a b => do
      if (← eval s n a).isTrue then return .ofBool (← eval s n b).isTrue
      pure (.ofBool false)
    | .either a b => do
      if (← eval s n a).isTrue then return .ofBool true
      return .ofBool (← eval s n b).isTrue
    | .choice test yes no => do
      if (← eval s n test).isTrue then eval s n yes else eval s n no
    | .not e => return .ofBool !(← eval s n e).isTrue
    | .negate e => return .number (0 - (← eval s n e).toNumber)
    | .plus e => return .number (← eval s n e).toNumber
    | .join a b => do
      let x ← textOf (← eval s n a)
      let y ← textOf (← eval s n b)
      pure (.text (x ++ y))
    | .call f args => call s n f args
    | .standard .length [.variable v] => do
      let w ← work
      match w.cells[w.root w.cells.size (w.place v)]? with
      | some (.table t) => pure (.ofNat t.size)
      | _ => standard s .length [← get s v]
    | .standard f args => do
      standard s f (← values s n args)
    | .split e a separator => do
      let t ← textOf (← eval s n e)
      let sep ← match separator with
        | none => Working.separator s
        | some (.pattern r _) => pure (.pattern r)
        | some e => do
          match Separator.ofText (← textOf (← eval s n e)) with
          | .ok sep => pure sep
          | .error text => fail s text
      let parts := (sep.split false t).map Value.given
      onTable a fun _ => ((), Table.ofList parts)
      pure (.ofNat parts.length)
    | .position e p => do
      let t ← textOf (← eval s n e)
      let r ← patternOf s n p
      let (first, length) : Nat × Int := match r.find? { text := t.toArray } 0 with
        | some (i, p) => (i + 1, (p.position - i : Nat))
        | none => (0, -1)
      change fun w =>
        (w.setShared "RSTART" (.ofNat first)).setShared "RLENGTH" (.number (Float.ofInt length))
      pure (.ofNat first)
    | .substitute every p replacement target => do
      let r ← patternOf s n p
      let put ← textOf (← eval s n replacement)
      let spot ← match target with
        | some place => spotOf s n place
        | none => pure (.field 0)
      let t ← textOf (← spot.get s)
      let (result, count) := replaced r every put t.toArray (2 * t.length + 2) 0 false
      if count != 0 then spot.set s (.text result)
      pure (.ofNat count)
    | .nextRecord origin source target => do
      let spot ← match target with
        | some place => some <$> spotOf s n place
        | none => pure none
      let give (r : Octets) : Working Value := do
        match spot with
        | some spot => spot.set s (.given r)
        | none => setRecord r
        pure (.number 1)
      match source with
      | none => do
        match ← nextRecord s with
        | some r => give r
        | none => pure .zero
      | some e => do
        let name ← textOf (← eval s n e)
        match ← takeFrom s origin name with
        | some (some r) => give r
        | some none => pure .zero
        | none => pure (.number (-1))

def values (s : Surroundings) : Nat → List Expr → Working (List Value)
  | 0, _ => shell (throw .exhausted)
  | _ + 1, [] => pure []
  | n + 1, e :: es => do
    let v ← eval s n e
    return v :: (← values s n es)

def spotOf (s : Surroundings) : Nat → Expr → Working Spot
  | 0, _ => shell (throw .exhausted)
  | n + 1, e => do
    match e with
    | .variable v => pure (.variable v)
    | .element a keys => return .element a (← keyOf (← values s n keys))
    | .field index => return .field (← fieldNumber s (← eval s n index))
    | _ => pure (.field 0)

def patternOf (s : Surroundings) : Nat → Expr → Working Regex
  | 0, _ => shell (throw .exhausted)
  | n + 1, e => do
    match e with
    | .pattern r _ => pure r
    | e => patternFor s (← eval s n e)

def call (s : Surroundings) : Nat → Nat → List Expr → Working Value
  | 0, _, _ => shell (throw .exhausted)
  | n + 1, f, args => do
    match (← work).script.functions[f]? with
    | none => pure .unset
    | some d => do
      let cells ← arguments s n args
      let before ← work
      let start := before.cells.size
      let cells := cells ++ List.replicate (d.parameters - cells.length) .fresh
      set { before with cells := before.cells ++ cells.toArray, base := start }
      let back : Working Unit :=
        change fun w => { w with cells := w.cells.extract 0 start, base := before.base }
      let result : Value ← tryCatch (do
        statements s n d.body
        pure .unset) fun l => match l with
          | .give v => pure v
          | l => do
            back
            throw l
      back
      pure result

def arguments (s : Surroundings) : Nat → List Expr → Working (List Cell)
  | 0, _ => shell (throw .exhausted)
  | _ + 1, [] => pure []
  | n + 1, e :: es => do
    let known ← match e with
      | .variable v => argumentCell v
      | _ => pure none
    let c ← match known with
      | some c => pure c
      | none => .value <$> eval s n e
    return c :: (← arguments s n es)

def statements (s : Surroundings) : Nat → List Statement → Working Unit
  | 0, _ => shell (throw .exhausted)
  | _ + 1, [] => pure ()
  | n + 1, st :: rest => do
    statement s n st
    statements s n rest

def statement (s : Surroundings) : Nat → Statement → Working Unit
  | 0, _ => shell (throw .exhausted)
  | n + 1, st => do
    let put (target : Option (Destination × Expr)) (text : Octets) : Working Unit := do
      match target with
      | none => out text
      | some (d, e) => send s d (← textOf (← eval s n e)) text
    match st with
    | .block b => statements s n b
    | .evaluate e => do
      let _ ← eval s n e
    | .print args target => do
      let vs ← values s n args
      put target (← printText vs)
    | .printFormatted args target => do
      let vs ← values s n args
      let w ← work
      let format := w.textOf (vs.head?.getD .unset)
      let (t, fault) := formatted w.conversion format (vs.drop 1)
      put target t
      if let some f := fault then fail s (f.message "printf" format)
    | .choice test yes no => do
      if (← eval s n test).isTrue then statement s n yes
      else match no with
        | some no => statement s n no
        | none => pure ()
    | .whileLoop test b =>
      rounds roundBound do
        if (← eval s n test).isTrue then body (statement s n b) else pure false
    | .doLoop b test =>
      rounds roundBound do
        if ← body (statement s n b) then return (← eval s n test).isTrue
        pure false
    | .forLoop start test step b => do
      if let some e := start then
        let _ ← eval s n e
      rounds roundBound do
        let goes ← match test with
          | some e => do pure (← eval s n e).isTrue
          | none => pure true
        if !goes then return false
        if !(← body (statement s n b)) then return false
        if let some e := step then
          let _ ← eval s n e
        pure true
    | .forEach v a b => do
      let keys ← onTable a Table.keys
      let mut goes := true
      for k in keys do
        if goes then
          assign s v (.text k)
          goes ← body (statement s n b)
    | .delete a none => onTable a fun _ => ((), {})
    | .delete a (some keys) => do
      let k ← keyOf (← values s n keys)
      onTable a fun t => ((), t.erase k)
    | .next => throw .next
    | .nextFile => throw .nextFile
    | .exit e => do
      if let some e := e then
        let x := (← eval s n e).toNumber
        change fun w => { w with status := ((Number.toInt x) % 256).toNat }
      throw .exit
    | .give e => do
      let v ← match e with
        | some e => eval s n e
        | none => pure .unset
      throw (.give v)
    | .leave => throw .leave
    | .again => throw .again

end

/-! ### Rules -/

/-- How deep expressions and calls may lie in each other. -/
def depthBound : Nat := 20000

def applyRules (s : Surroundings) (rules : List (Rule × Nat)) : Working Unit := do
  for (rule, i) in rules do
    let passes (e : Expr) : Working Bool := return (← eval s depthBound e).isTrue
    let applies ← match rule.pattern with
      | .always => pure true
      | .test e => passes e
      | .range first last => do
        let inside := ((← work).inside[i]?).getD false
        let inside ← if inside then pure true else passes first
        if inside then
          let ends ← passes last
          change fun w => { w with inside := w.inside.set! i !ends }
        pure inside
    if applies then
      match rule.body with
      | some b => statements s depthBound b
      | none => out (← printText [])

/-- Runs a part of a script, and says whether the next part follows. -/
def attempt (b : Working Unit) : Working Bool :=
  tryCatch (do
    b
    pure true) fun l => match l with
      | .quit => throw .quit
      | _ => pure false

def runScript (s : Surroundings) (script : Script) : Working Unit := do
  let rules := script.rules.zipIdx
  let goes ← attempt (statements s depthBound script.before)
  if goes && (!rules.isEmpty || script.behind.isSome) then
    let _ ← attempt (rounds roundBound do
      match ← nextRecord s with
      | none => pure false
      | some r => do
        setRecord r
        tryCatch (do
          applyRules s rules
          pure true) fun l => match l with
            | .next => pure true
            | .nextFile => do
              change fun w => { w with input := none }
              pure true
            | l => throw l)
  match script.behind with
  | some b => do
    let _ ← attempt (statements s depthBound b)
  | none => pure ()

end Working

/-! ### The program -/

structure Call where
  files : List Octets := []
  assignments : List (Octets × Octets) := []
  unbuffered : Bool := false
  operands : List Octets := []

inductive CallFault where
  | shown (text : Octets)
  | fault (text : Octets)

def versionText : String :=
  "mawk 1.3.4 20200120\n\nrandom-funcs:       srandom/random\nregex-funcs:        internal\n" ++
  "compiled limits:\nsprintf buffer      8192\nmaximum-integer     2147483647\n"

def usageText : String :=
  "Usage: mawk [Options] [Program] [file ...]\n\nProgram:\n" ++
  "    The -f option value is the name of a file containing program text.\n" ++
  "    If no -f option is given, a \"--\" ends option processing; the following\n" ++
  "    parameters are the program text.\n\nOptions:\n" ++
  "    -f program-file  Program  text is read from file instead of from the\n" ++
  "                     command-line.  Multiple -f options are accepted.\n" ++
  "    -F value         sets the field separator, FS, to value.\n" ++
  "    -v var=value     assigns value to program variable var.\n" ++
  "    --               unambiguous end of options.\n\n" ++
  "    Implementation-specific options are prefixed with \"-W\".  They can be\n" ++
  "    abbreviated:\n\n    -W version       show version information and exit.\n" ++
  "    -W dump          show assembler-like listing of program and exit.\n" ++
  "    -W help          show this message and exit.\n" ++
  "    -W interactive   set unbuffered output, line-buffered input.\n" ++
  "    -W exec file     use file as program as well as last option.\n" ++
  "    -W random=number set initial random seed.\n" ++
  "    -W sprintf=number adjust size of sprintf buffer.\n" ++
  "    -W posix_space   do not consider \"\\n\" a space.\n" ++
  "    -W usage         show this message and exit.\n"

def Call.ofArguments : Nat → List Octets → Call → Except CallFault Call
  | 0, args, c => .ok { c with operands := args }
  | _, [], c => .ok c
  | fuel + 1, arg :: rest, c =>
    let named (w : Octets) (rest : List Octets) : Except CallFault Call :=
      let name := w.takeWhile (· != '=')
      let fits (full : String) : Bool := !name.isEmpty && name.isPrefixOf full.toList
      if fits "version" then .error (.shown versionText.toList)
      else if fits "help" || fits "usage" then .error (.shown usageText.toList)
      else if fits "interactive" then ofArguments fuel rest { c with unbuffered := true }
      else ofArguments fuel rest c
    let valued (letter : Char) (joined : Octets) (use : Octets → List Octets → Except CallFault Call) :
        Except CallFault Call :=
      match joined, rest with
      | [], [] => .error (.fault ("option -".toList ++ [letter] ++ " lacks argument".toList))
      | [], v :: rest => use v rest
      | v, rest => use v rest
    match arg with
    | ['-', '-'] => .ok { c with operands := rest }
    | '-' :: '-' :: long => named long rest
    | '-' :: 'W' :: joined => valued 'W' joined named
    | '-' :: 'F' :: joined =>
      valued 'F' joined fun v rest =>
        ofArguments fuel rest { c with assignments := c.assignments ++ [("FS".toList, v)] }
    | '-' :: 'v' :: joined =>
      valued 'v' joined fun v rest =>
        match Working.assignment? v with
        | some a => ofArguments fuel rest { c with assignments := c.assignments ++ [a] }
        | none => .error (.fault ("improper assignment: -v ".toList ++ v))
    | '-' :: 'f' :: joined =>
      valued 'f' joined fun v rest => ofArguments fuel rest { c with files := c.files ++ [v] }
    | '-' :: _ :: _ => .error (.fault ("not an option: ".toList ++ arg))
    | _ => .ok { c with operands := arg :: rest }

def startCells (i : Invocation) (script : Script) (operands : List Octets) : Array Cell :=
  let text (t : String) : Cell := .value (.text t.toList)
  let environment := i.environment.foldl (fun (t : Table) (name, v) =>
    t.set (.text name) (.given v)) {}
  let arguments := (i.name :: operands).zipIdx.foldl (fun (t : Table) (v, n) =>
    t.set (.number n) (.given v)) {}
  let known : List (String × Cell) := [
    ("NR", .value .zero), ("FNR", .value .zero), ("FS", text " "), ("RS", text "\n"),
    ("OFS", text " "), ("ORS", text "\n"), ("SUBSEP", text "\x1c"), ("CONVFMT", text "%.6g"),
    ("OFMT", text "%.6g"), ("FILENAME", text ""), ("ENVIRON", .table environment),
    ("ARGV", .table arguments), ("ARGC", .value (.ofNat (operands.length + 1)))]
  script.names.mapIdx fun n name =>
    if n < standingNames.length then (known.lookup (String.ofList name)).getD .fresh else .fresh

/-- Goes through records with a script. -/
def program : Shell.StartingProgram := fun start i => do
  let i := { i with name := (i.name.reverse.takeWhile (· != '/')).reverse }
  let complain (text : Octets) : Session Nat := do
    Session.err (i.complaint text)
    pure 2
  match Call.ofArguments (i.arguments.length + 1) i.arguments {} with
  | .error (.shown text) => do
    Session.out text
    pure 0
  | .error (.fault text) => complain text
  | .ok c => do
    let (texts, operands) : List (Option Octets × Octets) × List Octets :=
      match c.files, c.operands with
      | [], t :: rest => ([(none, t)], rest)
      | _, operands => ([], operands)
    if c.files.isEmpty && texts.isEmpty then
      Session.err usageText.toList
      return 0
    let mut texts := texts
    for f in c.files do
      match ← Working.contentOf f i with
      | .ok t => texts := texts ++ [(some f, t)]
      | .error e =>
        return ← complain ("cannot open ".toList ++ f ++ " (".toList ++ e.toList ++ [')'])
    match Script.ofTexts i.name texts with
    | .error text => do
      Session.err text
      pure 2
    | .ok script => do
      let s : Surroundings := ⟨start, i⟩
      let w : Work := { script, cells := startCells i script operands, unbuffered := c.unbuffered,
                        inside := Array.replicate script.rules.length false }
      let whole : Working Unit := do
        for (name, text) in c.assignments do Working.assignOperand s name text
        Working.runScript s script
      let (_, w) ← (ExceptT.run whole).run w
      let (_, w) ← (ExceptT.run (Working.finish s)).run w
      /- What has been read of the input but not used is left there, as far as it comes in blocks. -/
      if let (some whole, some rest) := (w.whole, w.input) then
        Session.putBack 0 whole
        let blocks := (whole.length - rest.length + 4095) / 4096
        Session.consume 0 (min whole.length (max 1 blocks * 4096))
      pure w.status

end MediaPipeline.Records
