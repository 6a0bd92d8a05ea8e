import MediaPipeline.Shell.Builtin.Basic

/-!
The commands that show and set limits of the shell as a process.
-/

namespace MediaPipeline.Shell.Builtin

def boundText (size : Nat) : Option Nat → Octets
  | none => "unlimited".toList
  | some n => Octets.ofNat (n / size)

/-- The limits as the standard dialect knows them: a description, a unit and its size, a letter, and
the letter of the limit itself. -/
def standardLimits : List (String × Nat × Char × Char) := [
  ("time(seconds)", 1, 't', 't'), ("file(blocks)", 512, 'f', 'f'),
  ("data(kbytes)", 1024, 'd', 'd'), ("stack(kbytes)", 1024, 's', 's'),
  ("coredump(blocks)", 512, 'c', 'c'), ("memory(kbytes)", 1024, 'm', 'm'),
  ("locked memory(kbytes)", 1024, 'l', 'l'), ("process", 1, 'p', 'u'), ("nofiles", 1, 'n', 'n'),
  ("vmemory(kbytes)", 1024, 'v', 'v'), ("locks", 1, 'w', 'x'), ("rtprio", 1, 'r', 'r')]

def keepLimit (l : Limit) : Session Unit :=
  modify fun m => { m with limits := m.limits.map fun k => if k.letter == l.letter then l else k }

def limitStandard : Builtin := fun args => do
  let o ← options "HSatfdscmlpnvwr" false "" args
  let sides := o.letters.filter fun l => l.1 == 'H' || l.1 == 'S'
  let (low, high) : Bool × Bool := match sides.getLast? with
    | some ('H', _) => (false, true)
    | some _ => (true, false)
    | none => (true, true)
  let chosen := (o.letters.reverse.find? fun l => !"HSa".toList.contains l.1).elim 'f' Prod.fst
  let row := standardLimits.find? fun (_, _, letter, _) => letter == chosen
  let limit? (letter : Char) : Session (Option Limit) :=
    return (← get).limits.find? fun k => k.letter == letter
  let shown (l : Limit) : Option Nat := if low then l.bound else l.highest
  Session.setStatus 0
  match o.operands, row with
  | [], some (_, size, _, letter) =>
    if o.has 'a' then
      for (description, size, _, letter) in standardLimits do
        if let some l := ← limit? letter then
          Session.out (padRight 20 description.toList ++ ' ' :: boundText size (shown l) ++ ['\n'])
    else if let some l := ← limit? letter then
      Session.out (boundText size (shown l) ++ ['\n'])
  | [text], some (_, size, _, letter) => do
    if o.has 'a' then abort "too many arguments".toList
    let isUnlimited := text == "unlimited".toList
    if !isUnlimited && !text.all Char.isDigit then abort "bad number".toList
    let wanted := if isUnlimited then none else some (value text * size)
    if let some l := ← limit? letter then
      match l.set? low high wanted with
      | some l => keepLimit l
      | none => abort "error setting limit (Operation not permitted)".toList
  | _, _ => abort "too many arguments".toList

def limitUsage : String :=
  " [-SHabcdefiklmnpqrstuvxPRT] [limit]"

def limitLine (l : Limit) (value : Octets) : Octets :=
  let unit := '(' :: (if l.unit.isEmpty then [] else l.unit.toList ++ ", ".toList) ++
    '-' :: l.letter :: ") ".toList
  padRight 20 l.description.toList ++ ' ' :: padLeft 20 unit ++ value ++ ['\n']

/-- The options of the extended dialect's command for limits: which sides of limits count, whether all
are shown, and the limits that are named, each with the value behind it. -/
structure LimitRequest where
  low : Bool := false
  high : Bool := false
  all : Bool := false
  named : List (Limit × Option Octets) := []
  rest : List Octets := []

/-- Takes the options of the extended dialect's command for limits apart. -/
def LimitRequest.ofArguments (known : List Limit) :
    Nat → List Octets → LimitRequest → Except Char LimitRequest
  | 0, args, r => .ok { r with rest := args }
  | fuel + 1, args, r =>
    match args with
    | ['-', '-'] :: rest => .ok { r with rest }
    | ('-' :: c :: cs) :: rest =>
      let more := if cs.isEmpty then rest else ('-' :: cs) :: rest
      if c == 'H' then ofArguments known fuel more { r with high := true }
      else if c == 'S' then ofArguments known fuel more { r with low := true }
      else if c == 'a' then ofArguments known fuel more { r with all := true }
      else match known.find? fun l => l.letter == c with
        | none => .error c
        | some l =>
          let added (v : Option Octets) : LimitRequest := { r with named := r.named ++ [(l, v)] }
          if !cs.isEmpty then
            if cs.head?.any Char.isDigit then ofArguments known fuel rest (added (some cs))
            else ofArguments known fuel more (added none)
          else match rest with
            | [] => .ok (added none)
            | v :: rest' =>
              if v.head? == some '-' then ofArguments known fuel rest (added none)
              else ofArguments known fuel rest' (added (some v))
    | args => .ok { r with rest := args }

def setLimit (l : Limit) (low high : Bool) (text : Octets) : Session Unit := do
  let wanted : Option Nat ←
    if text == "unlimited".toList then pure none
    else if text == "hard".toList then pure l.highest
    else if text == "soft".toList then pure l.bound
    else if !text.all Char.isDigit then
      abort (text ++ ": invalid number".toList)
    else if Nat.pow 2 64 ≤ value text * l.size then abort (text ++ ": limit out of range".toList)
    else pure (some (value text * l.size))
  match l.set? low high wanted with
  | some l => keepLimit l
  | none =>
    let reason := if l.fixed then "Invalid argument" else "Operation not permitted"
    abort (l.description.toList ++ ": cannot modify limit: ".toList ++ reason.toList)

def limitExtended : Builtin := fun args => do
  let m ← get
  let fuel := args.length + (args.map List.length).foldl (· + ·) 1
  match LimitRequest.ofArguments m.limits fuel args {} with
  | .error c => misuse ('-' :: c :: ": invalid option".toList) limitUsage
  | .ok r => do
    Session.setStatus 0
    let shown (l : Limit) : Octets :=
      boundText l.size (if r.high && !r.low then l.highest else l.bound)
    if r.all then Session.out (m.limits.flatMap fun l => limitLine l (shown l))
    else
      let fileSize := m.limits.filter fun l => l.letter == 'f'
      let named := if r.named.isEmpty then fileSize.map fun l => (l, r.rest.head?) else r.named
      for (l, value) in named do
        let l := ((← get).limits.find? fun k => k.letter == l.letter).getD l
        match value with
        | some text => setLimit l (r.low || !r.high) (r.high || !r.low) text
        | none =>
          Session.out (if named.length > 1 then limitLine l (shown l) else shown l ++ ['\n'])

def limit : Builtin := fun args => do
  if (← get).isStandard then limitStandard args else limitExtended args

end MediaPipeline.Shell.Builtin
