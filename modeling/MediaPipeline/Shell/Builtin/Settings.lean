import MediaPipeline.Shell.Builtin.Basic

/-!
Commands that change how the shell works, or show how: its flags and options, and what new files are
allowed.
-/

namespace MediaPipeline.Shell.Builtin

/-! ### Options of the shell -/

def optionLine (d : Dialect) (name : String) (on : Bool) : Octets :=
  let state := if on then "on\n".toList else "off\n".toList
  let shown := name.toList ++ List.replicate (15 - name.length) ' '
  match d with
  | .standard => shown ++ ' ' :: state
  | .extended => shown ++ '\t' :: state

def optionLines (m : Machine) : Octets :=
  let lines := (optionTable m.dialect).flatMap fun (name, _) =>
    optionLine m.dialect name (isOn m name)
  if m.isStandard then "Current option settings\n".toList ++ lines else lines

def optionCommands (m : Machine) : Octets :=
  (optionTable m.dialect).flatMap fun (name, _) =>
    (if isOn m name then "set -o " else "set +o ").toList ++ name.toList ++ ['\n']

/-- What a call of the extended dialect's command for options looks like. -/
def setUsage : String :=
  " [-abefhkmnptuvxBCEHPT] [-o option-name] [--] [-] [arg ...]"

def setFlag (on : Bool) (flag : Char) : Session Unit := do
  let m ← get
  if (optionTable m.dialect).any fun o => o.2 == some flag then
    if m.isStandard && flag == 'm' && on then
      complain "can't access tty; job control turned off".toList
    else set (m.setFlag on flag)
  else match m.dialect with
    | .standard => abort ("Illegal option -".toList ++ [flag])
    | .extended => misuse ((if on then '-' else '+') :: flag :: ": invalid option".toList) setUsage

def setOption (on : Bool) (name : Octets) : Session Unit := do
  let m ← get
  let text := String.ofList name
  match (optionTable m.dialect).lookup text with
  | some (some flag) => setFlag on flag
  | some none => set (setNamed m text on)
  | none =>
    match m.dialect with
    | .standard => abort ("Illegal option -o ".toList ++ name)
    | .extended => refuse 2 (name ++ ": invalid option name".toList)

/-- Takes flags from the front of arguments, and gives the parameters behind them, if there are
any. -/
def takeFlags : Nat → List Octets → Session (Option (List Octets))
  | 0, _ | _, [] => pure none
  | fuel + 1, arg :: rest => do
    let standard := (← get).isStandard
    match arg with
    | ['-'] => do
      modify fun m => (m.setFlag false 'x').setFlag false 'v'
      pure (if rest.isEmpty then none else some rest)
    | ['-', '-'] => pure (some rest)
    | sign :: letters =>
      if sign != '-' && sign != '+' then pure (some (arg :: rest))
      else if letters.isEmpty then
        if standard then takeFlags fuel rest else pure (some (arg :: rest))
      else
        let on := sign == '-'
        let rest ← letters.foldlM (fun rest c => do
          if c != 'o' then
            setFlag on c
            pure rest
          else match rest with
            | name :: more =>
              setOption on name
              pure more
            | [] => do
              let m ← get
              Session.out (if on then optionLines m else optionCommands m)
              pure []) rest
        takeFlags fuel rest
    | [] => pure (some (arg :: rest))

/-- A letter among flags that names none, in the extended dialect. -/
def unknownFlag? (m : Machine) : Nat → List Octets → Option Char
  | 0, _ | _, [] => none
  | fuel + 1, arg :: rest =>
    match arg with
    | ['-', '-'] | ['-'] => none
    | sign :: c :: cs =>
      let letters := (optionTable m.dialect).filterMap Prod.snd
      if m.isStandard || (sign != '-' && sign != '+') then none
      else match (c :: cs).find? fun c => c != 'o' && !letters.contains c with
        | some c => some c
        | none => unknownFlag? m fuel (if (c :: cs).contains 'o' then rest.tail else rest)
    | _ => none

def variableLines (m : Machine) : Octets :=
  let own := m.knownBindings.filter fun b => b.2.value.isSome && !b.2.hollow
  (own.mergeSort fun a b => Files.inOrder a.1 b.1).flatMap fun (name, b) =>
    match m.dialect, b.value with
    | .standard, some (.text t) => name ++ '=' :: Quoting.standard t ++ ['\n']
    | .extended, some (.text t) =>
      name ++ '=' :: (if t.isEmpty then [] else Quoting.extended t) ++ ['\n']
    | _, some v => name ++ '=' :: Binding.quotedElements v ++ ['\n']
    | _, none => []

def setFlags : Builtin := fun args => do
  if args.isEmpty then
    let m ← get
    Session.out (variableLines m)
    if !m.isStandard then
      for (name, body) in m.functions.mergeSort fun a b => Files.inOrder a.1 b.1 do
        Session.out (functionText m.heres name body ++ ['\n'])
  else if let some c := unknownFlag? (← get) (args.length + 1) args then
    misuse ('-' :: c :: ": invalid option".toList) setUsage
  else if let some parameters ← takeFlags (args.length + 1) args then
    modify fun m => { m with parameters }
  Session.setStatus 0

def namedOption : Builtin := fun args => do
  let o ← options "pqsuo" false " [-pqsu] [-o] [optname ...]" args
  let on := o.has 's'
  let off := o.has 'u'
  let m ← get
  let isNamed (n : String) : Bool := (namedOptions.lookup n).isSome
  let listing (n : String) : Octets :=
    let state := m.hasOption n
    if o.has 'p' then
      (if state then "shopt -s " else "shopt -u ").toList ++ n.toList ++ ['\n']
    else n.toList ++ List.replicate (15 - n.length) ' ' ++ '\t' ::
      (if state then "on\n" else "off\n").toList
  Session.setStatus 0
  if o.operands.isEmpty then
    let wanted := namedOptions.filter fun n =>
      if on then m.hasOption n.1 else if off then !m.hasOption n.1 else true
    if !o.has 'q' then Session.out (wanted.flatMap fun n => listing n.1)
  else
    for word in o.operands do
      let n := String.ofList word
      if o.has 'o' && (extendedOptions.lookup n).isSome then
        if on || off then modify fun m => setNamed m n on
        else
          let state := isOn (← get) n
          if !o.has 'q' then Session.out (optionLine .extended n state)
          if !state then Session.setStatus 1
      else if !isNamed n then do
        complain (word ++ ": invalid shell option name".toList)
        Session.setStatus 1
      else if on || off then
        modify fun m =>
          let others := m.options.filter (· != n)
          { m with options := if on then n :: others else others }
      else do
        if !o.has 'q' then Session.out (listing n)
        if !m.hasOption n then Session.setStatus 1

/-! ### Options of a script -/

structure OptionSearch where
  found : Char
  done : Bool
  argument : Option (Option Octets)
  message : Octets := []
  next : Nat
  offset : Nat

/-- Looks for the next option in arguments, from one of them on. The number behind the argument that
is being taken apart counts as the next one. -/
def nextOption (d : Dialect) (name letters : Octets) (args : List Octets) (next offset : Nat) :
    OptionSearch :=
  let word (n : Nat) : Option Octets := if n = 0 then none else args[n - 1]?
  let open_ : Option (Octets × Nat) :=
    if offset = 0 then none
    else ((word (next - 1)).map fun w => (w.drop offset, next)).filter fun w => !w.1.isEmpty
  let begin_ : Option (Octets × Nat) := match open_ with
    | some w => some w
    | none => match word next with
      | some ('-' :: c :: cs) => some (c :: cs, next + 1)
      | _ => none
  match begin_ with
  | none => ⟨'?', true, none, [], next, 0⟩
  | some (['-'], next) =>
    if open_.isNone then ⟨'?', true, none, [], next, 0⟩ else found '-' [] next
  | some ('-' :: rest, next) => found '-' rest next
  | some (c :: rest, next) => found c rest next
  | some ([], next) => ⟨'?', true, none, [], next, 0⟩
where
  found (c : Char) (rest : Octets) (next : Nat) : OptionSearch :=
    let quiet := letters.head? == some ':'
    let offset := if rest.isEmpty then 0 else ((args[next - 2]?.getD []).length - rest.length)
    let behind := (letters.dropWhile (· != c)).tail
    if c == ':' || !letters.contains c then
      let text := match d with
        | .standard => "Illegal option -".toList ++ [c, '\n']
        | .extended => name ++ ": illegal option -- ".toList ++ [c, '\n']
      ⟨'?', false, some (if quiet then some [c] else none), if quiet then [] else text, next, offset⟩
    else if behind.head? != some ':' then
      ⟨c, false, some (match d with
        | .standard => some []
        | .extended => none), [], next, offset⟩
    else if !rest.isEmpty then ⟨c, false, some (some rest), [], next, 0⟩
    else match args[next - 1]? with
      | some v => ⟨c, false, some (some v), [], next + 1, 0⟩
      | none =>
        let text := match d with
          | .standard => "No arg for -".toList ++ c :: " option\n".toList
          | .extended => name ++ ": option requires an argument -- ".toList ++ [c, '\n']
        if quiet then ⟨':', false, some (some [c]), [], next, 0⟩
        else ⟨'?', false, some none, text, next, 0⟩

def nextScriptOption : Builtin := fun args => do
  let m ← get
  match args with
  | letters :: holder :: own =>
    let from_ := if own.isEmpty then m.parameters else own
    let given := ((m.text? "OPTIND").filter fun t => !t.isEmpty && t.all Char.isDigit).map value
    /- In the extended dialect the number is that of the argument that is being taken apart. -/
    let index := max 1 (given.getD 1)
    let start := if m.optionOffset != 0 && !m.isStandard then index + 1 else index
    let s := nextOption m.dialect m.name letters from_ start m.optionOffset
    let quiet := !m.isStandard && m.text? "OPTERR" == some ['0']
    if !quiet then Session.err s.message
    if let some argument := s.argument then
      match argument with
      | some v => Session.assign "OPTARG".toList v
      | none => modify fun m => { m with bindings := m.bindings.remove "OPTARG".toList }
    let shown := if s.offset != 0 && !m.isStandard then s.next - 1 else s.next
    Session.assign "OPTIND".toList (Octets.ofNat shown)
    modify fun m => { m with optionOffset := s.offset }
    if !isName holder then
      match m.dialect with
      | .standard => abort (holder ++ ": bad variable name".toList)
      | .extended => abort (inMessage holder ++ ": not a valid identifier".toList)
    Session.assign holder [s.found]
    Session.setStatus (if s.done then 1 else 0)
  | _ =>
    match m.dialect with
    | .standard => abort "Usage: getopts optstring var [arg...]".toList
    | .extended => usage " optstring name [arg ...]"

/-! ### Permissions of new files -/

def octalText (n : Nat) : Octets :=
  [n / 512 % 8, n / 64 % 8, n / 8 % 8, n % 8].map fun d => Char.ofNat (48 + d)

def permissionText (mask : Nat) : Octets :=
  let part (who : Char) (shift : Nat) : Octets :=
    let bits := 7 - mask / shift % 8
    who :: '=' :: (if bits / 4 % 2 = 1 then ['r'] else []) ++
      (if bits / 2 % 2 = 1 then ['w'] else []) ++ (if bits % 2 = 1 then ['x'] else [])
  part 'u' 64 ++ ',' :: part 'g' 8 ++ ',' :: part 'o' 1

/-- Permissions that new files do not get, by letters. -/
def symbolicMask (mask : Nat) (text : Octets) : Option Nat :=
  (text.splitOn ',').foldlM (fun mask clause => do
    let who := clause.takeWhile fun c => "ugoa".toList.contains c
    let who := if who.isEmpty || who.contains 'a' then "ugo".toList else who
    let rest := clause.dropWhile fun c => "ugoa".toList.contains c
    match rest with
    | op :: letters =>
      if !"=+-".toList.contains op || !letters.all fun c => "rwxXst".toList.contains c then none
      else
        let bits := (if letters.contains 'r' then 4 else 0) + (if letters.contains 'w' then 2 else 0) +
          (if letters.contains 'x' then 1 else 0)
        pure (who.foldl (fun (mask : Nat) w =>
          let shift : Nat := if w == 'u' then 64 else if w == 'g' then 8 else 1
          let old := mask / shift % 8
          let new := match op with
            | '=' => 7 - bits
            | '+' => Nat.land old (7 - bits)
            | _ => Nat.lor old bits
          mask - old * shift + new * shift) mask)
    | [] => none) mask

/-- Shows or sets permissions that new files do not get. -/
def mask : Builtin := fun args => do
  let o ← options "Sp" false " [-p] [-S] [mode]" args
  let m ← get
  match o.operands with
  | [] => do
    Session.out (if o.has 'S' then permissionText m.mask ++ ['\n'] else
      (if o.has 'p' then "umask ".toList else []) ++ octalText m.mask ++ ['\n'])
    Session.setStatus 0
  | text :: _ =>
    if text.head?.any Char.isDigit then
      if text.all fun c => '0' ≤ c && c ≤ '7' then
        let n := text.foldl (fun n c => 8 * n + (c.toNat - 48)) 0
        set { m with mask := n % 512, status := 0 }
      else match m.dialect with
        | .standard => abort ("Illegal number: ".toList ++ text)
        | .extended => abort (text ++ ": octal number out of range".toList)
    else match symbolicMask m.mask text with
      | some n => do
        set { m with mask := n, status := 0 }
        if o.has 'S' then Session.out (permissionText n ++ ['\n'])
      | none =>
        match m.dialect with
        | .standard => abort ("Illegal mode: ".toList ++ text)
        | .extended =>
          let bad := (text.dropWhile fun c => "ugoa".toList.contains c).head?.getD ' '
          abort (inMessage [bad] ++ ": invalid symbolic mode operator".toList)

def times : Builtin := fun _ => do
  let m ← get
  let one := if m.isStandard then "0m0.000000s 0m0.000000s\n" else "0m0.000s 0m0.000s\n"
  Session.out (one ++ one).toList
  Session.setStatus 0

end MediaPipeline.Shell.Builtin
