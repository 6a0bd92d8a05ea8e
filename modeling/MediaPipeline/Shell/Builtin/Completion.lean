import MediaPipeline.Shell.Builtin.Names
import MediaPipeline.Shell.Builtin.Settings

/-!
Proposals for the rest of a word: the answers to requests, and the commands that ask for them, or keep
requests for the words behind other commands.
-/

namespace MediaPipeline.Shell

structure Proposer where
  items : Octets → Session (List ListElement)
  evaluate : Octets → Session Unit
  output : Octets → Session Octets

namespace Builtin

/-! ### Names of all kinds -/

def reservedNames : List String := [
  "if", "then", "else", "elif", "fi", "case", "esac", "for", "select", "while", "until", "do",
  "done", "in", "function", "time", "\x7b", "\x7d", "!", "[[", "]]", "coproc"]

/-- The names that commands may have: those with a meaning of their own, and programs. -/
def commandNames (m : Machine) : List Octets :=
  let directories := ((m.text? "PATH").getD []).splitOn ':'
  let programs := directories.flatMap fun d =>
    match m.files.resolve d true with
    | .ok (place, some .directory) =>
      (m.files.namesIn place).filter fun n => isProgram m (d ++ '/' :: n)
    | _ => []
  let own := (allNames m.dialect).map String.toList
  m.aliases.map Prod.fst ++ (reservedNames.map String.toList) ++ m.functions.map Prod.fst ++
    own.mergeSort Files.inOrder ++ programs

def fileNames (m : Machine) (onlyDirectories : Bool) (word : Octets) : List Octets :=
  let last := (word.reverse.takeWhile (· != '/')).reverse
  let front := word.take (word.length - last.length)
  match m.files.resolve (if front.isEmpty then ['.'] else front) true with
  | .ok (place, some .directory) =>
    ((m.files.namesIn place).filter fun n =>
      (last.head? == some '.' || n.head? != some '.') &&
        (!onlyDirectories || m.files.isDirectory (front ++ n))).map fun n => front ++ n
  | _ => []

def topicNames : List String := [
  "%", "((", "[[", "case", "coproc", "for", "for ((", "function", "if", "job_spec", "select",
  "time", "until", "variables", "while", "\x7b"]

def eventNames : List String :=
  let shown (n : String) : String := if Signal.isNamed n then "SIG" ++ n else "SIGJUNK(" ++ n ++ ")"
  "EXIT" :: Signal.names.map shown ++ ["DEBUG", "ERR", "RETURN"]

def isList (b : Binding) : Bool :=
  match b.value with
  | some (.items _) => true
  | _ => false

def namesOf (m : Machine) (kind : String) (word : Octets) : List Octets :=
  let sorted (names : List Octets) : List Octets := names.mergeSort Files.inOrder
  let bound (wanted : Binding → Bool) : List Octets :=
    sorted ((m.knownBindings.filter fun b => b.2.value.isSome && wanted b.2).map Prod.fst)
  let own := sorted ((allNames m.dialect).map String.toList)
  let isDisabled (n : Octets) : Bool := m.disabled.contains (String.ofList n)
  let jobNames : List Octets := (m.jobs.reverse.filter fun j => !j.told).map fun j =>
    (commandText m.heres j.body).takeWhile (· != ' ')
  let found : List Octets := match kind with
    | "alias" => sorted (m.aliases.map Prod.fst)
    | "arrayvar" => bound isList
    | "builtin" => own
    | "disabled" => own.filter isDisabled
    | "enabled" => own.filter fun n => !isDisabled n
    | "export" => bound fun b => b.exported
    | "function" => sorted (m.functions.map Prod.fst)
    | "helptopic" => sorted (own ++ topicNames.map String.toList)
    | "hostname" => ["localhost".toList]
    | "job" | "running" => jobNames
    | "keyword" => (reservedNames.map String.toList)
    | "setopt" => extendedOptions.map fun o => o.1.toList
    | "shopt" => namedOptions.map fun o => o.1.toList
    | "signal" => eventNames.map String.toList
    | "variable" => bound fun _ => true
    | "command" => commandNames m
    | "file" => fileNames m false word
    | "directory" => fileNames m true word
    | "user" => Account.all.map fun a => a.name.toList
    | "group" => Account.groups.map fun g => g.1.toList
    | _ => []
  found.filter word.isPrefixOf

/-! ### Requests -/

/-- Takes the words of a text apart at separators that are not quoted. -/
def writtenWords (separators : Octets) : Option Char → Octets → Octets → List Octets
  | _, word, [] => if word.isEmpty then [] else [word]
  | none, word, '\\' :: c :: rest => writtenWords separators none (word ++ ['\\', c]) rest
  | some '"', word, '\\' :: c :: rest =>
    writtenWords separators (some '"') (word ++ ['\\', c]) rest
  | none, word, '$' :: '(' :: rest => writtenWords separators (some ')') (word ++ ['$', '(']) rest
  | none, word, c :: rest =>
    if separators.contains c then
      (if word.isEmpty then [] else [word]) ++ writtenWords separators none [] rest
    else if " \t;&|<>()".toList.contains c then
      writtenWords separators none (word ++ ['\\', c]) rest
    else if c == '\n' then writtenWords separators none (word ++ ['\'', c, '\'']) rest
    else
      let opens := ['\'', '"', '\x60'].contains c
      writtenWords separators (if opens then some c else none) (word ++ [c]) rest
  | some q, word, c :: rest =>
    writtenWords separators (if c == q then none else some q) (word ++ [c]) rest

def proposals (how : Proposer) (p : Proposing) (word : Octets) : Session (List Octets) := do
  let m ← get
  let names := (Proposing.allKinds.filter fun k => p.kinds.contains k.1).flatMap fun k =>
    namesOf m k.1 word
  let files := match p.pattern with
    | some t => (filesOf m.files m.fileRules (t.map fun c => (c, false))).getD []
    | none => []
  let words ← match p.words with
    | some t => do
      let flags := m.flags
      set (m.setFlag true 'f')
      let found ← (writtenWords m.separators none [] t).mapM fun w =>
        how.items ('(' :: w ++ [')'])
      modify fun m => { m with flags }
      pure ((found.flatten.map ListElement.text).filter word.isPrefixOf)
    | none => pure []
  let call := "compgen ".toList ++ Quoting.single word ++ " ''".toList
  let ofFunction ← match p.function with
    | some f =>
      if ((← get).functions.lookup f).isNone then
        Session.complain ("completion: function \x60".toList ++ f ++ "' not found".toList)
        pure []
      else do
        modify fun m => { m with bindings := m.bindings.remove "COMPREPLY".toList }
        how.evaluate (f ++ ' ' :: call)
        let reply := ((← get).bindings.get "COMPREPLY".toList).value
        modify fun m => { m with bindings := m.bindings.remove "COMPREPLY".toList }
        pure ((reply.map Value.elements).getD [])
    | none => pure []
  let ofCommand ← match p.command with
    | some c => do
      let text ← how.output (c ++ ' ' :: call)
      pure ((text.splitOn '\n').filter fun l => !l.isEmpty)
    | none => pure []
  let all := names ++ files ++ words ++ ofFunction ++ ofCommand
  let m ← get
  let all := match p.filter with
    | some t =>
      let (inverse, t) := match t with
        | '!' :: t => (true, t)
        | t => (false, t)
      let t := t.flatMap fun c => if c == '&' then word else [c]
      let pattern := Pattern.ofMarked m.rules (t.map fun c => (c, false))
      all.filter fun n => pattern.fits n == inverse
    | none => all
  let all := all.map fun n => p.front.getD [] ++ n ++ p.back.getD []
  let directories := namesOf m "directory" word
  pure (if p.options.contains "plusdirs" then all ++ directories
    else if !all.isEmpty then all
    else if p.options.contains "dirnames" then directories
    else if p.options.contains "default" then namesOf m "file" word
    else [])

/-- What takes the place of a request in the display of a call. -/
def requestUsage (more last : String) : String :=
  " [-abcdefgjksuv]" ++ more ++ " [-o option] [-A action] [-G globpat] [-W wordlist]" ++
    " [-F function] [-C command] [-X filterpat] [-P prefix] [-S suffix] [" ++ last ++ "]"

def request (o : Options) : Session Proposing := do
  for (c, v) in o.letters do
    let name := String.ofList v
    if c == 'A' && !(Proposing.allKinds.any fun k => k.1 == name) then
      refuse 2 (v ++ ": invalid action name".toList)
    if c == 'o' && !Proposing.allOptions.contains name then
      refuse 2 (v ++ ": invalid option name".toList)
  let named (letter : Char) : List String :=
    (o.letters.filter fun l => l.1 == letter).map fun l => String.ofList l.2
  let short := Proposing.allKinds.filter fun k => k.2.any o.has
  pure { kinds := short.map Prod.fst ++ named 'A', options := named 'o',
         pattern := o.value? 'G', words := o.value? 'W', function := o.value? 'F',
         command := o.value? 'C', filter := o.value? 'X', front := o.value? 'P',
         back := o.value? 'S' }

def propose (how : Proposer) : Builtin := fun args => do
  Session.setStatus 0
  if args.isEmpty then return
  let o ← options "abcdefgjko:sruvA:G:W:P:S:X:F:C:" false (requestUsage "" "word") args
  let p ← request o
  let doubtful (letter : Char) : Session Unit := do
    if o.has letter then
      complain ("warning: -".toList ++ letter :: " option may not work as you expect".toList)
  doubtful 'F'
  doubtful 'C'
  let found ← proposals how p ((o.operands.head?).getD [])
  Session.out (unlines found)
  Session.setStatus (if found.isEmpty then 1 else 0)

/-- The names under which requests are kept that stand for words without one of their own. -/
def anyWord : List (Char × String) := [
  ('D', "_DefaultCmD_"), ('E', "_EmptycmD_"), ('I', "_InitialWorD_")]

def requestLine (name : Octets) (p : Proposing) : Octets :=
  let name := (anyWord.find? fun w => w.2.toList == name).elim name fun w => ['-', w.1]
  "complete ".toList ++ p.shown ++ name ++ ['\n']

/-- Keeps requests for the words behind commands, shows them, or forgets them. -/
def complete : Builtin := fun args => do
  let o ← options "abcdefgjko:prsuvA:G:W:P:S:X:F:C:DEI" false
    (requestUsage " [-pr] [-DEI]" "name ...") args
  let p ← request o
  Session.setStatus 0
  let special := anyWord.filter fun w => o.has w.1
  let names := if special.isEmpty then o.operands else special.map fun w => w.2.toList
  let each (visit : Octets → Proposing → Session Unit) : Session Unit := do
    for name in names do
      match (← get).requests.lookup name with
      | some p => visit name p
      | none => do
        complain (name ++ ": no completion specification".toList)
        Session.setStatus 1
  let place (name : Octets) : Nat := tableOrder name % 512
  if o.has 'r' then
    if names.isEmpty then modify fun m => { m with requests := [] }
    else if !(← get).requests.isEmpty then each fun name _ => modify fun m =>
      { m with requests := m.requests.filter fun r => r.1 != name }
  else if o.has 'p' || args.isEmpty then
    if names.isEmpty then
      let all := (← get).requests.mergeSort fun a b => place a.1 ≤ place b.1
      Session.out (all.flatMap fun r => requestLine r.1 r.2)
    else each fun name p => Session.out (requestLine name p)
  else if names.isEmpty then usage (requestUsage " [-pr] [-DEI]" "name ...")
  else
    for name in names do
      modify fun m => { m with requests :=
        (name, p) :: m.requests.filter fun r => r.1 != name }

def changeRequest : Builtin := fun args => do
  let o ← options "o:DEI" true " [-o|+o option] [-DEI] [name ...]" args
  Session.setStatus 0
  if o.operands.isEmpty then abort "not currently executing completion function".toList
  else
    for name in o.operands do
      match (← get).requests.lookup name with
      | none => do
        complain (name ++ ": no completion specification".toList)
        Session.setStatus 1
      | some p =>
        let added := (o.letters.filter fun l => l.1 == 'o').map fun l => String.ofList l.2
        modify fun m => { m with requests := m.requests.map fun r =>
          if r.1 == name then (name, { p with options := p.options ++ added }) else r }

end Builtin

end MediaPipeline.Shell
