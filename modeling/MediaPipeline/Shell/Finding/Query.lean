import MediaPipeline.Calendar.Reading
import MediaPipeline.Program.Modes
import MediaPipeline.Shell.Pattern
import MediaPipeline.Shell.Regex

/-!
What is asked of the files of a tree: tests and actions, put together by operators, and how they are
written as the arguments of a program.
-/

namespace MediaPipeline.Shell.Finding

structure Bound where
  /-- More, exactly so many, or fewer. -/
  order : Ordering
  number : Nat

def Bound.holds (b : Bound) (n : Nat) : Bool :=
  compare n b.number == b.order

inductive ModeTest where
  | exactly
  | allOf
  | anyOf

/-- Where an action writes: to the output or to a file. -/
abbrev Target := Option Octets

inductive Query where
  | always (b : Bool)
  | name (pattern : Octets) (anyCase : Bool)
  | path (pattern : Octets) (anyCase : Bool)
  | linked (pattern : Octets) (anyCase : Bool)
  | regex (r : Regex) (anyCase : Bool)
  | kind (letters : Octets) (followed : Bool)
  | empty
  | size (unit : Nat) (b : Bound)
  | links (b : Bound)
  | mode (test : ModeTest) (bits : Nat)
  | executable
  | newer (time : Int)
  /-- How many units of so many seconds have gone by since it was written. -/
  | age (unit : Nat) (b : Bound)
  | same (path : Octets)
  | owned (b : Bool)
  | print (ending : Char) (target : Target)
  | format (text : Octets) (target : Target)
  | list
  | delete
  | prune
  | quit
  /-- Starts a command with the path in it; the path alone decides where braces stand. With `inside` it is
  started in the directory of the file, and with `asks` a question comes first. -/
  | start (words : List Octets) (inside asks : Bool)
  | startOnce (words : List Octets)
  | not (q : Query)
  | and (a b : Query)
  | or (a b : Query)
  /-- Both of them, one after the other; the second one counts. -/
  | list2 (a b : Query)

/-- Whether a query does anything that makes printing by itself superfluous. -/
def Query.acts : Query → Bool
  | print .. | format .. | list | delete | start .. | startOnce _ => true
  | not q => q.acts
  | and a b | or a b | list2 a b => a.acts || b.acts
  | _ => false

def Query.commands : Query → List (List Octets)
  | startOnce words => [words]
  | not q => q.commands
  | and a b | or a b | list2 a b => a.commands ++ b.commands
  | _ => []

def Query.targets : Query → List Octets
  | print _ (some f) | format _ (some f) => [f]
  | not q => q.targets
  | and a b | or a b | list2 a b => a.targets ++ b.targets
  | _ => []

structure Expression where
  rest : List Octets
  files : Files
  present : Moment
  setting : Option Octets := none
  mask : Nat := 0o022
  deepest : Option Nat := none
  first : Nat := 0
  childrenFirst : Bool := false
  follows : Bool := false
  grammar : Octets := "findutils-default".toList

abbrev Reading := StateT Expression (Except Octets)

def marked (word : Octets) : Octets :=
  '\x60' :: word ++ ['\'']

def valueOf (operator : Octets) : Reading Octets := do
  let e ← get
  match e.rest with
  | v :: rest => do
    set { e with rest }
    pure v
  | [] => throw ("missing argument to ".toList ++ marked operator)

def numberOf (operator : Octets) : Reading Nat := do
  let v ← valueOf operator
  if !v.isEmpty && v.all Char.isDigit then pure (natural v)
  else throw ("Expected a positive decimal integer argument to ".toList ++ operator ++
    ", but got ".toList ++ Quoting.plain v)

def bound? (text : Octets) : Option Bound :=
  let (order, digits) : Ordering × Octets := match text with
    | '+' :: rest => (.gt, rest)
    | '-' :: rest => (.lt, rest)
    | rest => (.eq, rest)
  if digits.isEmpty || !digits.all Char.isDigit then none else some ⟨order, natural digits⟩

def boundOf (operator : Octets) : Reading Bound := do
  let v ← valueOf operator
  match bound? v with
  | some b => pure b
  | none => throw ("invalid argument ".toList ++ marked v ++ " to ".toList ++ marked operator)

/-- How many bytes a letter behind a size stands for. -/
def unitSize? : Char → Option Nat
  | 'b' => some 512
  | 'c' => some 1
  | 'w' => some 2
  | 'k' => some 1024
  | 'M' => some 1048576
  | 'G' => some 1073741824
  | _ => none

def sizeOf : Reading Query := do
  let v ← valueOf "-size".toList
  let last := v.getLast?.getD ' '
  let (unit, digits) := if last.isDigit then (some 512, v) else (unitSize? last, v.dropLast)
  match unit, bound? digits with
  | none, _ => throw ("invalid -size type ".toList ++ marked [last])
  | some _, none => throw ("invalid argument ".toList ++ marked v ++ " to ".toList ++
      marked "-size".toList)
  | some unit, some b => pure (.size unit b)

def timeOf (operator : Octets) : Reading Int := do
  let v ← valueOf operator
  let e ← get
  match e.files.resolve v true with
  | .ok (place, some entry) => pure (e.files.timeOf place entry)
  | .ok (_, none) => throw (Quoting.plain v ++ ": No such file or directory".toList)
  | .error f => throw (Quoting.plain v ++ ": ".toList ++ f.message.toList)

def grammars : List String := [
  "findutils-default", "ed", "emacs", "gnu-awk", "grep", "posix-awk", "awk", "posix-basic",
  "posix-egrep", "egrep", "posix-extended", "posix-minimal-basic", "sed"]

/-- An expression in which signs that group need a backslash, and those that repeat do not, in the form in
which none of them does. -/
def withBareSigns : Nat → Octets → Octets
  | 0, text => text
  | _, [] => []
  | fuel + 1, '\\' :: c :: rest =>
    if c == '(' || c == ')' || c == '|' then c :: withBareSigns fuel rest
    else '\\' :: c :: withBareSigns fuel rest
  | fuel + 1, '[' :: rest =>
    let front := rest.takeWhile fun c => c == '^'
    let behind := rest.drop front.length
    let (bracket, behind) : Octets × Octets := match behind with
      | ']' :: more => ([']'], more)
      | more => ([], more)
    let inside := behind.takeWhile (· != ']')
    '[' :: front ++ bracket ++ inside ++ withBareSigns fuel (behind.drop inside.length)
  | fuel + 1, c :: rest =>
    if "()|\x7b\x7d".toList.contains c then '\\' :: c :: withBareSigns fuel rest
    else c :: withBareSigns fuel rest

def regexOf (operator : Octets) : Reading Regex := do
  let v ← valueOf operator
  let grammar := String.ofList (← get).grammar
  let text := Octets.characters v
  let extended : RegexRules := { extended := true, leading := .literal, looseBounds := true }
  let found := match grammar with
    | "findutils-default" | "emacs" =>
      Regex.ofText extended (withBareSigns (text.length + 1) text)
    | "ed" | "grep" | "posix-basic" | "sed" | "posix-minimal-basic" =>
      Regex.ofText { extended := false } text
    | _ => Regex.ofText extended text
  match found with
  | .ok (r, _) => pure r
  | .error f => throw ("failed to compile regular expression ".toList ++ '\'' :: v ++ "': ".toList ++
      f.message.toList)

def modeOf : Reading Query := do
  let v ← valueOf "-perm".toList
  let (test, text) : ModeTest × Octets := match v with
    | '-' :: rest => (.allOf, rest)
    | '/' :: rest => (.anyOf, rest)
    | rest => (.exactly, rest)
  match Program.changedMode 0 false text 0 with
  | some bits => pure (match test, bits with
    | .anyOf, 0 => .always true
    | test, bits => .mode test bits)
  | none => throw ("invalid mode ".toList ++ Quoting.plain v)

def kindOf (operator : Octets) (followed : Bool) : Reading Query := do
  let v ← valueOf operator
  let parts := v.splitOn ','
  match v.find? fun c => !"bcdpflsD,".toList.contains c with
  | some c => throw ("Unknown argument to ".toList ++ operator ++ ": ".toList ++ [c])
  | none =>
    if v.isEmpty then throw ("Arguments to ".toList ++ operator ++
      " should contain at least one letter".toList)
    else if parts.any fun p => 1 < p.length then
      throw ("Must separate multiple arguments to ".toList ++ operator ++ " using: ','".toList)
    else if parts.any List.isEmpty then
      throw ("Last file type in list argument to ".toList ++ operator ++
        " is missing, i.e., list is ending on: ','".toList)
    else pure (.kind v followed)

/-- The words of a command up to its end, and whether it is started once only. -/
def commandOf (operator : Octets) (inside asks : Bool) : Reading Query := do
  let e ← get
  let words := e.rest.takeWhile fun w => w != [';']
  let once := (e.rest.zip e.rest.tail).findIdx? fun (a, b) => a == "\x7b\x7d".toList && b == ['+']
  match if asks then none else once with
  | some n =>
    if n < words.length then do
      set { e with rest := e.rest.drop (n + 2) }
      pure (.startOnce (e.rest.take n))
    else do
      set { e with rest := e.rest.drop (words.length + 1) }
      pure (.start words inside asks)
  | none =>
    if words.length < e.rest.length && !words.isEmpty then do
      set { e with rest := e.rest.drop (words.length + 1) }
      pure (.start words inside asks)
    else throw ("missing argument to ".toList ++ marked operator)

def formatOf (operator : Octets) : Reading Octets := do
  let v ← valueOf operator
  let signs := (v.reverse.takeWhile (· == '%')).length
  if signs % 2 = 1 then throw "error: % at end of format string".toList else pure v

def ownerOf (operator : Octets) (group : Bool) : Reading Query := do
  let v ← valueOf operator
  if !v.isEmpty && v.all Char.isDigit then pure (.owned (natural v = 0))
  else if Program.isKnownOwner group v && !v.isEmpty then pure (.owned (v == "root".toList))
  else if group then
    throw (Quoting.plain v ++ " is not the name of an existing group".toList)
  else throw (Quoting.plain v ++ " is not the name of a known user".toList)

def operation (op : Octets) : Reading Query := do
  let e ← get
  let name := String.ofList op
  match name with
  | "-name" => return .name (← valueOf op) false
  | "-iname" => return .name (← valueOf op) true
  | "-path" | "-wholename" => return .path (← valueOf op) false
  | "-ipath" | "-iwholename" => return .path (← valueOf op) true
  | "-lname" => return .linked (← valueOf op) false
  | "-ilname" => return .linked (← valueOf op) true
  | "-regex" => return .regex (← regexOf op) false
  | "-iregex" => return .regex (← regexOf op) true
  | "-regextype" => do
    let v ← valueOf op
    if grammars.contains (String.ofList v) then do
      modify fun e => { e with grammar := v }
      pure (.always true)
    else throw ("Unknown regular expression type ".toList ++ Quoting.plain v ++
      "; valid types are ".toList ++
      joinOctets [',', ' '] (grammars.map fun g => Quoting.plain g.toList) ++ ['.'])
  | "-type" => kindOf op false
  | "-xtype" => kindOf op true
  | "-empty" => pure .empty
  | "-size" => sizeOf
  | "-links" => return .links (← boundOf op)
  | "-perm" => modeOf
  | "-executable" => pure .executable
  | "-readable" | "-writable" => pure (.always true)
  | "-newer" | "-anewer" | "-cnewer" => return .newer (← timeOf op)
  | "-mtime" | "-atime" | "-ctime" => return .age 86400 (← boundOf op)
  | "-mmin" | "-amin" | "-cmin" => return .age 60 (← boundOf op)
  | "-samefile" => do
    let v ← valueOf op
    match e.files.findLink v with
    | .ok _ => pure (.same v)
    | .error f => throw (Quoting.plain v ++ ": ".toList ++ f.message.toList)
  | "-user" => ownerOf op false
  | "-uid" => return .owned ((← boundOf op).holds 0)
  | "-group" => ownerOf op true
  | "-gid" => return .owned ((← boundOf op).holds 0)
  | "-nouser" | "-nogroup" => pure (.always false)
  | "-true" => pure (.always true)
  | "-false" => pure (.always false)
  | "-print" => pure (.print '\n' none)
  | "-print0" => pure (.print '\x00' none)
  | "-fprint" => return .print '\n' (some (← valueOf op))
  | "-fprint0" => return .print '\x00' (some (← valueOf op))
  | "-printf" => return .format (← formatOf op) none
  | "-fprintf" => do
    let target ← valueOf op
    return .format (← formatOf op) (some target)
  | "-ls" => pure .list
  | "-delete" => do
    modify fun e => { e with childrenFirst := true }
    pure .delete
  | "-depth" | "-d" => do
    modify fun e => { e with childrenFirst := true }
    pure (.always true)
  | "-prune" => pure .prune
  | "-quit" => pure .quit
  | "-exec" => commandOf op false false
  | "-execdir" => commandOf op true false
  | "-ok" | "-okdir" => commandOf op (name == "-okdir") true
  | "-maxdepth" => do
    let n ← numberOf op
    modify fun e => { e with deepest := some n }
    pure (.always true)
  | "-mindepth" => do
    let n ← numberOf op
    modify fun e => { e with first := n }
    pure (.always true)
  | "-follow" => do
    modify fun e => { e with follows := true }
    pure (.always true)
  | "-mount" | "-xdev" | "-noleaf" | "-daystart" | "-warn" | "-nowarn" | "-ignore_readdir_race"
  | "-noignore_readdir_race" => pure (.always true)
  | "-newermt" => do
    let v ← valueOf op
    match Moment.named? e.setting e.present v with
    | some m => pure (.newer (m.seconds * 1000000000 + m.nanoseconds))
    | none => throw ("I cannot figure out how to interpret ".toList ++ Quoting.plain v ++
        " as a date or time".toList)
  | "-inum" => do
    let _ ← boundOf op
    pure (.always false)
  | _ =>
    if op.head? == some '-' then throw ("unknown predicate ".toList ++ marked op)
    else throw ("paths must precede expression: ".toList ++ marked op)

/-- Whether a word is one of the signs between two queries. -/
def isJoint (op : Octets) : Bool :=
  ["-o", "-or", "-a", "-and", ","].contains (String.ofList op)

def unclosed : Octets :=
  ("invalid expression; expected to find a ')' but didn't see one. " ++
    "Perhaps you need an extra predicate after '('").toList

mutual

def listed : Nat → Option Octets → Reading Query
  | 0, _ => pure (.always true)
  | fuel + 1, behind => do
    let first ← alternatives fuel behind
    match (← get).rest with
    | [','] :: rest => do
      modify fun e => { e with rest }
      return .list2 first (← listed fuel (some [',']))
    | _ => pure first

def alternatives : Nat → Option Octets → Reading Query
  | 0, _ => pure (.always true)
  | fuel + 1, behind => do
    let first ← conjunction fuel behind
    match (← get).rest with
    | op :: rest =>
      if op == "-o".toList || op == "-or".toList then
        modify fun e => { e with rest }
        return .or first (← alternatives fuel (some op))
      else pure first
    | [] => pure first

def conjunction : Nat → Option Octets → Reading Query
  | 0, _ => pure (.always true)
  | fuel + 1, behind => do
    let first ← single fuel behind
    match (← get).rest with
    | [] => pure first
    | op :: rest =>
      if op == "-o".toList || op == "-or".toList || op == [')'] || op == [','] then pure first
      else if op == "-a".toList || op == "-and".toList then do
        modify fun e => { e with rest }
        return .and first (← conjunction fuel (some op))
      else return .and first (← conjunction fuel none)

def single : Nat → Option Octets → Reading Query
  | 0, _ => pure (.always true)
  | fuel + 1, behind => do
    let e ← get
    match e.rest with
    | [] => match behind with
      | some op => throw ("expected an expression after '".toList ++ op ++ ['\''])
      | none => pure (.always true)
    | op :: rest => do
      set { e with rest }
      match String.ofList op with
      | "!" | "-not" => return .not (← single fuel (some op))
      | "(" => do
        if rest.head? == some [')'] then
          throw "invalid expression; empty parentheses are not allowed.".toList
        if rest.isEmpty then throw unclosed
        let inside ← listed fuel none
        match (← get).rest with
        | [')'] :: rest => do
          modify fun e => { e with rest }
          pure inside
        | _ => throw unclosed
      | _ =>
        if isJoint op || op == [')'] then
          match behind with
          | some before => throw ("invalid expression; I was expecting to find a ')' somewhere ".toList ++
              "but did not see one after '".toList ++ before ++ ['\''])
          | none =>
            if op == [')'] then throw "invalid expression; you have too many ')'".toList
            else throw ("invalid expression; you have used a binary operator '".toList ++ op ++
              "' with nothing before it.".toList)
        else operation op

end
def beginsExpression (word : Octets) : Bool :=
  match word with
  | '-' :: _ :: _ => true
  | ['('] | ['!'] => true
  | _ => false

end MediaPipeline.Shell.Finding
