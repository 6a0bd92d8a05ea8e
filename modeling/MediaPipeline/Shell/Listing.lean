import MediaPipeline.Shell.Quoting
import MediaPipeline.Shell.Source

/-!
Commands as the extended dialect shows them: on lines of their own, indented by how deep they stand,
with one spelling for what can be written in several ways.
-/

namespace MediaPipeline.Shell

structure Listing where
  heres : Array HereText
  out : Array Char := #[]
  indent : Nat := 0
  step : Nat := 4
  goesOn : Bool := false
  inFunction : Bool := false
  /-- Number of connections of commands around what is written. -/
  connections : Nat := 0
  /-- Here-documents whose lines are still to come. -/
  due : List Octets := []
  behindLines : Bool := false

abbrev Lister := StateM Listing

namespace Lister

def put (text : Octets) : Lister Unit :=
  modify fun l => { l with out := l.out ++ text.toArray }

def puts (text : String) : Lister Unit :=
  put text.toList

def indentation : Lister Unit := do
  put (List.replicate (← get).indent ' ')

def line (text : String) : Lister Unit := do
  puts "\n"
  indentation
  puts text

/-- Ends a command, unless something else has ended it. -/
def semicolon : Lister Unit := do
  match (← get).out.back? with
  | some '&' | some '\n' => pure ()
  | _ => puts ";"

def deeper (body : Lister Unit) : Lister Unit := do
  modify fun l => { l with indent := l.indent + l.step }
  body
  modify fun l => { l with indent := l.indent - l.step }

def goOn : Lister Unit :=
  modify fun l => { l with goesOn := true }

def hereLines (bodies : List Octets) : Lister Unit := do
  if !bodies.isEmpty then
    puts "\n"
    for body in bodies do
      put body
      puts "\n"
    modify fun l => { l with behindLines := true }

/-- Writes a sign between commands, and behind it the lines of the here-documents that are due. -/
def joint (sign : String) : Lister Unit := do
  let due := (← get).due
  let shown := sign != "" && sign != ";"
  if shown then puts sign
  modify fun l => { l with due := [] }
  if !due.isEmpty then
    hereLines due
    if shown then puts " "

/-! ### Redirections -/

/-- A redirection as it is shown. A here-document gives its lines too. -/
def redirection (heres : Array HereText) : Redirection → Octets × Option Octets
  | .mk descriptor holder kind _ written =>
    let front (usual : Nat) (always : Bool) : Octets :=
      match holder, descriptor with
      | some name, _ => '\x7b' :: name ++ ['\x7d']
      | none, some n => if n = usual && !always then [] else Octets.ofNat n
      | none, none => if always then Octets.ofNat usual else []
    let isNumber := (!written.isEmpty && written.all Char.isDigit) || written == ['-'] ||
      (written.getLast? == some '-' && written.dropLast.all Char.isDigit)
    match kind with
    | .read => (front 0 false ++ "< ".toList ++ written, none)
    | .write forced => (front 1 false ++ (if forced then ">| " else "> ").toList ++ written, none)
    | .append => (front 1 false ++ ">> ".toList ++ written, none)
    | .both => (front 0 true ++ "<> ".toList ++ written, none)
    | .duplicate true => (front 0 isNumber ++ "<&".toList ++ written, none)
    | .duplicate false =>
      if isNumber || (descriptor.isSome || holder.isSome) then
        (front 1 isNumber ++ ">&".toList ++ written, none)
      else if written.head?.any (fun c => c == '$' || c == '"') then
        (">&".toList ++ written, none)
      else ("&> ".toList ++ written, none)
    | .here n =>
      let text := (heres[n]?).getD { content := [] }
      (front 0 false ++ text.head, some text.body)
    | .hereWord => (front 0 false ++ "<<< ".toList ++ written, none)
    | .all append => ((if append then "&>> " else "&> ").toList ++ written, none)

def redirections (rs : List Redirection) : Lister Unit := do
  let l ← get
  let shown := rs.map (redirection l.heres)
  put (joinOctets [' '] (shown.map Prod.fst))
  let bodies := shown.filterMap Prod.snd
  if !bodies.isEmpty then
    if l.connections != 0 then modify fun l => { l with due := bodies }
    else hereLines bodies

/-! ### Conditions -/

def condition : Test → Octets
  | .word _ written => "-n ".toList ++ written
  | .unary _ _ written | .binary _ _ _ written => written
  | .group t => "( ".toList ++ condition t ++ " )".toList
  | .not t => "! ".toList ++ condition t
  | .and a b => condition a ++ " && ".toList ++ condition b
  | .or a b => condition a ++ " || ".toList ++ condition b

/-! ### Commands -/

def connected (first : Lister Unit) (sign : Lister Unit) (second : Lister Unit) : Lister Unit := do
  modify fun l => { l with connections := l.connections + 1 }
  goOn
  first
  sign
  second
  joint ""
  modify fun l => { l with connections := l.connections - 1 }

/-- Writes what stands between commands that run one after another. -/
def sequel : Lister Unit := do
  let l ← get
  if l.due.isEmpty then
    if l.behindLines then modify fun l => { l with behindLines := false } else puts ";"
  else joint (if l.inFunction then "" else ";")
  if l.inFunction then puts "\n"
  else
    puts " "
    goOn

def command : Nat → Command → Lister Unit
  | 0, _ => pure ()
  | depth + 1, c => do
    let inner (c : Command) : Lister Unit := do
      command depth c
      joint ""
    let body (c : Command) : Lister Unit := do
      deeper (inner c)
      semicolon
    if !(c matches .nothing) then
      if (← get).goesOn then modify fun l => { l with goesOn := false } else indentation
    match c with
    | .nothing => pure ()
    | .simple _ _ _ rs written => do
      put written
      if !rs.isEmpty then
        if !written.isEmpty then puts " "
        redirections rs
    | .redirected _ c rs => do
      goOn
      command depth c
      puts " "
      redirections rs
    | .pipe stages =>
      match stages with
      | [] => pure ()
      | first :: rest => do
        modify fun l => { l with connections := l.connections + 1 }
        goOn
        command depth first
        for stage in rest do
          joint " |"
          puts " "
          goOn
          command depth stage
        joint ""
        modify fun l => { l with connections := l.connections - 1 }
    | .not c => do
      puts "! "
      goOn
      command depth c
    | .timed portable c => do
      puts (if portable then "time -p " else "time ")
      goOn
      command depth c
    | .and a b => connected (command depth a) (do joint " && "; goOn) (command depth b)
    | .or a b => connected (command depth a) (do joint " || "; goOn) (command depth b)
    | .seq (.background a) b =>
      connected (command depth a) (do joint " &"; puts " "; goOn) (command depth b)
    | .seq (.seq first (.background a)) b =>
      connected (command depth (.seq first a)) (do joint " &"; puts " "; goOn) (command depth b)
    | .seq a b => connected (command depth a) sequel (command depth b)
    | .background c => do
      goOn
      command depth c
      joint " &"
    | .subshell _ c => do
      puts "( "
      goOn
      inner c
      puts " )"
    | .group c => do
      if (← get).inFunction then
        puts "\x7b \n"
        deeper (inner c)
        puts "\n"
        indentation
      else
        puts "\x7b "
        goOn
        inner c
        semicolon
        puts " "
      puts "\x7d"
    | .cond test yes no => do
      puts "if "
      goOn
      command depth test
      semicolon
      puts " then\n"
      deeper (inner yes)
      if let some no := no then
        semicolon
        line "else\n"
        deeper (inner no)
      semicolon
      line "fi"
    | .loop untilSuccess test c => do
      puts (if untilSuccess then "until " else "while ")
      goOn
      inner test
      semicolon
      puts " do\n"
      body c
      line "done"
    | .each _ name _ written c => do
      put ("for ".toList ++ name ++ " in ".toList ++ written ++ [';'])
      line "do\n"
      body c
      line "done"
    | .select _ name _ written c => do
      put ("select ".toList ++ name ++ " in ".toList ++ written ++ [';'])
      line "do\n"
      body c
      line "done"
    | .count _ _ _ _ written c => do
      put ("for ((".toList ++ written ++ "))".toList)
      line "do\n"
      body c
      line "done"
    | .choose _ _ written arms => do
      put ("case ".toList ++ written ++ " in ".toList)
      deeper do
        for arm in arms do
          match arm with
          | .mk _ written c next => do
            line ""
            put (written ++ ")\n".toList)
            deeper (inner c)
            line (match next with
              | .leave => ";;"
              | .run => ";&"
              | .try => ";;&")
      line "esac"
    | .define _ name c => function depth "function " name c
    | .arithmetic _ _ written => put ("((".toList ++ written ++ "))".toList)
    | .test _ t => put ("[[ ".toList ++ condition t ++ " ]]".toList)
    | .contents _ r => redirections [r]
where
  function : Nat → String → Octets → Command → Lister Unit
    | 0, _, _, _ => pure ()
    | depth + 1, front, name, c => do
      puts front
      put (name ++ " () \n".toList)
      indentation
      puts "\x7b \n"
      let before := (← get).inFunction
      modify fun l => { l with inFunction := true }
      let (c, rs) : Command × List Redirection := match c with
        | .redirected _ (.group c) rs => (c, rs)
        | .group c => (c, [])
        | c => (c, [])
      deeper do
        command depth c
        joint ""
      modify fun l => { l with inFunction := before }
      if rs.isEmpty then line "\x7d"
      else
        line "\x7d "
        redirections rs

end Lister

def listingBound : Nat := 10000

def functionText (heres : Array HereText) (name : Octets) (body : Command) : Octets :=
  let l := ((Lister.command.function listingBound "" name body).run { heres }).2
  l.out.toList

def exportText (heres : Array HereText) (body : Command) : Octets :=
  let c : Command := match body with
    | .group c => c
    | c => c
  let l := ((do
    Lister.puts "() \x7b "
    Lister.command listingBound c
    Lister.joint "").run { heres, indent := 1, step := 0, inFunction := true }).2
  l.out.toList ++ "\n\x7d".toList

def commandText (heres : Array HereText) (c : Command) : Octets :=
  ((Lister.command listingBound c).run { heres, goesOn := true }).2.out.toList

end MediaPipeline.Shell
