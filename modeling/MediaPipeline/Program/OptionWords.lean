import MediaPipeline.Program.Invocation

/-!
Putting the arguments of scripts into order: each option becomes a word of its own, with its value
behind it, and the operands come last. The words are quoted so that a shell can read them again.
-/

namespace MediaPipeline.Program.OptionWords

open ProgramOption (flag value)

structure Known where
  letters : List (Char × ValueUse) := []
  names : List (Octets × ValueUse) := []
  ordered : Bool := false
  inPlace : Bool := false
  /-- A name may stand behind one hyphen. -/
  lone : Bool := false

def useOf : Octets → ValueUse × Octets
  | ':' :: ':' :: rest => (.joined, rest)
  | ':' :: rest => (.needed, rest)
  | rest => (.none, rest)

def lettersOf : Nat → Octets → List (Char × ValueUse)
  | 0, _ | _, [] => []
  | fuel + 1, c :: rest =>
    let (use, rest) := useOf rest
    (c, use) :: lettersOf fuel rest

def namesOf (text : Octets) : List (Octets × ValueUse) :=
  let words := (text.splitBy fun a b => isGap a == isGap b).filter fun w => !w.all isGap
  words.map fun w =>
    let name := w.takeWhile (· != ':')
    (name, (useOf (w.drop name.length)).1)
where
  isGap (c : Char) : Bool := [',', ' ', '\t', '\n'].contains c

inductive Part where
  | letter (c : Char) (value : Option Octets)
  | name (n : Octets) (value : Option Octets)
  | operand (text : Octets)
  | fault (text : Octets)

def Known.named (k : Known) (hyphens : Octets) (name : Octets) :
    Except Octets (Octets × ValueUse) :=
  let quoted (n : Octets) : Octets := '\'' :: hyphens ++ n ++ ['\'']
  match k.names.find? fun n => n.1 == name with
  | some n => .ok n
  | none =>
    match k.names.filter fun n => name.isPrefixOf n.1 with
    | [n] => .ok n
    | [] => .error ("unrecognized option ".toList ++ quoted name)
    | several => .error ("option ".toList ++ quoted name ++ " is ambiguous; possibilities:".toList ++
        several.flatMap fun n => ' ' :: '\'' :: '-' :: '-' :: n.1 ++ ['\''])

/-- Takes arguments apart into what they hold, in order. -/
def parts (k : Known) : Nat → List Octets → List Part
  | 0, _ | _, [] => []
  | fuel + 1, word :: rest =>
    let long (hyphens text : Octets) : List Part :=
      let name := text.takeWhile (· != '=')
      let joined := if name.length < text.length then some (text.drop (name.length + 1)) else none
      match k.named hyphens name with
      | .error f => .fault f :: parts k fuel rest
      | .ok (full, use) =>
        let shown := "option '".toList ++ hyphens ++ full ++ ['\'']
        match use, joined, rest with
        | .none, some _, _ =>
          .fault (shown ++ " doesn't allow an argument".toList) :: parts k fuel rest
        | .none, none, _ => .name full none :: parts k fuel rest
        | .joined, v, _ => .name full (some (v.getD [])) :: parts k fuel rest
        | .needed, some v, _ => .name full (some v) :: parts k fuel rest
        | .needed, none, v :: rest => .name full (some v) :: parts k fuel rest
        | .needed, none, [] => [.fault (shown ++ " requires an argument".toList)]
    match word with
    | ['-', '-'] => rest.map .operand
    | '-' :: '-' :: text => long ['-', '-'] text
    | '-' :: c :: cs =>
      let name := (c :: cs).takeWhile (· != '=')
      let fits := (k.named ['-'] name) matches .ok _
      let isLetter := k.letters.any fun l => l.1 == c
      if k.lone && (fits && !(cs.isEmpty && isLetter) || (!isLetter && !cs.isEmpty)) then
        long ['-'] (c :: cs)
      else match k.letters.find? fun l => l.1 == c && c != ':' && c != ';' with
        | none =>
          .fault ("invalid option -- '".toList ++ [c, '\'']) ::
            parts k fuel (if cs.isEmpty then rest else ('-' :: cs) :: rest)
        | some (_, .none) =>
          .letter c none :: parts k fuel (if cs.isEmpty then rest else ('-' :: cs) :: rest)
        | some (_, .joined) => .letter c (some cs) :: parts k fuel rest
        | some (_, .needed) =>
          if !cs.isEmpty then .letter c (some cs) :: parts k fuel rest
          else match rest with
            | v :: rest => .letter c (some v) :: parts k fuel rest
            | [] => [.fault ("option requires an argument -- '".toList ++ [c, '\''])]
    | _ => if k.ordered then (word :: rest).map .operand else .operand word :: parts k fuel rest

/-- A way to write words so that a shell can read them again. -/
inductive Quote where
  | bare
  | standard
  | other

def Quote.word (q : Quote) (text : Octets) : Octets :=
  match q with
  | .bare => ' ' :: text
  | .standard => ' ' :: '\'' :: (text.flatMap fun c => if c = '\'' then "'\\''".toList else [c]) ++ ['\'']
  | .other =>
    ' ' :: '\'' :: (text.flatMap fun c => match c with
      | '\'' => "'\\''".toList
      | '\\' => "\\\\".toList
      | '!' => "'\\!'".toList
      | '\n' => "\\n".toList
      | c => if c == ' ' || (9 ≤ c.toNat && c.toNat ≤ 13) then ['\'', '\\', c, '\''] else [c]) ++
      ['\'']

def ordered (k : Known) (q : Quote) (args : List Octets) : Octets × List Octets :=
  let found := parts k (args.foldl (fun n word => n + word.length + 1) 1) args
  let written := found.flatMap fun p => match p with
    | .letter c none => [' ', '-', c]
    | .letter c (some v) => [' ', '-', c] ++ q.word v
    | .name n none => " --".toList ++ n
    | .name n (some v) => " --".toList ++ n ++ q.word v
    | .operand text => if k.inPlace then q.word text else []
    | .fault _ => []
  let operands := if k.inPlace then [] else found.flatMap fun p => match p with
    | .operand text => q.word text
    | _ => []
  let faults := found.filterMap fun p => match p with
    | .fault text => some text
    | _ => none
  (written ++ " --".toList ++ operands ++ ['\n'], faults)

def getopt (i : Invocation) : Outcome :=
  let options := [flag 'a' "alternative", value 'l' "longoptions", value 'n' "name",
    value 'o' "options", flag 'q' "quiet", flag 'Q' "quiet-output", value 's' "shell",
    flag 'T' "test", flag 'u' "unquoted"]
  let finish (name : Octets) (quiet silent : Bool) (k : Known) (q : Quote) (args : List Octets) :
      Outcome :=
    let (out, faults) := ordered k q args
    { out := if silent then [] else out
      err := if quiet then [] else faults.flatMap fun f => name ++ ": ".toList ++ f ++ ['\n']
      status := if faults.isEmpty then 0 else 1 }
  let known (list : Octets) : Known :=
    let signs := list.takeWhile fun c => c == '+' || c == '-'
    { letters := lettersOf list.length (list.drop signs.length)
      ordered := signs.head? == some '+', inPlace := signs.head? == some '-' }
  match i.arguments with
  | [] => i.misuse 2 "missing optstring argument".toList
  | first :: rest =>
    if first.head? != some '-' then
      let bare := first.dropWhile fun c => c == '+' || c == '-'
      finish i.name false false (known bare) .bare (if rest.head? == some ['-', '-'] then rest.tail else rest)
    else match Arguments.ofList options true i.arguments with
      | .error text => i.misuse 2 text
      | .ok a =>
        if a.has "T" then { status := 4 }
        else
          let list := (a.value? "o").or a.operands.head?
          let args := if a.has "o" then a.operands else a.operands.drop 1
          let args := if !a.has "o" && args.head? == some ['-', '-'] then args.tail else args
          let names := a.options.flatMap fun (key, text) => if key == "l" then namesOf text else []
          let quote? : Option Quote := match (a.value? "s").map String.ofList with
            | none | some "sh" | some "bash" => some .standard
            | some "csh" | some "tcsh" => some .other
            | some _ => none
          match list, quote? with
          | _, none => i.misuse 2 "unknown shell after -s or --shell argument".toList
          | none, _ => i.misuse 2 "missing optstring argument".toList
          | some list, some q =>
            let k := { known list with names, lone := a.has "a" }
            finish ((a.value? "n").getD i.name) (a.has "q") (a.has "Q") k
              (if a.has "u" then .bare else q) args

end MediaPipeline.Program.OptionWords
