import MediaPipeline.Program.Job

/-!
Programs that put things into an order: words so that the first of each pair comes before the second,
and lines as chance has it.
-/

namespace MediaPipeline.Program.Arranging

open Shell.Quoting (plain asNeeded)
open ProgramOption (flag value)

/-! ### Orders that fit pairs -/

structure Node where
  name : Octets
  waits : Nat := 0
  holds : List Nat := []
  next : Option Nat := none
  written : Bool := false

abbrev Web := Array Node

def tokens (text : Octets) : List Octets :=
  (text.splitBy fun a b => isBlank a == isBlank b).filter fun w => !(w.all isBlank)
where
  isBlank (c : Char) : Bool := c == ' ' || c == '\t' || c == '\n'

/-- Pairs of words that follow each other; a word alone at the end makes no pair. -/
def pairs : List Octets → List (Octets × Octets)
  | a :: b :: rest => (a, b) :: pairs rest
  | _ => []

def Web.ofPairs (ps : List (Octets × Octets)) : Web :=
  let all := (ps.flatMap fun (a, b) => [a, b]).mergeSort Files.inOrder |>.eraseReps
  let web : Web := (all.map fun name => { name }).toArray
  let number (name : Octets) : Nat := (all.idxOf? name).getD 0
  ps.foldl (fun web (a, b) =>
    if a == b then web
    else
      let i := number a
      let j := number b
      (web.modify i fun n => { n with holds := j :: n.holds }).modify j fun n =>
        { n with waits := n.waits + 1 }) web

/-- Writes words that nothing holds back, and those behind them; what is written comes last first. -/
def Web.release : Nat → Web → List Nat → List Octets → Web × List Octets
  | 0, web, _, done | _, web, [], done => (web, done)
  | fuel + 1, web, i :: queue, done =>
    match web[i]? with
    | none => release fuel web queue done
    | some node =>
      let web := web.modify i fun n => { n with written := true }
      let (web, freed) := node.holds.foldl (fun ((web, freed) : Web × List Nat) j =>
        let web := web.modify j fun n => { n with waits := n.waits - 1 }
        (web, if web[j]?.any fun n => n.waits = 0 then j :: freed else freed)) (web, [])
      release fuel web (queue ++ freed.reverse) (node.name :: done)

def Web.way (web : Web) (last : Nat) : Nat → Nat → List Octets
  | 0, _ => []
  | fuel + 1, i =>
    match web[i]? with
    | none => []
    | some n =>
      n.name :: if i = last then [] else match n.next with
        | some j => way web last fuel j
        | none => []

/-- Goes through the words once to find a loop, from the word to which the way has come. A loop that is
found is told, and one of its pairs taken away. -/
def Web.seek (web : Web) : List Nat → Option Nat → Web × Option Nat × Option (List Octets)
  | [], reached => (web, reached, none)
  | k :: rest, reached =>
    match web[k]? with
    | none => seek web rest reached
    | some node =>
      if node.waits = 0 then seek web rest reached
      else match reached with
        | none => seek web rest (some k)
        | some l =>
          if !node.holds.contains l then seek web rest reached
          else if node.next.isSome then
            let names := web.way k web.size l
            let web := (web.modify k fun n => { n with holds := n.holds.erase l }).modify l fun n =>
              { n with waits := n.waits - 1 }
            (web.map fun n => { n with next := none }, none, some names)
          else seek (web.modify k fun n => { n with next := some l }) rest (some k)

def Web.opened : Nat → Web → Option Nat → Web × List Octets
  | 0, web, _ => (web, [])
  | fuel + 1, web, reached =>
    match web.seek (List.range web.size) reached with
    | (web, _, some names) => (web, names)
    | (web, reached, none) => if reached.isNone then (web, []) else opened fuel web reached

def Web.unfold : Nat → Web → List Octets × List (List Octets)
  | 0, _ => ([], [])
  | fuel + 1, web =>
    let free := (List.range web.size).filter fun i =>
      web[i]?.any fun n => n.waits = 0 && !n.written
    let (web, done) := web.release (2 * web.size + 1) free []
    if web.all Node.written then (done.reverse, [])
    else
      let (web, loop) := Web.opened (web.size + 2) web none
      let (later, loops) := Web.unfold fuel web
      (done.reverse ++ later, loop :: loops)

def tsort (i : Invocation) : Outcome :=
  i.withOptions [] 1 fun a =>
    match a.operands with
    | _ :: extra :: _ => i.extraOperand 1 extra
    | operands =>
      let file := operands.head?.getD ['-']
      let shown := asNeeded file
      match i.content file with
      | .error f =>
        let what := if f == "Is a directory" then ": read error: " else ": "
        i.fail 1 (shown ++ what.toList ++ f.toList)
      | .ok text =>
        let words := tokens text
        let consumed := if i.isInput file then some text.length else none
        if words.length % 2 = 1 then
          { i.fail 1 (shown ++ ": input contains an odd number of tokens".toList) with consumed }
        else
          let ps := pairs words
          let (order, loops) := (Web.ofPairs ps).unfold (ps.length + 1)
          let told := loops.flatMap fun names =>
            i.complaint (shown ++ ": input contains a loop:".toList) ++ names.flatMap i.complaint
          { out := unlines order, err := told, status := if loops.isEmpty then 0 else 1, consumed }

/-! ### Orders by chance -/

def range? (text : Octets) : Option (Nat × Nat) :=
  let low := text.takeWhile (· != '-')
  let high := text.drop (low.length + 1)
  if [low, high].any fun t => t.isEmpty || !t.all Char.isDigit then none
  else
    let (low, high) := (natural low, natural high)
    if low ≤ high + 1 then some (low, high) else none

inductive MixFault where
  | wrong (text : Octets)
  | misused (text : Octets)
  | extra (operand : Octets)

def mixed (i : Invocation) (a : Arguments) : Except MixFault (List Octets × Option Nat) := do
  let ranges := a.options.filterMap fun (key, text) => if key == "i" then some text else none
  let counts ← a.options.mapM fun (key, text) =>
    match key with
    | "n" =>
      if text.isEmpty || !text.all Char.isDigit then
        .error (.wrong ("invalid line count: ".toList ++ plain text))
      else .ok (some (natural text))
    | "i" => do
      if (range? text).isNone then throw (.wrong ("invalid input range: ".toList ++ plain text))
      pure none
    | _ => .ok none
  let count := (counts.filterMap fun c => c).min?
  let stop := if a.has "z" then '\x00' else '\n'
  match a.has "e", ranges, a.operands with
  | _, _ :: _ :: _, _ => throw (.wrong "multiple -i options specified".toList)
  | true, _ :: _, _ => throw (.misused "cannot combine -e and -i options".toList)
  | true, [], words => pure (words, count)
  | false, [range], [] =>
    let (low, high) := (range? range).getD (0, 0)
    pure ((List.range' low (high + 1 - low)).map Octets.ofNat, count)
  | false, [_], extra :: _ => throw (.extra extra)
  | false, [], _ :: extra :: _ => throw (.extra extra)
  | false, [], operands =>
    let file := operands.head?.getD ['-']
    match i.content file with
    | .error f => throw (.wrong (asNeeded file ++ ": ".toList ++ f.toList))
    | .ok text =>
      let pieces := text.splitOn stop
      pure (if pieces.getLast? == some [] then pieces.dropLast else pieces, count)

/-- Mixes lines, words or numbers. Every order may be what chance brings; here it is the one in which
they are given. -/
def shuf (i : Invocation) : Outcome :=
  let known := [flag 'e' "echo", value 'i' "input-range", value 'n' "head-count", value 'o' "output",
    flag 'r' "repeat", flag 'z' "zero-terminated"] ++ ProgramOption.names .needed ["random-source"]
  i.withOptions known 1 fun a =>
    match mixed i a with
    | .error (.wrong text) => i.fail 1 text
    | .error (.misused text) => i.misuse 1 text
    | .error (.extra operand) => i.extraOperand 1 operand
    | .ok (pieces, count) =>
      let stop := if a.has "z" then '\x00' else '\n'
      let own := if !a.has "r" then pieces
        else (List.replicate (count.getD i.reach) pieces).flatten
      let kept := match count with
        | some n => own.take n
        | none => own
      let out := kept.flatMap fun p => p ++ [stop]
      let reads := !a.has "e" && !a.has "i" && a.operands.head?.all fun f => i.isInput f
      let consumed := if reads then i.wholeInput else none
      if a.has "r" && pieces.isEmpty && count != some 0 then
        { i.fail 1 "no lines to repeat".toList with consumed }
      else match a.value? "o" with
        | none => { out := if a.has "r" then out.take i.reach else out, consumed }
        | some path =>
          match i.files.resolve path true with
          | .ok (_, some .directory) => i.fail 1 (asNeeded path ++ ": Is a directory".toList)
          | .ok (place, _) => { files := some (i.files.write place out (freshMode i 0o666)), consumed }
          | .error f => i.fail 1 (asNeeded path ++ ": ".toList ++ f.message.toList)

end MediaPipeline.Program.Arranging
