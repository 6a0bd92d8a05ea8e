import MediaPipeline.Program.Columns

/-!
Runs of equal lines. A program that leaves one line of each run, or some of them, or sets the runs
apart.
-/

namespace MediaPipeline.Program.Repetition

open Shell (Quoting.plain)
open ProgramOption (flag value)

/-- Where an empty line stands between groups of lines. -/
inductive Spacing where
  | none
  | before
  | between
  | after
  | around
  deriving DecidableEq

structure Rules where
  skippedFields : Nat := 0
  skippedCharacters : Nat := 0
  compared : Option Nat := none
  anyCase : Bool := false
  single : Bool := true
  first : Bool := true
  others : Bool := false
  counted : Bool := false
  spacing : Spacing := .none
  grouping : Spacing := .none
  choosing : Bool := false
  ending : Char := '\n'
  digits : Bool := false

/-- A line without its first fields: blanks and what stands behind them up to the next. -/
def withoutFields : Nat → Octets → Octets
  | 0, l => l
  | n + 1, l =>
    let blank (c : Char) : Bool := c == ' ' || c == '\t' || c == '\n'
    withoutFields n ((l.dropWhile blank).dropWhile fun c => !blank c)

def Rules.part (r : Rules) (line : Octets) : Octets :=
  let rest := (withoutFields r.skippedFields line).drop r.skippedCharacters
  let rest := match r.compared with
    | some n => rest.take n
    | none => rest
  if r.anyCase then rest.map Char.toLower else rest

/-- Why arguments are refused: a word that an option does not know, as a whole message, or a fault. -/
inductive Refusal where
  | word (message : Octets)
  | fault (text : Octets)

def count (text : Octets) (fault : String) : Except Refusal Nat :=
  let digits := text.dropWhile isSpaceOctet
  let digits := if digits.head? == some '+' then digits.drop 1 else digits
  if digits.isEmpty || !digits.all Char.isDigit then
    .error (.fault (text ++ ": ".toList ++ fault.toList))
  else .ok (natural digits)

def Rules.with (i : Invocation) (r : Rules) (option : String × Octets) : Except Refusal Rules :=
  let (key, text) := option
  match key with
  | "c" => .ok { r with counted := true, choosing := true }
  | "d" => .ok { r with single := false, choosing := true }
  | "u" => .ok { r with first := false, choosing := true }
  | "i" => .ok { r with anyCase := true }
  | "z" => .ok { r with ending := '\x00' }
  | "f" =>
    (count text "invalid number of fields to skip").map fun n =>
      { r with skippedFields := n, digits := false }
  | "s" =>
    (count text "invalid number of bytes to skip").map fun n => { r with skippedCharacters := n }
  | "w" => (count text "invalid number of bytes to compare").map fun n => { r with compared := some n }
  | "D" | "all-repeated" =>
    let r := { r with single := false, others := true, choosing := true }
    if text.isEmpty then .ok { r with spacing := .none }
    else match i.choose text "all-repeated" [["none"], ["prepend"], ["separate"]] with
      | .ok n => .ok { r with spacing := ([.none, .before, .between] : List Spacing)[n]?.getD .none }
      | .error message => .error (.word message)
  | "group" =>
    if text.isEmpty then .ok { r with grouping := .between }
    else match i.choose text "group" [["prepend"], ["append"], ["separate"], ["both"]] with
      | .ok n =>
        .ok { r with grouping := ([.before, .after, .between, .around] : List Spacing)[n]?.getD .none }
      | .error message => .error (.word message)
  | digit =>
    let old := if r.digits then r.skippedFields else 0
    .ok { r with skippedFields := 10 * old + natural digit.toList, digits := true }

def Rules.left (r : Rules) (runs : List (List Octets)) : Octets :=
  let ended (l : Octets) : Octets := l ++ [r.ending]
  let every (spacing : Spacing) (groups : List Octets) : Octets :=
    match spacing with
    | .none => groups.flatten
    | .before => groups.flatMap fun g => r.ending :: g
    | .after => groups.flatMap fun g => g ++ [r.ending]
    | .between => (groups.intersperse [r.ending]).flatten
    | .around => if groups.isEmpty then [] else r.ending :: groups.flatMap fun g => g ++ [r.ending]
  if r.grouping != .none then every r.grouping (runs.map fun run => run.flatMap ended)
  else
    let front (run : List Octets) : Octets :=
      if r.counted then padLeft 7 (Octets.ofNat run.length) ++ [' '] else []
    let alone (run : List Octets) : Octets :=
      if r.single then front run ++ run.flatMap ended else []
    let repeated (run : List Octets) : Octets :=
      if r.others then run.dropLast.flatMap ended ++ (if r.first then ended (run.getLast?.getD []) else [])
      else if r.first then front run ++ ended (run.head?.getD [])
      else []
    let rec shown (later : Bool) : List (List Octets) → Octets
      | [] => []
      | run :: rest =>
        if run.length = 1 then alone run ++ shown later rest
        else
          let spaced := r.spacing == .before || (r.spacing == .between && later)
          (if spaced then [r.ending] else []) ++ repeated run ++ shown true rest
    shown false runs

def Rules.conflict? (r : Rules) : Option Octets :=
  if r.grouping != .none && r.choosing then
    some "--group is mutually exclusive with -c/-d/-D/-u".toList
  else if r.counted && r.others then
    some "printing all duplicated lines and repeat counts is meaningless".toList
  else none

def uniq (i : Invocation) : Outcome :=
  let known := [flag 'c' "count", flag 'd' "repeated", flag 'u' "unique", flag 'i' "ignore-case",
    value 'f' "skip-fields", value 's' "skip-chars", value 'w' "check-chars",
    flag 'z' "zero-terminated"] ++ ProgramOption.letters "D0123456789" ++
    ProgramOption.names .joined ["all-repeated", "group"]
  i.withOptions known 1 fun a =>
    let (skips, operands) := a.operands.partition fun w =>
      w.head? == some '+' && w.length > 1 && (w.drop 1).all Char.isDigit
    let start : Rules := { skippedCharacters := (skips.getLast?.map fun w => natural (w.drop 1)).getD 0 }
    match a.options.foldlM (Rules.with i) start with
    | .error (.word message) => { err := message, status := 1 }
    | .error (.fault text) => i.fail 1 text
    | .ok rules =>
      match rules.conflict?, operands with
      | _, _ :: _ :: extra :: _ => i.extraOperand 1 extra
      | some text, _ => i.misuse 1 text
      | none, _ =>
        let o := i.overOperands (operands.take 1) (fun _ text => text) Invocation.fileFault
        if o.status != 0 then o
        else
          let part := rules.part
          let lines := (records rules.ending o.out).map fun l => (part l, l)
          let runs := (lines.splitBy fun x y => x.1 == y.1).map fun run => run.map Prod.snd
          let out := rules.left runs
          match operands with
          | [_, target] =>
            if target == ['-'] then { o with out }
            else match i.files.resolve target true with
              | .ok (place, none) | .ok (place, some (.document _)) =>
                { o with out := [], files := some (i.files.write place out 0o644) }
              | .ok _ => i.fail 1 (Invocation.fileFault target "Is a directory")
              | .error f => i.fail 1 (Invocation.fileFault target f.message)
          | _ => { o with out }

end MediaPipeline.Program.Repetition
