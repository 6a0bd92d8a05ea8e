import MediaPipeline.Calendar.Reading
import MediaPipeline.Program.Job

/-!
Writing moments of time: the present one, one that a text names, the time of a file, or those that the
lines of a file name.
-/

namespace MediaPipeline.Program

open ProgramOption (flag value)
open Shell (Quoting.plain)

/-- How moments are written where nothing else is asked for. -/
def dateFormat : String :=
  "%a %b %e %H:%M:%S %Z %Y"

def dateFormats : List (String × String) := [
  ("hours", "%Y-%m-%dT%H%:z"), ("minutes", "%Y-%m-%dT%H:%M%:z"), ("date", "%Y-%m-%d"),
  ("seconds", "%Y-%m-%dT%H:%M:%S%:z"), ("ns", "%Y-%m-%dT%H:%M:%S,%N%:z")]

def spacedDateFormats : List (String × String) := [
  ("date", "%Y-%m-%d"), ("seconds", "%Y-%m-%d %H:%M:%S%:z"), ("ns", "%Y-%m-%d %H:%M:%S.%N%:z")]

def formatOption (i : Invocation) (key : String) (text : Octets) : Except Octets (Option Octets) :=
  let among (option : String) (table : List (String × String)) (text : Octets) :
      Except Octets (Option Octets) := do
    let n ← i.choose text option (table.map fun f => [f.1])
    pure (table[n]?.map fun f => f.2.toList)
  match key with
  | "I" => among "iso-8601" dateFormats (if text.isEmpty then "date".toList else text)
  | "rfc-3339" => among "rfc-3339" spacedDateFormats text
  | "R" => .ok (some "%a, %d %b %Y %H:%M:%S %z".toList)
  | "resolution" => .ok (some "%s.%N".toList)
  | _ => .ok none

def moments (i : Invocation) (a : Arguments) (setting : Option Octets) :
    Except Octets (List (Octets × Option Moment)) :=
  let present := { Moment.onClock setting i.present.seconds with
    nanoseconds := i.present.nanoseconds }
  let named (text : Octets) : Octets × Option Moment :=
    (text, Moment.named? setting present text)
  match a.value? "d", a.value? "f", a.value? "r" with
  | some text, _, _ => .ok [named text]
  | none, some f, _ =>
    match i.content f with
    | .ok text => .ok ((linesOf text).map fun l =>
        named (if l.getLast? == some '\n' then l.dropLast else l))
    | .error e => .error (Invocation.fileFault f e)
  | none, none, some f =>
    match i.files.resolve f true with
    | .ok (place, some entry) =>
      let time := i.files.timeOf place entry
      let m := Moment.onClock setting (Int.fdiv time (Int.pow 10 9))
      .ok [(f, some { m with nanoseconds := (Int.fmod time (Int.pow 10 9)).toNat })]
    | .ok (_, none) => .error (Invocation.fileFault f "No such file or directory")
    | .error e => .error (Invocation.fileFault f e.message)
  | none, none, none =>
    match a.value? "s" with
    | some text => .ok [named text]
    | none => .ok [([], some present)]

/-- Writes moments of time. The clock cannot be set. -/
def date (i : Invocation) : Outcome :=
  let known := [value 'd' "date", value 'f' "file", ⟨some 'I', some "iso-8601", .joined⟩,
    value 'r' "reference", flag 'R' "rfc-email", ⟨some 'R', some "rfc-822", .none⟩,
    ⟨some 'R', some "rfc-2822", .none⟩, value 's' "set", flag 'u' "universal",
    ⟨some 'u', some "utc", .none⟩, ⟨some 'u', some "uct", .none⟩] ++
    ProgramOption.names .needed ["rfc-3339"] ++ ProgramOption.names .none ["debug"]
  i.withOptions known 1 fun a =>
    let formats : Except Octets (List Octets) :=
      (a.options.mapM fun o => formatOption i o.1 o.2).map fun fs => fs.filterMap fun f => f
    let given := ["d", "f", "r"].filter a.has
    let prints := !given.isEmpty
    let sets := a.has "s"
    let setting := if a.has "u" then some "UTC0".toList else i.environment.lookup "TZ".toList
    match formats with
    | .error text => { err := text, status := 1 }
    | .ok formats =>
      let many : Outcome := i.fail 1 "multiple output formats specified".toList
      if 1 < formats.length then many
      else if 1 < given.length then
        i.misuse 1 "the options to specify dates for printing are mutually exclusive".toList
      else if prints && sets then
        i.misuse 1 "the options to print and set the time may not be used together".toList
      else
        let write (format : Octets) : Outcome :=
          match moments i a setting with
          | .error text => i.fail 1 text
          | .ok ms =>
            let consumed := if a.value? "f" == some ['-'] then i.wholeInput else none
            ms.foldl (fun (o : Outcome) (text, m) => match m with
              | some m =>
                let refused := if sets then
                    i.complaint "cannot set date: Operation not permitted".toList else []
                { o with out := o.out ++ m.format true format ++ ['\n'], err := o.err ++ refused
                         status := if sets then 1 else o.status }
              | none =>
                { o with err := o.err ++ i.complaint ("invalid date ".toList ++ Quoting.plain text)
                         status := 1 }) { consumed }
        let usual := formats.head?.getD dateFormat.toList
        match a.operands with
        | [] => write usual
        | _ :: extra :: _ => i.extraOperand 1 extra
        | [('+' :: format)] => if formats.isEmpty then write format else many
        | [text] =>
          if prints || sets then
            i.misuse 1 ("the argument ".toList ++ Quoting.plain text ++ (" lacks a leading '+';\n" ++
              "when using an option to specify date(s), any non-option\n" ++
              "argument must be a format string beginning with '+'").toList)
          else if text.all Char.isDigit && [8, 10, 12].contains text.length then
            i.fail 1 "cannot set date: Operation not permitted".toList
          else i.fail 1 ("invalid date ".toList ++ Quoting.plain text)

end MediaPipeline.Program
