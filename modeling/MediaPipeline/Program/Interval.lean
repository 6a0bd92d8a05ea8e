import MediaPipeline.Shell.Real

/-!
Spans of time, as programs that wait are told them: a number and a letter for its unit.
-/

namespace MediaPipeline.Interval

def longest : Nat := Nat.pow 10 20

/-- How many seconds a letter behind a number stands for. -/
def unit? : Octets → Option Nat
  | [] | ['s'] => some 1
  | ['m'] => some 60
  | ['h'] => some 3600
  | ['d'] => some 86400
  | _ => none

def microseconds? (text : Octets) : Option Nat :=
  match Shell.Real.take? .long text with
  | none => none
  | some (x, rest, _) =>
    match unit? rest, x.magnitude with
    | none, _ | _, .notANumber => none
    | some _, .infinite => if x.negative then none else some longest
    | some factor, .finite m q =>
      if x.negative && m != 0 then none
      else
        let whole := m * Nat.pow 2 q.toNat * factor * 1000000
        let parts := Nat.pow 2 (-q).toNat
        some (min longest ((whole + parts - 1) / parts))

end MediaPipeline.Interval
