import MediaPipeline.Text.Letters

/-!
Patterns over texts: `*` for any text, `?` for any character, and sets in brackets.
-/

namespace MediaPipeline.Shell

def allOctets : Octets :=
  (List.range 256).map Char.ofNat

def octetRange (first last : Char) : Octets :=
  allOctets.filter fun c => first.toNat ≤ c.toNat && c.toNat ≤ last.toNat

def octetClass? (name : String) : Option Octets :=
  let test : Option (Char → Bool) :=
    match name with
    | "alpha" => some Char.isAlpha
    | "digit" => some Char.isDigit
    | "alnum" => some Char.isAlphanum
    | "upper" => some Char.isUpper
    | "lower" => some Char.isLower
    | "space" => some fun c => c == ' ' || (9 ≤ c.toNat && c.toNat ≤ 13)
    | "blank" => some fun c => c == ' ' || c == '\t'
    | "cntrl" => some fun c => c.toNat < 32 || c.toNat == 127
    | "print" => some fun c => 32 ≤ c.toNat && c.toNat < 127
    | "graph" => some fun c => 32 < c.toNat && c.toNat < 127
    | "punct" => some fun c => 32 < c.toNat && c.toNat < 127 && !c.isAlphanum
    | "xdigit" => some fun c => c.isDigit || "abcdefABCDEF".toList.contains c
    | _ => none
  test.map allOctets.filter

inductive GroupKind where
  | optional
  | once
  | any
  | some
  | other
  deriving DecidableEq

inductive Glob where
  | literal (c : Char)
  | one
  | many
  | oneOf (negated : Bool) (test : Char → Bool)
  | group (kind : GroupKind) (alternatives : List (List Glob))

structure PatternRules where
  /-- A caret negates a set, a class that is not known has no members, and the bytes of a text make
  characters. -/
  extended : Bool
  groups : Bool

structure Pattern where
  elements : List Glob
  size : Nat
  wide : Bool := false
  anyCase : Bool := false

namespace Glob

abbrev Marked := Char × Bool

def class? (rules : PatternRules) (name : String) : Option (Char → Bool) :=
  (Letter.class? name).map fun test c => test c && (rules.extended || c.toNat < 0x80)

/-- The test for the members of a bracketed set up to its end, and what follows. -/
def members (rules : PatternRules) : Nat → List Marked → Option ((Char → Bool) × List Marked)
  | 0, _ => none
  | fuel + 1, text =>
    let more (own : Char → Bool) (rest : List Marked) : Option ((Char → Bool) × List Marked) :=
      (members rules fuel rest).map fun (more, rest) => (fun c => own c || more c, rest)
    let between (a b c : Char) : Bool := a ≤ c && c ≤ b
    match text with
    | [] => none
    | (']', false) :: rest => some (fun _ => false, rest)
    | ('\\', false) :: (c, _) :: rest => members rules fuel ((c, true) :: rest)
    | ('[', false) :: (':', false) :: rest =>
      let name := rest.takeWhile fun m => m.1.isAlpha
      let plain (c : Char) : Bool := c == '[' || c == ':'
      match class? rules (String.ofList (name.map Prod.fst)), rest.drop name.length with
      | some test, (':', false) :: (']', false) :: rest => more test rest
      | none, (':', false) :: (']', false) :: behind =>
        if rules.extended then more (fun _ => false) behind else more plain rest
      | _, _ => more plain rest
    | (a, _) :: ('-', false) :: ('\\', false) :: (b, _) :: rest => more (between a b) rest
    | (a, _) :: ('-', false) :: (b, q) :: rest =>
      if b == ']' && !q then more (fun c => c == a || c == '-') ((b, q) :: rest)
      else more (between a b) rest
    | (a, _) :: rest => more (· == a) rest

/-- A bracketed set from behind its opening bracket. A closing bracket at once is a member. -/
def set? (rules : PatternRules) (text : List Marked) : Option (Glob × List Marked) :=
  let negated := match text with
    | ('!', false) :: _ => true
    | ('^', false) :: _ => rules.extended
    | _ => false
  let text := if negated then text.tail else text
  let (first, text) := match text with
    | (']', false) :: rest => (true, rest)
    | text => (false, text)
  (members rules (text.length + 1) text).map fun (test, rest) =>
    (oneOf negated fun c => (first && c == ']') || test c, rest)

def alternatives : Nat → List Marked → List Marked → Option (List (List Marked) × List Marked)
  | _, _, [] => none
  | depth, acc, m :: rest =>
    let inside (depth : Nat) := alternatives depth (m :: acc) rest
    match m, depth with
    | (')', false), 0 => some ([acc.reverse], rest)
    | ('|', false), 0 => (alternatives 0 [] rest).map fun (more, rest) => (acc.reverse :: more, rest)
    | (')', false), depth + 1 => inside depth
    | ('(', false), depth => inside (depth + 1)
    | _, depth => inside depth

def groupKind? : Char → Option GroupKind
  | '?' => some .optional
  | '*' => some .any
  | '+' => some .some
  | '@' => some .once
  | '!' => some .other
  | _ => none

/-- The elements of a pattern; quoted characters stand for themselves. -/
def ofMarked (rules : PatternRules) : Nat → List Marked → List Glob
  | 0, _ => []
  | _, [] => []
  | fuel + 1, (c, quoted) :: rest =>
    let next (g : Glob) (rest : List Marked) : List Glob := g :: ofMarked rules fuel rest
    let grouped : Option (Glob × List Marked) :=
      match rules.groups && !quoted, groupKind? c, rest with
      | true, some kind, ('(', false) :: inner =>
        (alternatives 0 [] inner).map fun (choices, rest) =>
          (group kind (choices.map (ofMarked rules fuel)), rest)
      | _, _, _ => none
    match grouped with
    | some (g, rest) => next g rest
    | none =>
      if quoted then next (literal c) rest
      else match c with
        | '*' => next many rest
        | '?' => next one rest
        | '[' => match set? rules rest with
          | some (g, rest) => next g rest
          | none => next (literal '[') rest
        | '\\' => match rest with
          | (d, _) :: rest => next (literal d) rest
          | [] => [literal '\\']
        | _ => next (literal c) rest

/-- The places that a step leads to, with those it starts from, each once. `seen` has a bit for each
place that has been reached. -/
def reached (step : Nat → List Nat) : Nat → Nat → List Nat → List Nat
  | 0, _, _ | _, _, [] => []
  | fuel + 1, seen, i :: rest =>
    if seen.testBit i then reached step fuel seen rest
    else i :: reached step fuel (seen ||| 1 <<< i) (step i ++ rest)

def ordered (places : List Nat) : List Nat :=
  (places.mergeSort fun a b => a ≤ b).eraseReps

def passes (anyCase : Bool) (text : Array Char) (test : Char → Bool) (i : Nat) : Bool :=
  match text[i]? with
  | some c => test c || (anyCase && (test (Letter.lower c) || test (Letter.upper c)))
  | none => false

/-- The places where elements can end that begin at one of several places, in rising order as these
are. The fuel has to cover the elements. -/
def stops (anyCase : Bool) (text : Array Char) : Nat → List Glob → List Nat → List Nat
  | 0, _, _ => []
  | _, [], places => places
  | fuel + 1, g :: rest, places =>
    let next (test : Char → Bool) : List Nat :=
      (places.filter (passes anyCase text test)).map (· + 1)
    let onward (i : Nat) : List Nat := List.range' i (text.size + 1 - i)
    let ends : List Nat := match g with
      | many => (places.head?.map onward).getD []
      | literal c => next (· == c)
      | one => next fun _ => true
      | oneOf negated test =>
        if negated then places.filterMap fun i =>
          if i < text.size && !passes anyCase text test i then some (i + 1) else none
        else next test
      | group kind choices =>
        let once (i : Nat) : List Nat := choices.flatMap fun a => stops anyCase text fuel a [i]
        let again (starts : List Nat) : List Nat :=
          reached once ((text.size + 2) * (text.size + 2) * (choices.length + 1)) 0 starts
        ordered <| match kind with
          | .optional => places ++ places.flatMap once
          | .once => places.flatMap once
          | .any => again places
          | .some => again (places.flatMap once)
          | .other => places.flatMap fun i =>
            let taken := once i
            (onward i).filter fun n => !taken.contains n
    if ends.isEmpty then [] else stops anyCase text fuel rest ends

mutual

/-- An element that fits the texts that this one fits, read backwards. -/
def mirrored : Glob → Glob
  | group kind choices => group kind (mirroredChoices choices)
  | g => g

def mirroredAll : List Glob → List Glob → List Glob
  | acc, [] => acc
  | acc, g :: rest => mirroredAll (mirrored g :: acc) rest

def mirroredChoices : List (List Glob) → List (List Glob)
  | [] => []
  | c :: rest => mirroredAll [] c :: mirroredChoices rest

end

end Glob

namespace Pattern

def characters (text : List Glob.Marked) : List Glob.Marked :=
  if text.all fun m => m.1.toNat < 0x80 then text
  else (text.splitBy fun a b => a.2 == b.2).flatMap fun run =>
    (Octets.characters (run.map Prod.fst)).map fun c => (c, (run.head?.map Prod.snd).getD false)

def ofMarked (rules : PatternRules) (text : List Glob.Marked) : Pattern :=
  let text := if rules.extended then characters text else text
  { elements := Glob.ofMarked rules (text.length + 1) text, size := text.length
    wide := rules.extended }

def view (p : Pattern) (text : Octets) : List Char :=
  if p.wide then text.characters else text

def textOf (p : Pattern) (seen : List Char) : Octets :=
  if p.wide then Octets.ofCharacters seen else seen

/-- The places where a pattern can end that begins at a place, in rising order. -/
def stops (p : Pattern) (seen : Array Char) (start : Nat) : List Nat :=
  Glob.stops p.anyCase seen (p.size + 2) p.elements [start]

def fits (p : Pattern) (text : Octets) : Bool :=
  let seen := (p.view text).toArray
  (p.stops seen 0).getLast? == some seen.size

def isWild (p : Pattern) : Bool :=
  p.elements.any fun
    | .literal _ => false
    | _ => true

def frontLength? (longest : Bool) (p : Pattern) (seen : List Char) : Option Nat :=
  let found := p.stops seen.toArray 0
  if longest then found.getLast? else found.head?

def backLength? (longest : Bool) (p : Pattern) (seen : List Char) : Option Nat :=
  let mirror : Pattern := { p with elements := Glob.mirroredAll [] p.elements }
  mirror.frontLength? longest seen.reverse

/-- A text taken apart into what a pattern fits at its front, if anything, and the rest. -/
def splitFront? (longest : Bool) (p : Pattern) (text : Octets) : Option (Octets × Octets) :=
  let seen := p.view text
  (p.frontLength? longest seen).map fun n => (p.textOf (seen.take n), p.textOf (seen.drop n))

/-- A text taken apart into the rest and what a pattern fits at its end, if anything. -/
def splitEnd? (longest : Bool) (p : Pattern) (text : Octets) : Option (Octets × Octets) :=
  let seen := p.view text
  (p.backLength? longest seen).map fun n =>
    (p.textOf (seen.take (seen.length - n)), p.textOf (seen.drop (seen.length - n)))

def trimFront (longest : Bool) (p : Pattern) (text : Octets) : Octets :=
  ((p.splitFront? longest text).map Prod.snd).getD text

def trimEnd (longest : Bool) (p : Pattern) (text : Octets) : Octets :=
  ((p.splitEnd? longest text).map Prod.fst).getD text

def replaceParts (p : Pattern) (every : Bool) (change : Octets → Octets) (text : Octets) :
    Octets :=
  let seen := p.view text
  let whole := seen.toArray
  let rec go : Nat → Nat → List Char → Octets
    | 0, _, rest => p.textOf rest
    | _, _, [] => []
    | fuel + 1, i, c :: rest =>
      match (p.stops whole i).getLast? with
      | some last =>
        if last ≤ i then p.textOf [c] ++ go fuel (i + 1) rest
        else
          let behind := (c :: rest).drop (last - i)
          change (p.textOf ((c :: rest).take (last - i))) ++
            if every then go fuel last behind else p.textOf behind
      | none => p.textOf [c] ++ go fuel (i + 1) rest
  go (seen.length + 1) 0 seen

end Pattern

end MediaPipeline.Shell
