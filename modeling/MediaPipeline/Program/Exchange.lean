import MediaPipeline.Program.Invocation
import MediaPipeline.Shell.Pattern

/-!
Exchanging, deleting and squeezing characters. Two sets are given by texts with ranges, classes and
repetitions in them; the first is mapped to the second in order.
-/

namespace MediaPipeline.Program.Exchange

open Shell (Quoting.plain octetClass? octetRange allOctets)
open ProgramOption (flag)

/-! ### Sets -/

inductive Part where
  | char (c : Char)
  | range (first last : Char)
  | group (name : String)
  | equal (c : Char)
  | again (c : Char) (count : Option Nat)

def unquoted : Nat → Octets → List (Char × Bool) × List Octets
  | 0, _ | _, [] => ([], [])
  | fuel + 1, '\\' :: rest =>
    let next (c : Char) (rest : Octets) : List (Char × Bool) × List Octets :=
      let (more, notes) := unquoted fuel rest
      ((c, true) :: more, notes)
    match rest with
    | [] =>
      ([('\\', false)],
        ["warning: an unescaped backslash at end of string is not portable".toList])
    | c :: behind =>
      let digit (c : Char) : Bool := '0' ≤ c && c ≤ '7'
      let digits := (rest.take 3).takeWhile digit
      if !digits.isEmpty then
        let n := digits.foldl (fun n c => 8 * n + (c.toNat - 48)) 0
        if n < 256 then next (Char.ofNat n) (rest.drop digits.length)
        else
          let short := (digits.take 2).foldl (fun n c => 8 * n + (c.toNat - 48)) 0
          let (more, notes) := next (Char.ofNat short) (rest.drop 2)
          let two := String.ofList (digits.take 2)
          let third := String.ofList (digits.drop 2)
          (more, ("warning: the ambiguous octal escape \\" ++ two ++ third ++
            " is being\n\tinterpreted as the 2-byte sequence \\0" ++ two ++ ", " ++ third).toList ::
            notes)
      else match c with
        | 'a' => next '\x07' behind
        | 'b' => next '\x08' behind
        | 'f' => next '\x0c' behind
        | 'n' => next '\n' behind
        | 'r' => next '\r' behind
        | 't' => next '\t' behind
        | 'v' => next '\x0b' behind
        | c => next c behind
  | fuel + 1, c :: rest =>
    let (more, notes) := unquoted fuel rest
    ((c, false) :: more, notes)

def delimited (mark : Char) : List (Char × Bool) → Option (Octets × List (Char × Bool))
  | (c, quoted) :: (d, also) :: rest =>
    if c == mark && d == ']' && !quoted && !also then some ([], rest)
    else (delimited mark ((d, also) :: rest)).map fun (text, rest) => (c :: text, rest)
  | _ => none

/-- What a repetition in brackets says: the digits behind its star, and what follows. -/
def repetition : List (Char × Bool) → Option (Octets × List (Char × Bool))
  | (c, quoted) :: rest =>
    if quoted then none
    else if c == ']' then some ([], rest)
    else (repetition rest).map fun (text, rest) => (c :: text, rest)
  | [] => none

def shown (c : Char) : Octets :=
  if Shell.Quoting.isPrintable c then [c] else Shell.Quoting.octal c

/-- Whether the characters behind a star up to a bracket are a count. -/
def isCount (text : Octets) : Bool :=
  text.all Char.isDigit

def parts : Nat → List (Char × Bool) → Except Octets (List Part)
  | 0, _ | _, [] => .ok []
  | fuel + 1, (c, quoted) :: rest => do
    let plain : Except Octets (List Part) :=
      match rest with
      | ('-', false) :: (d, _) :: behind => do
        if d < c then
          throw ("range-endpoints of '".toList ++ shown c ++ '-' :: shown d ++
            "' are in reverse collating sequence order".toList)
        return .range c d :: (← parts fuel behind)
      | _ => return .char c :: (← parts fuel rest)
    let named (mark : Char) (behind : List (Char × Bool)) : Except Octets (Option (List Part)) :=
      match delimited mark behind with
      | none => .ok none
      | some (text, rest) =>
        let isRepetition : Bool := match behind with
          | ('*', false) :: more => (repetition more).any fun r => isCount r.1
          | _ => false
        if mark == ':' then
          if text.isEmpty then .error "missing character class name '[::]'".toList
          else match octetClass? (String.ofList text) with
            | some _ => do return some (.group (String.ofList text) :: (← parts fuel rest))
            | none =>
              if isRepetition then .ok none
              else .error ("invalid character class ".toList ++ Quoting.plain text)
        else match text with
          | [] => .error "missing equivalence class character '[==]'".toList
          | [e] => do return some (.equal e :: (← parts fuel rest))
          | text =>
            if isRepetition then .ok none
            else .error (text ++ ": equivalence class operand must be a single character".toList)
    let found : Option (List Part) ← if c != '[' || quoted then pure none else
      match rest with
      | (':', false) :: behind => named ':' behind
      | ('=', false) :: behind => named '=' behind
      | _ => pure none
    match found with
    | some ps => pure ps
    | none =>
      match c, quoted, rest with
      | '[', false, (d, _) :: ('*', false) :: behind =>
        match repetition behind with
        | some (digits, rest) =>
          if !isCount digits then
            throw ("invalid repeat count ".toList ++ Quoting.plain digits ++
              " in [c*n] construct".toList)
          else
            let base := if digits.head? == some '0' then 8 else 10
            let n := digits.foldl (fun n c => base * n + (c.toNat - 48)) 0
            return .again d (if n = 0 then none else some n) :: (← parts fuel rest)
        | none => plain
      | _, _, _ => plain

namespace Part

def isEndless : Part → Bool
  | again _ none => true
  | _ => false

def isCase : Part → Bool
  | group name => name == "upper" || name == "lower"
  | _ => false

def isGroup : Part → Bool
  | group _ => true
  | _ => false

def isEqual : Part → Bool
  | equal _ => true
  | _ => false

def members (room : Nat) : Part → Octets
  | char c | equal c => [c]
  | range a b => octetRange a b
  | group name => (octetClass? name).getD []
  | again c count => List.replicate (count.getD room) c

end Part

/-- The characters of a set, filled up to a length where a repetition allows it. -/
def members (wanted : Nat) (ps : List Part) : Octets :=
  let own := (ps.flatMap (Part.members 0)).length
  ps.flatMap (Part.members (wanted - own))

/-- Whether each class of letters of one case in the second set stands where one begins in the
first. -/
def aligned : Nat → List Part → List Part → Bool
  | 0, _, _ => true
  | _, [], second => !second.any Part.isCase
  | _, _, [] => true
  | fuel + 1, a :: first, b :: second =>
    if b.isCase then a.isCase && aligned fuel first second
    else
      let x := (a.members 0).length
      let y := (b.members 0).length
      let rest (p : Part) (n : Nat) (ps : List Part) : List Part :=
        (p.members 0).drop n |>.foldr (fun c ps => .char c :: ps) ps
      aligned fuel (rest a (min x y) first) (rest b (min x y) second)

/-! ### The program -/

def squeeze (members : Octets) : Octets → Octets
  | a :: b :: rest =>
    if a == b && members.contains a then squeeze members (b :: rest)
    else a :: squeeze members (b :: rest)
  | text => text

def fault? (translates complements : Bool) (cut : Bool) (first second : List Part)
    (hasSecond : Bool) : Option String :=
  let length (ps : List Part) : Nat := (ps.flatMap (Part.members 0)).length
  if first.any Part.isEndless then
    some "the [c*] repeat construct may not appear in string1"
  else if !hasSecond then none
  else if 1 < (second.filter Part.isEndless).length then
    some "only one [c*] repeat construct may appear in string2"
  else if translates then
    if second.any Part.isEqual then
      some "[=c=] expressions may not appear in string2 when translating"
    else if second.any fun p => p.isGroup && !p.isCase then
      some ("when translating, the only character classes that may appear in\n" ++
        "string2 are 'upper' and 'lower'")
    else if !complements && second.any Part.isGroup && !aligned 2000 first second then
      some "misaligned [:upper:] and/or [:lower:] construct"
    else if length first > length second && !cut && second.isEmpty then
      some "when not truncating set1, string2 must be non-empty"
    else if (complements || length first > length second) && !cut &&
        (second.getLast?.any Part.isGroup) then
      some ("when translating with string1 longer than string2,\n" ++
        "the latter string must not end with a character class")
    else none
  else if second.any Part.isEndless then
    some "the [c*] construct may appear in string2 only when translating"
  else none

/-- The map from each character of the first set to its place in the second; a later mention
counts. -/
def mapping (first second : Octets) : List (Char × Char) :=
  let last := second.getLast?.getD ' '
  (first.zipIdx.map fun (c, n) => (c, second[n]?.getD last)).reverse

def tr (i : Invocation) : Outcome :=
  let known := [flag 'c' "complement", ⟨some 'C', none, .none⟩, flag 'd' "delete",
    flag 's' "squeeze-repeats", flag 't' "truncate-set1"]
  match Arguments.ofList known true i.arguments with
  | .error text => i.misuse 1 text
  | .ok a =>
    let deletes := a.has "d"
    let squeezes := a.has "s"
    let complements := a.has "c" || a.has "C"
    let least := if deletes == squeezes then 2 else 1
    let most := if deletes && !squeezes then 1 else 2
    let given := a.operands.length
    let refuse (text : Octets) (why : String) : Outcome :=
      { err := i.complaint text ++ (if why.isEmpty then [] else why.toList ++ ['\n']) ++ i.hint
        status := 1 }
    if given = 0 then refuse "missing operand".toList ""
    else if given < least then
      refuse ("missing operand after ".toList ++ Quoting.plain (a.operands.getLast?.getD []))
        (if squeezes then "Two strings must be given when both deleting and squeezing repeats."
        else "Two strings must be given when translating.")
    else if most < given then
      refuse ("extra operand ".toList ++ Quoting.plain (a.operands[most]?.getD []))
        (if given = 2 then
          "Only one string may be given when deleting without squeezing repeats." else "")
    else
      let texts := a.operands.map fun t => unquoted (t.length + 1) t
      let notes := (texts.flatMap Prod.snd).flatMap i.complaint
      match (texts.map Prod.fst).mapM fun t => parts (t.length + 1) t with
      | .error text => { err := notes ++ i.complaint text, status := 1 }
      | .ok sets =>
        let first := sets.head?.getD []
        let second := (sets.drop 1).head?.getD []
        let translates := !deletes && given = 2
        match fault? translates complements (a.has "t") first second (given = 2) with
        | some text => { err := notes ++ i.complaint text.toList, status := 1 }
        | none =>
          let plain := members 0 first
          let plain :=
            if complements then allOctets.filter fun c => !plain.contains c else plain
          let other := members plain.length second
          if translates && complements && first.any Part.isGroup &&
              (other.getLast?.any fun c => other.any (· != c)) then
            i.fail 1 ("when translating with complemented character classes,\n" ++
              "string2 must map all characters in the domain to one").toList
          else
            let plain := if a.has "t" then plain.take other.length else plain
            let table := (mapping plain other).toArray
            let change (c : Char) : Char := ((table.find? (·.1 == c)).map Prod.snd).getD c
            let changes := (allOctets.map change).toArray
            match i.input with
            | .error e => i.fail 1 ("read error: ".toList ++ e.toList)
            | .ok text =>
              let out :=
                if translates then
                  let out := text.map fun c => changes[c.toNat]?.getD c
                  if squeezes then squeeze other out else out
                else if deletes then
                  let left := text.filter fun c => !plain.contains c
                  if squeezes then squeeze other left else left
                else squeeze plain text
              { out, err := notes, consumed := some text.length }

end MediaPipeline.Program.Exchange
