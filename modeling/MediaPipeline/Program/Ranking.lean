import MediaPipeline.Program.Lines
import MediaPipeline.Shell.Real

/-!
Orders on the texts that sorting compares: by bytes, by numbers of several forms, by the names of
months, and by versions, in which runs of digits count as numbers.
-/

namespace MediaPipeline.Program

def compareTexts (a b : Octets) : Ordering :=
  compareOfLessAndEq a b

/-! ### Numbers -/

def scaledNumber (text : Octets) : Int :=
  let body := text.dropWhile fun c => c == ' ' || c == '\t' || c == '\n'
  let (negative, body) := match body with
    | '-' :: rest => (true, rest)
    | rest => (false, rest)
  let whole := body.takeWhile Char.isDigit
  let fraction := match body.drop whole.length with
    | '.' :: rest => (rest.takeWhile Char.isDigit).take 20
    | _ => []
  let n := natural (whole ++ fraction ++ List.replicate (20 - fraction.length) '0')
  if negative then -(n : Int) else n

def humanRank (text : Octets) : Int :=
  let body := text.dropWhile fun c => c == ' ' || c == '\t' || c == '\n'
  let negative := body.head? == some '-'
  let body := if negative then body.tail else body
  let digits := body.takeWhile fun c => c.isDigit || c == '.'
  let letters := "KMGTPEZY".toList
  let rank : Nat := match body.drop digits.length with
    | 'k' :: _ => 1
    | c :: _ => (letters.idxOf? c).elim 0 (· + 1)
    | [] => 0
  if !digits.any fun c => '1' ≤ c && c ≤ '9' then 0
  else if negative then -(rank : Int) else rank

/-- The number that a text begins with, whatever its form: its class, where texts without a number
come first and those that are none second, and its value. -/
def generalNumber (text : Octets) : Nat × Option Shell.Real :=
  match Shell.Real.take? .long text with
  | none => (0, none)
  | some (r, _) => match r.magnitude with
    | .notANumber => (1, none)
    | _ => (2, some r)

def wholeMultiple (m : Nat) (q : Int) : Nat :=
  m * Nat.pow 2 (q + 16500).toNat

def compareReals (a b : Shell.Real) : Ordering :=
  let value (r : Shell.Real) : Int × Int :=
    let sign : Int := if r.negative then -1 else 1
    match r.magnitude with
    | .finite m q => (0, sign * wholeMultiple m q)
    | .infinite | .notANumber => (sign, 0)
  let (x, y) := (value a, value b)
  (compare x.1 y.1).then (compare x.2 y.2)

def compareGeneral (a b : Octets) : Ordering :=
  let (x, y) := (generalNumber a, generalNumber b)
  (compare x.1 y.1).then (match x.2, y.2 with
    | some p, some q => compareReals p q
    | _, _ => .eq)

/-! ### Months -/

def monthNumber (text : Octets) : Nat :=
  let name := String.ofList (((text.dropWhile fun c => c == ' ' || c == '\t').take 3).map
    Char.toUpper)
  let months := ["JAN", "FEB", "MAR", "APR", "MAY", "JUN", "JUL", "AUG", "SEP", "OCT", "NOV", "DEC"]
  (months.idxOf? name).elim 0 (· + 1)

/-! ### Versions -/

/-- Compares texts in which runs of digits count as numbers; a tilde comes before the end of a text,
and letters before other signs. -/
def compareRuns : Nat → Octets → Octets → Ordering
  | 0, _, _ => .eq
  | fuel + 1, a, b =>
    let weight : Octets → Int
      | [] => -1
      | c :: _ => if c.isDigit then 0 else if c.isAlpha then c.toNat
        else if c == '~' then -2 else c.toNat + 256
    let isOther (t : Octets) : Bool := t.head?.any fun c => !c.isDigit
    if a.isEmpty && b.isEmpty then .eq
    else if isOther a || isOther b then
      match compare (weight a) (weight b) with
      | .eq => compareRuns fuel a.tail b.tail
      | o => o
    else
      let x := a.takeWhile Char.isDigit
      let y := b.takeWhile Char.isDigit
      match compare (natural x) (natural y) with
      | .eq => compareRuns fuel (a.drop x.length) (b.drop y.length)
      | o => o

def withoutEndings (text : Octets) : Octets :=
  let isPart (c : Char) : Bool := c.isAlphanum || c == '~'
  let isEnding (part : Octets) : Bool :=
    part.head?.any (fun c => c.isAlpha || c == '~') && part.all isPart
  let parts := text.splitOn '.'
  let endings := (parts.tail.reverse.takeWhile isEnding).length
  List.intercalate ['.'] (parts.take (parts.length - endings))

/-- Compares texts as versions. Those that begin with a point come first, and endings count only where
the rest is the same. -/
def compareVersions (a b : Octets) : Ordering :=
  let kind (t : Octets) : Nat :=
    if t.isEmpty then 0 else if t == ['.'] then 1 else if t == ['.', '.'] then 2
    else if t.head? == some '.' then 3 else 4
  let fuel := a.length + b.length + 2
  (compare (kind a) (kind b)).then
    ((compareRuns fuel (withoutEndings a) (withoutEndings b)).then (compareRuns fuel a b))

end MediaPipeline.Program
