import MediaPipeline.Process.Files
import MediaPipeline.Shell.Pattern
import MediaPipeline.Shell.Script

/-!
From a word whose parameters have been put in to the words of a command: braces are written out in
front, unquoted results are split into fields behind, and fields that are patterns stand for the
files that they fit.
-/

namespace MediaPipeline.Shell

/-! ### Pieces -/

inductive Piece where
  | char (c : Char) (quoted : Bool)
  | found (c : Char)
  /-- Quotes, which make a word even where nothing stands between them. -/
  | quotes
  | border

def valuePieces (quoted : Bool) (value : Octets) : List Piece :=
  if quoted then value.map fun c => .char c true else value.map .found

def marked (pieces : List Piece) : List Glob.Marked :=
  pieces.filterMap fun
    | .char c quoted => some (c, quoted)
    | .found c => some (c, false)
    | .border => some (' ', true)
    | .quotes => none

def plainText (pieces : List Piece) : Octets :=
  (marked pieces).map Prod.fst

/-- The pieces of a word that is taken for a value: outside of quotes they may be split. -/
def released (quoted : Bool) (pieces : List Piece) : List Piece :=
  if quoted then pieces
  else pieces.map fun
    | .char c false => .found c
    | p => p

/-! ### Splitting -/

structure Splitting where
  fields : List (List Glob.Marked)
  current : Option (List Glob.Marked)
  /-- White space has closed the last field, and a separator may still belong to it. -/
  spaced : Bool

namespace Splitting

def add (s : Splitting) (m : Glob.Marked) : Splitting :=
  { s with current := some (m :: s.current.getD []), spaced := false }

def close (s : Splitting) : Splitting :=
  match s.current with
  | some f => { s with fields := f.reverse :: s.fields, current := none }
  | none => s

/-- Splits at a separator: white space only closes a field, any other one ends one, even an empty
one. -/
def separate (s : Splitting) (c : Char) : Splitting :=
  if c == ' ' || c == '\t' || c == '\n' then
    { s.close with spaced := s.spaced || s.current.isSome }
  else if s.current.isNone && s.spaced then { s with spaced := false }
  else { ({ s with current := some (s.current.getD []) }).close with spaced := false }

def step (separators : Octets) (s : Splitting) : Piece → Splitting
  | .char c quoted => s.add (c, quoted)
  | .found c => if separators.contains c then s.separate c else s.add (c, false)
  | .quotes => { s with current := some (s.current.getD []), spaced := false }
  | .border => s.close

end Splitting

def fields (separators : Octets) (pieces : List Piece) : List (List Glob.Marked) :=
  (pieces.foldl (Splitting.step separators) ⟨[], none, false⟩).close.fields.reverse

/-! ### Files -/

def asksForDot (field : List Glob.Marked) : Bool :=
  match field with
  | ('\\', false) :: ('.', _) :: _ => true
  | (c, _) :: _ => c == '.'
  | [] => false

def unmarked : List Glob.Marked → Octets
  | ('\\', false) :: (c, _) :: rest => c :: unmarked rest
  | (c, _) :: rest => c :: unmarked rest
  | [] => []

structure FileRules where
  pattern : PatternRules
  anyCase : Bool := false
  /-- A name that begins with a dot is one like any other. -/
  hidden : Bool := false
  deep : Bool := false

def FileRules.names (rules : FileRules) (fs : Files) (directory : Octets) (asksForDot : Bool) :
    List Octets :=
  match fs.resolve (if directory.isEmpty then ['.'] else directory) true with
  | .ok (place, some .directory) =>
    let own := fs.namesIn place
    let names := if rules.pattern.extended then own else ['.'] :: ['.', '.'] :: own
    names.filter fun n => n.head? != some '.' || asksForDot || rules.hidden
  | _ => []

/-- The paths of all that lies in a directory, however deep, without following links. -/
def FileRules.below (rules : FileRules) (fs : Files) : Nat → Octets → List Octets
  | 0, _ => []
  | depth + 1, front =>
    (rules.names fs front false).flatMap fun n =>
      let path := front ++ n
      match fs.findLink path with
      | .ok .directory => path :: rules.below fs depth (path ++ ['/'])
      | _ => [path]

def depthBound : Nat := 200

/-- The paths that the parts of a pattern fit, each behind what stands in front of them. -/
def pathsOf (fs : Files) (rules : FileRules) : Octets → List (List Glob.Marked) → List Octets
  | done, [] => [done]
  | done, part :: rest =>
    let pattern := { Pattern.ofMarked rules.pattern part with anyCase := rules.anyCase }
    if rules.deep && part == [('*', false), ('*', false)] then
      let all := rules.below fs depthBound done
      if rest.isEmpty then (if done.isEmpty then [] else [done]) ++ all
      else
        let directories := all.filter fun p => match fs.findLink p with
          | .ok .directory => true
          | _ => false
        (done :: directories.map fun p => p ++ ['/']).flatMap fun p => pathsOf fs rules p rest
    else if !pattern.isWild then
      let next := done ++ unmarked part
      if rest.isEmpty then if (fs.findLink next).isOk then [next] else []
      else pathsOf fs rules (next ++ ['/']) rest
    else
      ((rules.names fs done (asksForDot part)).filter pattern.fits).flatMap fun n =>
        if rest.isEmpty then [done ++ n]
        else if fs.isDirectory (done ++ n) then pathsOf fs rules (done ++ n ++ ['/']) rest
        else []

def pathParts (field : List Glob.Marked) : List (List Glob.Marked) :=
  field.foldr (fun m parts =>
    if m.1 == '/' then [] :: parts
    else match parts with
      | [] => [[m]]
      | part :: rest => (m :: part) :: rest) [[]]

def filesOf (fs : Files) (rules : FileRules) (field : List Glob.Marked) : Option (List Octets) :=
  if !(Pattern.ofMarked rules.pattern field).isWild then none
  else
    let found := pathsOf fs rules [] (pathParts field)
    if found.isEmpty then none else some (found.mergeSort Files.inOrder).eraseReps

/-! ### Braces -/

def bareText? (w : Word) : Option Octets :=
  Word.bare? w

/-- The inside of braces up to the closing one, apart at its commas, and what follows. -/
def braceParts : Nat → Word → List Word → Word → Option (List Word × Word)
  | _, _, _, [] => none
  | depth, current, done, a :: rest =>
    let keep (depth : Nat) := braceParts depth (a :: current) done rest
    match a, depth with
    | .char '\x7b' false, depth => keep (depth + 1)
    | .char '\x7d' false, 0 => some ((current.reverse :: done).reverse, rest)
    | .char '\x7d' false, depth + 1 => keep depth
    | .char ',' false, 0 => braceParts 0 [] (current.reverse :: done) rest
    | _, depth => keep depth

def integer? (text : Octets) : Option Int :=
  let (negative, digits) := match text with
    | '-' :: ds => (true, ds)
    | '+' :: ds => (false, ds)
    | ds => (false, ds)
  if digits.isEmpty || !digits.all Char.isDigit then none
  else
    let n : Nat := digits.foldl (fun n c => 10 * n + (c.toNat - 48)) 0
    some (if negative then -(n : Int) else n)

def countedTo (first last step : Int) : List Int :=
  let size := (last - first).natAbs
  let step := if step = 0 then 1 else step.natAbs
  (List.range (size / step + 1)).map fun (n : Nat) =>
    if first ≤ last then first + (n * step : Nat) else first - (n * step : Nat)

def paddedInt (width : Nat) (n : Int) : Octets :=
  let digits := Nat.toDigits 10 n.natAbs
  let sign := if n < 0 then ['-'] else []
  sign ++ List.replicate (width - sign.length - digits.length) '0' ++ digits

def sequence? (text : Octets) : Option (List Octets) :=
  let rec parts : Octets → Octets → List Octets
    | acc, '.' :: '.' :: rest => acc.reverse :: parts [] rest
    | acc, c :: rest => parts (c :: acc) rest
    | acc, [] => [acc.reverse]
  let build (first last : Octets) (step : Int) : Option (List Octets) :=
    match integer? first, integer? last, first, last with
    | some a, some b, _, _ =>
      let padded (t : Octets) : Bool := match t.dropWhile (fun c => c == '-' || c == '+') with
        | '0' :: _ :: _ => true
        | _ => false
      let width := if padded first || padded last then max first.length last.length else 0
      some ((countedTo a b step).map (paddedInt width))
    | none, none, [a], [b] =>
      if a.isAlpha && b.isAlpha then
        some ((countedTo a.toNat b.toNat step).map fun n => [Char.ofNat n.toNat])
      else none
    | _, _, _, _ => none
  match parts [] text with
  | [first, last] => build first last 1
  | [first, last, step] => (integer? step).bind (build first last)
  | _ => none

def writeBraces : Nat → Word → List Word
  | 0, w => [w]
  | _, [] => [[]]
  | fuel + 1, a :: rest =>
    let kept : List Word := (writeBraces fuel rest).map fun w => a :: w
    match a with
    | .char '\x7b' false =>
      match braceParts 0 [] [] rest with
      | some ([inside], behind) =>
        match (bareText? inside).bind sequence? with
        | some texts =>
          let ends := writeBraces fuel behind
          texts.flatMap fun t => ends.map fun w =>
            (if t == ['\\'] then [.quotes] else Word.ofOctets t true) ++ w
        | none => kept
      | some (choices, behind) =>
        let ends := writeBraces fuel behind
        choices.flatMap fun c => (writeBraces fuel c).flatMap fun c => ends.map fun w => c ++ w
      | none => kept
    | _ => kept

def braceWords (w : Word) : List Word :=
  match writeBraces (w.length + 1) w with
  | [w] => [w]
  | ws => ws.filter fun w => !w.isEmpty

end MediaPipeline.Shell
