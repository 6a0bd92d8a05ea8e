import MediaPipeline.Shell.Pattern

/-!
Regular expressions, basic and extended ones. Of the matches that begin first the longest is taken.
-/

namespace MediaPipeline.Shell

inductive Regex where
  | empty
  | one (test : Char → Bool)
  | other (test : Char → Bool)
  | lineStart
  | lineEnd
  | textStart
  | textEnd
  /-- Between a word character and another one; with `start` or `finish` only at that end. -/
  | wordEdge (start finish : Bool)
  | noWordEdge
  | seq (a b : Regex)
  | alt (a b : Regex)
  | star (a : Regex)
  | group (n : Nat) (a : Regex)
  | back (n : Nat)

/-- Why a regular expression cannot be read. -/
inductive RegexFault where
  | unmatchedBracket
  | unmatchedParen
  | unmatchedClose
  | unmatchedBrace
  | badRepeat
  | badCount
  | badBackReference
  | badClass
  | trailingBackslash
  | badRangeEnd
  | badCollation
  | tooBig
  | invalid
  | misplacedClass
  | noOperand
  deriving DecidableEq

def RegexFault.message : RegexFault → String
  | unmatchedBracket => "Unmatched [, [^, [:, [., or [="
  | unmatchedParen => "Unmatched ( or \\("
  | unmatchedClose => "Unmatched ) or \\)"
  | unmatchedBrace => "Unmatched \\\x7b"
  | badRepeat => "Invalid preceding regular expression"
  | badCount => "Invalid content of \\\x7b\\\x7d"
  | badBackReference => "Invalid back reference"
  | badClass => "Invalid character class name"
  | trailingBackslash => "Trailing backslash"
  | badRangeEnd => "Invalid range end"
  | badCollation => "Invalid collation character"
  | tooBig => "Regular expression too big"
  | invalid => "Invalid regular expression"
  | misplacedClass => "character class syntax is [[:space:]], not [:space:]"
  | noOperand => "Invalid regular expression"

namespace Regex

/-! ### Matching -/

def isWordChar (c : Char) : Bool :=
  Letter.isAlphanum c || c == '_'

structure Place where
  position : Nat
  groups : List (Nat × Nat × Nat)

structure Matching where
  text : Array Char
  notStart : Bool := false
  anyCase : Bool := false
  lines : Bool := false

/-- Leaves the first of several places with one position. `seen` has a bit for each position that has
been met. -/
def distinct : Nat → List Place → List Place
  | _, [] => []
  | seen, p :: rest =>
    if seen.testBit p.position then distinct seen rest
    else p :: distinct (seen ||| 1 <<< p.position) rest

def isWordAt (m : Matching) (i : Nat) : Bool :=
  (m.text[i]?).any isWordChar

def repeats (m : Matching) (first length position : Nat) : Bool :=
  (List.range length).all fun i =>
    match m.text[first + i]?, m.text[position + i]? with
    | some a, some b => a == b || (m.anyCase && Letter.lower a == Letter.lower b)
    | _, _ => false

/-- All places reached by repeating a step, each position once, farther ones in front. -/
def closure (step : Place → List Place) : Nat → Nat → List Place → List Place → List Place
  | 0, _, _, reached => reached
  | _, _, [], reached => reached
  | fuel + 1, seen, p :: rest, reached =>
    if seen.testBit p.position then closure step fuel seen rest reached
    else closure step fuel (seen ||| 1 <<< p.position) (step p ++ rest) (p :: reached)

def accepts (m : Matching) (test : Char → Bool) (c : Char) : Bool :=
  test c || (m.anyCase && (test (Letter.lower c) || test (Letter.upper c)))

def places (m : Matching) : Regex → Place → List Place
  | empty, p => [p]
  | one test, p =>
    match m.text[p.position]? with
    | some c => if accepts m test c then [{ p with position := p.position + 1 }] else []
    | none => []
  | other test, p =>
    match m.text[p.position]? with
    | some c =>
      if accepts m test c || Octets.isStray c then [] else [{ p with position := p.position + 1 }]
    | none => []
  | lineStart, p =>
    let first := p.position = 0 && !m.notStart
    let behind := m.lines && p.position != 0 && m.text[p.position - 1]? == some '\n'
    if first || behind then [p] else []
  | lineEnd, p =>
    if p.position = m.text.size || (m.lines && m.text[p.position]? == some '\n') then [p] else []
  | textStart, p => if p.position = 0 then [p] else []
  | textEnd, p => if p.position = m.text.size then [p] else []
  | wordEdge start finish, p =>
    let before := p.position != 0 && isWordAt m (p.position - 1)
    let behind := isWordAt m p.position
    if (start && !before && behind) || (finish && before && !behind) then [p] else []
  | noWordEdge, p =>
    let before := p.position != 0 && isWordAt m (p.position - 1)
    if before == isWordAt m p.position then [p] else []
  | seq a b, p => distinct 0 ((places m a p).flatMap (places m b))
  | alt a b, p => distinct 0 (places m a p ++ places m b p)
  | star a, p => closure (places m a) ((m.text.size + 2) * (m.text.size + 2)) 0 [p] []
  | group n a, p =>
    (places m a p).map fun q =>
      { q with groups := (n, p.position, q.position) :: q.groups.filter (·.1 != n) }
  | back n, p =>
    match p.groups.lookup n with
    | some (first, last) =>
      if repeats m first (last - first) p.position then
        [{ p with position := p.position + (last - first) }]
      else []
    | none => []

def matchAt? (r : Regex) (m : Matching) (position : Nat) : Option Place :=
  (places m r ⟨position, []⟩).foldl (fun best p =>
    match best with
    | none => some p
    | some b => if b.position < p.position then some p else best) none

def find? (r : Regex) (m : Matching) (start : Nat) : Option (Nat × Place) :=
  (List.range (m.text.size + 1 - start)).findSome? fun i =>
    (r.matchAt? m (start + i)).map fun p => (start + i, p)

def isIn (r : Regex) (anyCase : Bool) (text : Octets) : Bool :=
  (r.find? { text := text.toArray, anyCase } 0).isSome

end Regex

/-! ### Reading -/

inductive LeadingRepeat where
  | refused
  | skipped
  | literal
  deriving DecidableEq

structure RegexRules where
  extended : Bool
  /-- A backslash in brackets introduces control characters. -/
  escapes : Bool := false
  leading : LeadingRepeat := if extended then .refused else .literal
  leadingBounds : LeadingRepeat := leading
  once : Bool := false
  looseClose : Bool := extended
  looseBounds : Bool := false
  /-- A set that looks like the name of a class is refused. -/
  strictClasses : Bool := false
  looseRanges : Bool := false
  /-- A backslash makes any character plain, in brackets too, but for letters and octal numbers of
  control characters. -/
  plainly : Bool := false
  filled : Bool := false
  bytes : Bool := false
  unbounded : Bool := false

structure RegexSource where
  rest : Octets
  groups : Nat := 0
  closed : List Nat := []

abbrev RegexReader := ExceptT RegexFault (StateM RegexSource)

namespace RegexReader

inductive SetPart where
  | char (c : Char)
  | members (test : Char → Bool)

def upToClosing (sign : Char) : Octets → Octets → Option (Octets × Octets)
  | _, [] => none
  | acc, c :: rest =>
    if c == sign && rest.head? == some ']' then some (acc, rest.tail)
    else upToClosing sign (acc ++ [c]) rest

def controlLetter? : Char → Option Char
  | 'a' => some '\x07'
  | 'b' => some '\x08'
  | 'f' => some '\x0c'
  | 'n' => some '\n'
  | 'r' => some '\r'
  | 't' => some '\t'
  | 'v' => some '\x0b'
  | _ => none

def plainEscape : Octets → Char × Octets
  | [] => ('\\', [])
  | c :: rest =>
    let digits := ((c :: rest).take 3).takeWhile fun d => '0' ≤ d && d ≤ '7'
    let isHex (d : Char) : Bool :=
      d.isDigit || ('a' ≤ d && d ≤ 'f') || ('A' ≤ d && d ≤ 'F')
    let hex := (rest.take 2).takeWhile isHex
    if c == 'x' && !hex.isEmpty then
      let n := hex.foldl (fun n d =>
        16 * n + (if d.isDigit then d.toNat - 48 else d.toLower.toNat - 87)) 0
      (Char.ofNat n, rest.drop hex.length)
    else if digits.isEmpty then ((controlLetter? c).getD c, rest)
    else
      let n := digits.foldl (fun n d => 8 * n + (d.toNat - 48)) 0
      (Char.ofNat (n % 256), (c :: rest).drop digits.length)

def setPart (rules : RegexRules) (hyphen : Bool) (text : Octets) :
    Except RegexFault (SetPart × Octets) :=
  let escapes := rules.escapes
  match text with
  | [] => .error .unmatchedBracket
  | '\\' :: rest =>
    if rules.plainly then
      let (c, rest) := plainEscape rest
      .ok (.char c, rest)
    else match rest with
      | 'n' :: behind => if escapes then .ok (.char '\n', behind) else .ok (.char '\\', rest)
      | 't' :: behind => if escapes then .ok (.char '\t', behind) else .ok (.char '\\', rest)
      | _ => .ok (.char '\\', rest)
  | '[' :: ':' :: rest =>
    match upToClosing ':' [] rest with
    | none => .error .unmatchedBracket
    | some (name, rest) =>
      match Letter.class? (String.ofList name) with
      | some test => .ok (.members fun c => test c && !(rules.bytes && 127 < c.toNat), rest)
      | none => .error .badClass
  | '[' :: '.' :: rest =>
    if rules.plainly then .ok (.char '[', '.' :: rest)
    else match upToClosing '.' [] rest with
      | some ([c], rest) => .ok (.char c, rest)
      | some _ => .error .badCollation
      | none => .error .unmatchedBracket
  | '[' :: '=' :: rest =>
    if rules.plainly then .ok (.char '[', '=' :: rest)
    else match upToClosing '=' [] rest with
      | some ([c], rest) => .ok (.members (· == c), rest)
      | some _ => .error .badCollation
      | none => .error .unmatchedBracket
  | '-' :: rest =>
    if hyphen || rules.plainly || rest.head? == some ']' then .ok (.char '-', rest)
    else .error .badRangeEnd
  | c :: rest => .ok (.char c, rest)

def setMembers (rules : RegexRules) :
    Nat → Bool → (Char → Bool) → Octets → Except RegexFault ((Char → Bool) × Octets)
  | 0, _, _, _ => .error .unmatchedBracket
  | fuel + 1, first, acc, text =>
    if text.head? == some ']' && !first then .ok (acc, text.tail)
    else match setPart rules first text with
      | .error f => .error f
      | .ok (part, rest) =>
        let isRange := match rest with
          | '-' :: ']' :: _ => false
          | '-' :: _ => true
          | _ => false
        if !isRange then
          let members : Char → Bool := match part with
            | .char c => (· == c)
            | .members test => test
          setMembers rules fuel false (fun c => members c || acc c) rest
        else match part, setPart rules true rest.tail with
          | _, .error f => .error f
          | .char a, .ok (.char b, rest) =>
            if !rules.bytes && 0x80 ≤ max a.toNat b.toNat then .error .badCollation
            else if b < a && !rules.looseRanges then .error .badRangeEnd
            else setMembers rules fuel false (fun c => (a ≤ c && c ≤ b) || acc c) rest
          | _, .ok _ => .error .badRangeEnd

/-- A set in brackets, from behind its opening one. A closing bracket at once is a member. -/
def set (rules : RegexRules) (text : Octets) : Except RegexFault (Regex × Octets) := do
  let (negated, text) := match text with
    | '^' :: rest => (true, rest)
    | rest => (false, rest)
  if text.isEmpty then throw .invalid
  let (test, rest) ← setMembers rules (text.length + 1) true (fun _ => false) text
  let inner := (text.take (text.length - rest.length)).dropLast
  if rules.strictClasses && inner.head? == some ':' && inner.getLast? == some ':' &&
      inner.any (fun c => c != ':') && !(inner.contains '[') && !((inner.drop 1).contains '-') then
    throw .misplacedClass
  pure (if negated then .other test else .one fun c => test c && !Octets.isStray c, rest)

def counted (r : Regex) (low : Nat) : Option Nat → Regex
  | none => (List.replicate low r).foldr .seq (.star r)
  | some high =>
    let optional := (List.range (high - low)).foldl (fun later _ => .alt (.seq r later) .empty)
      Regex.empty
    (List.replicate low r).foldr .seq optional

def afterBounds? (rules : RegexRules) (text : Octets) : Option Octets :=
  match rules.extended, text with
  | true, '\x7d' :: rest | false, '\\' :: '\x7d' :: rest => some rest
  | _, _ => none

/-- One bound of a repetition, which may be missing. It ends at a comma or at the closing sign; `none`
says that it does not. -/
def bound? (rules : RegexRules) (text : Octets) : Option (Option Nat × Octets) :=
  let digits := text.takeWhile Char.isDigit
  let rest := text.drop digits.length
  let n := if digits.isEmpty then none
    else some (digits.foldl (fun n c => min 32768 (10 * n + (c.toNat - 48))) 0)
  if rest.head? == some ',' || (afterBounds? rules rest).isSome then some (n, rest) else none

inductive Bounds where
  | between (low : Nat) (high : Option Nat) (rest : Octets)
  | unread
  | fault (f : RegexFault)

def bounds (rules : RegexRules) (text : Octets) : Bounds :=
  let finish (low : Nat) (high : Option Nat) (rest : Octets) : Bounds :=
    match afterBounds? rules rest with
    | none => .fault .badCount
    | some rest =>
      if high.any fun h => h < low then .fault .badCount
      else if 32767 < high.getD low then .fault .tooBig
      else .between low high rest
  match bound? rules text with
  | none => .unread
  | some (low, ',' :: rest) =>
    match bound? rules rest with
    | none => .unread
    | some (high, rest) => finish (low.getD 0) high rest
  | some (some low, rest) => finish low (some low) rest
  | some (none, _) => .fault .badCount

/-- The text behind a part of bounds that is no number: from a comma or the closing sign on. -/
def afterPart (rules : RegexRules) : Octets → Octets
  | [] => []
  | '\\' :: c :: rest =>
    if !rules.extended && c == '\x7d' then '\\' :: c :: rest else afterPart rules rest
  | c :: rest =>
    if c == ',' || (rules.extended && c == '\x7d') then c :: rest else afterPart rules rest

def endsEarly (rules : RegexRules) (text : Octets) : Bool :=
  match bound? rules text with
  | some (_, ',' :: rest) => (afterPart rules rest).isEmpty
  | _ => (afterPart rules text).isEmpty

/-- The sign that comes next, taken apart from its backslash. -/
def sign? (rules : RegexRules) (text : Octets) : Option (Char × Octets) :=
  let isSign (c : Char) : Bool :=
    "()|+?".toList.contains c || (c == '\x7b' && !rules.unbounded)
  match rules.extended, text with
  | true, c :: rest => if isSign c then some (c, rest) else none
  | false, '\\' :: c :: rest => if isSign c then some (c, rest) else none
  | _, _ => none

mutual

def alternatives (rules : RegexRules) : Nat → Nat → RegexReader Regex
  | 0, _ => throw .unmatchedParen
  | fuel + 1, depth => do
    let outer := (← get).closed
    let first ← sequence rules fuel depth true .empty
    match sign? rules (← get).rest with
    | some ('|', rest) => do
      /- An alternative does not see the groups of another one. -/
      let closed := (← get).closed
      modify fun s => { s with rest, closed := outer }
      let second ← alternatives rules fuel depth
      modify fun s => { s with closed := closed ++ s.closed }
      pure (.alt first second)
    | _ => pure first

def sequence (rules : RegexRules) : Nat → Nat → Bool → Regex → RegexReader Regex
  | 0, _, _, acc => pure acc
  | fuel + 1, depth, first, acc => do
    let text := (← get).rest
    let closes := match sign? rules text with
      | some ('|', _) => true
      | some (')', _) => depth != 0 || !rules.looseClose
      | _ => false
    if text.isEmpty || closes then
      if rules.filled && acc matches .empty then throw .noOperand
      match sign? rules text with
      | some (')', _) => if depth = 0 then throw .unmatchedClose else pure acc
      | _ => pure acc
    else
      let (r, anchor) ← term rules fuel first (acc matches .empty) depth
      if anchor then sequence rules fuel depth true (.seq acc r)
      else
        let r ← repeated rules fuel r
        sequence rules fuel depth false (.seq acc r)

def repeated (rules : RegexRules) : Nat → Regex → RegexReader Regex
  | 0, r => pure r
  | fuel + 1, r => do
    let text := (← get).rest
    /- A further repetition may be refused. -/
    let again (r : Regex) (rest : Octets) : RegexReader Regex := do
      modify fun s => { s with rest }
      let bounds := match sign? rules rest with
        | some ('\x7b', _) => true
        | _ => false
      if rules.once && (rest.head? == some '*' || bounds) then throw .badRepeat
      repeated rules fuel r
    match text, sign? rules text with
    | '*' :: rest, _ => again (.star r) rest
    | _, some ('+', rest) => again (.seq r (.star r)) rest
    | _, some ('?', rest) => again (.alt r .empty) rest
    | _, some ('\x7b', inside) =>
      match bounds rules inside with
      | .between low high rest => again (counted r low high) rest
      | .fault f => throw f
      | .unread =>
        if rules.looseBounds then pure r
        else throw (if endsEarly rules inside then .unmatchedBrace else .badCount)
    | _, _ => pure r

/-- Reads one expression, and says whether it is an anchor. `first` says that there is nothing in front of
it that can be repeated, and `front` that there is nothing at all. Behind a repetition that is skipped a
closing sign stands for itself. -/
def term (rules : RegexRules) : Nat → Bool → Bool → Nat → RegexReader (Regex × Bool)
  | 0, _, _, _ => throw .unmatchedParen
  | fuel + 1, first, front, depth => do
    let text := (← get).rest
    let take (r : Regex) (rest : Octets) (anchor : Bool) : RegexReader (Regex × Bool) := do
      modify fun s => { s with rest }
      pure (r, anchor)
    let skip (rest : Octets) : RegexReader (Regex × Bool) := do
      modify fun s => { s with rest }
      match sign? rules rest with
      | some ('|', _) => pure (.empty, true)
      | some (')', behind) =>
        if rules.looseClose then take (.one fun x => x == ')') behind false
        else throw .unmatchedClose
      | _ => term rules fuel true front depth
    let literal (c : Char) (rest : Octets) : RegexReader (Regex × Bool) :=
      take (.one fun x => x == c) rest false
    match sign? rules text with
    | some ('(', rest) => do
      let n := (← get).groups + 1
      modify fun s => { s with rest, groups := n }
      let inner ← alternatives rules fuel (depth + 1)
      match sign? rules (← get).rest with
      | some (')', rest) => do
        modify fun s => { s with rest, closed := n :: s.closed }
        pure (.group n inner, false)
      | _ => throw .unmatchedParen
    | some (c, rest) =>
      /- Behind an expression a sign of repetition is no longer one when this is reached. -/
      if !first then literal c rest
      else if c == '+' || c == '?' then
        match rules.leading with
        | .literal => literal c rest
        | .skipped => skip rest
        | .refused => throw .badRepeat
      else if c == '\x7b' then
        match rules.leadingBounds with
        | .literal => literal c rest
        | .skipped => skip rest
        | .refused => throw .badRepeat
      else literal c rest
    | none =>
      match text with
      | [] => pure (.empty, true)
      | '.' :: rest => take (.one fun c => !Octets.isStray c) rest false
      | '[' :: rest =>
        match RegexReader.set rules rest with
        | .ok (r, rest) => take r rest false
        | .error f => throw f
      | '*' :: rest =>
        match first, rules.leading with
        | true, .skipped => skip rest
        | true, .refused => throw .badRepeat
        | _, _ => literal '*' rest
      | '^' :: rest =>
        if rules.extended || front then take .lineStart rest true else literal '^' rest
      | '$' :: rest =>
        let last := rest.isEmpty || (match sign? rules rest with
          | some (')', _) | some ('|', _) => true
          | _ => false)
        if rules.extended || last then take .lineEnd rest true else literal '$' rest
      | ['\\'] => if rules.plainly then literal '\\' [] else throw .trailingBackslash
      | '\\' :: c :: rest =>
        if rules.plainly then
          let (c, rest) := plainEscape (c :: rest)
          literal c rest
        else match c with
        | '<' => take (.wordEdge true false) rest true
        | '>' => take (.wordEdge false true) rest true
        | 'b' => take (.wordEdge true true) rest true
        | 'B' => take .noWordEdge rest true
        | 'w' => take (.one Regex.isWordChar) rest false
        | 'W' => take (.one fun x => !Regex.isWordChar x && !Octets.isStray x) rest false
        | 's' => take (.one Letter.isSpace) rest false
        | 'S' => take (.one fun x => !Letter.isSpace x && !Octets.isStray x) rest false
        | '\x60' => take .textStart rest true
        | '\'' => take .textEnd rest true
        | 'n' => if rules.escapes then literal '\n' rest else literal 'n' rest
        | 't' => if rules.escapes then literal '\t' rest else literal 't' rest
        | _ =>
          if c.isDigit && c != '0' then
            let n := c.toNat - 48
            if (← get).closed.contains n then take (.back n) rest false
            else throw .badBackReference
          else literal c rest
      | c :: rest => literal c rest

end

end RegexReader

def Regex.ofText (rules : RegexRules) (text : Octets) : Except RegexFault (Regex × Nat) :=
  match (RegexReader.alternatives rules (8 * text.length + 16) 0).run { rest := text } with
  | (.ok r, s) => .ok (r, s.groups)
  | (.error f, _) => .error f

end MediaPipeline.Shell
