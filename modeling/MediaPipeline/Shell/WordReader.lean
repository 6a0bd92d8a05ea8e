import MediaPipeline.Text.Letters
import MediaPipeline.Shell.Source

/-!
Reading words. A run of atoms is read in a region, which says what quotes, braces and parentheses
mean there and where the run ends. Scripts inside words are read by a function that is given.
-/

namespace MediaPipeline.Shell

inductive Closing where
  | word
  | quote
  | chars (cs : List Char)
  | parens
  | finish
  deriving DecidableEq

structure Region where
  closing : Closing
  /-- Double quotes are around it, so blanks and single quotes have no meaning. -/
  quoted : Bool := false
  braces : Bool := false
  here : Bool := false
  literal : Bool := false
  /-- A word that sets a variable may have an index and a list. -/
  settings : Bool := false
  keyed : Bool := false
  parens : Bool := false
  globs : Bool := false
  enclosure : Enclosure := .double
  line : Nat := 0

def isMeta (c : Char) : Bool :=
  " \t\n;&|<>()".toList.contains c || c == aliasEnd

def isSpecialName (c : Char) : Bool :=
  "!#$*-?@".toList.contains c || c.isDigit

namespace WordReader

/-! ### Quotes -/

def upTo (closing : Char) (line fuel : Nat) (acc : Octets) : Reader Octets := do
  match fuel, ← Reader.peek with
  | 0, _ | _, none => Reader.unclosed .single line
  | fuel + 1, some c => do
    Reader.advance
    if c == closing then pure acc.reverse
    else upTo closing line fuel (if c == aliasEnd then acc else c :: acc)

def digits (base count : Nat) (text : Octets) : Nat × Octets :=
  let value (c : Char) : Nat :=
    if c.isDigit then c.toNat - 48
    else if 'a' ≤ c ∧ c ≤ 'f' then c.toNat - 87
    else if 'A' ≤ c ∧ c ≤ 'F' then c.toNat - 55
    else 99
  let run := (text.take count).takeWhile fun c => value c < base
  (run.foldl (fun n c => base * n + value c) 0, text.drop run.length)

def control : Nat → Octets → Octets
  | 0, _ | _, [] => []
  | fuel + 1, '\\' :: c :: rest =>
    let code (base count : Nat) (text : Octets) (whole : Octets) : Octets :=
      let (n, behind) := digits base count text
      if behind.length = text.length then whole ++ control fuel text
      else Char.ofNat (n % 256) :: control fuel behind
    match c with
    | 'a' => '\x07' :: control fuel rest
    | 'b' => '\x08' :: control fuel rest
    | 'e' | 'E' => '\x1b' :: control fuel rest
    | 'f' => '\x0c' :: control fuel rest
    | 'n' => '\n' :: control fuel rest
    | 'r' => '\r' :: control fuel rest
    | 't' => '\t' :: control fuel rest
    | 'v' => '\x0b' :: control fuel rest
    | '\\' | '\'' | '"' | '?' => c :: control fuel rest
    | 'x' => code 16 2 rest ['\\', 'x']
    | 'u' | 'U' =>
      let (n, behind) := digits 16 (if c = 'u' then 4 else 8) rest
      if behind.length = rest.length then '\\' :: c :: control fuel rest
      else Octets.ofCode n ++ control fuel behind
    | 'c' => match rest with
      | x :: rest => Char.ofNat (x.toUpper.toNat % 32) :: control fuel rest
      | [] => ['\\', 'c']
    | _ =>
      if c.isDigit && c < '8' then code 8 3 (c :: rest) []
      else '\\' :: c :: control fuel rest
  | fuel + 1, c :: rest => c :: control fuel rest

def controlText (line fuel : Nat) (acc : Octets) : Reader Octets := do
  match fuel, ← Reader.rest with
  | 0, _ | _, [] => Reader.unclosed .single line
  | _, '\'' :: _ => do
    Reader.advance
    pure acc.reverse
  | fuel + 1, '\\' :: c :: _ => do
    Reader.advanceBy 2
    controlText line fuel (c :: '\\' :: acc)
  | fuel + 1, c :: _ => do
    Reader.advance
    controlText line fuel (c :: acc)

/-- The text of a script in backquotes. A backslash goes in front of backquotes, backslashes and
dollar signs, and inside double quotes of those too. -/
def backquoted (quoted : Bool) (line fuel : Nat) (acc : Octets) : Reader Octets := do
  let extended ← Reader.extended
  match fuel, ← (if extended then Reader.peek else Reader.next?) with
  | 0, _ | _, none => Reader.unclosed .backquote line
  | fuel + 1, some c => do
    Reader.advance
    if c == '\x60' then pure acc.reverse
    else if c == '\\' then
      match ← Reader.peek with
      | none => Reader.unclosed .backquote line
      | some d => do
        Reader.advance
        let bare := d == '\\' || d == '\x60' || d == '$' || (quoted && d == '"')
        backquoted quoted line fuel (if bare then d :: acc else d :: '\\' :: acc)
    else backquoted quoted line fuel (if c == aliasEnd then acc else c :: acc)

/-! ### Words that set variables -/

/-- The target at the front of a word that sets a variable: a name, an index, whether the value is
added to, and the value. -/
def target? (w : Word) : Option (Octets × Option Word × Bool × Word) :=
  let rec name : Word → Octets × Word
    | .char c false :: rest =>
      if isNameChar c then
        let (more, rest) := name rest
        (c :: more, rest)
      else ([], .char c false :: rest)
    | rest => ([], rest)
  let (found, rest) := name w
  let (index, rest) := match rest with
    | .parameter (.mk [] (.key key) false .value) false :: rest => (some key, rest)
    | rest => (none, rest)
  if !isName found then none
  else match rest with
    | .char '=' false :: value => some (found, index, false, value)
    | .char '+' false :: .char '=' false :: value => some (found, index, true, value)
    | _ => none

def keyed? : Word → Option (Word × Bool × Word)
  | .parameter (.mk [] (.key key) false .value) false :: rest =>
    match rest with
    | .char '=' false :: value => some (key, false, value)
    | .char '+' false :: .char '=' false :: value => some (key, true, value)
    | _ => none
  | _ => none

def indexCloses : Nat → List Char → Bool
  | _, [] => false
  | depth, c :: rest =>
    match c with
    | '[' => indexCloses (depth + 1) rest
    | ']' =>
      if depth ≤ 1 then rest.head? == some '=' || rest.take 2 == ['+', '=']
      else indexCloses (depth - 1) rest
    | '\n' => false
    | _ => indexCloses depth rest

def arithmeticCloses : Nat → List Char → Bool
  | _, [] => true
  | depth, c :: rest =>
    match c with
    | '(' => arithmeticCloses (depth + 1) rest
    | ')' => if depth = 0 then rest.head? == some ')' else arithmeticCloses (depth - 1) rest
    | _ => arithmeticCloses depth rest

def parenCloses : Nat → List Char → Bool
  | _, [] => false
  | depth, c :: rest =>
    match c with
    | '(' => parenCloses (depth + 1) rest
    | ')' => depth = 0 || parenCloses (depth - 1) rest
    | _ => parenCloses depth rest

/-! ### Atoms -/

def braceEnclosure (extended : Bool) (r : Region) : Enclosure :=
  if extended then .brace else if r.quoted && !r.here then .double else .brace

/-- What reads the scripts inside words: the script up to a closing parenthesis, the words of a
list, and a whole script from its text. -/
structure Inner where
  script : Reader Command
  items : Reader (List (Word × Octets))
  whole : Octets → Reader Command

mutual

/-- Reads atoms to the end of a region, and gives the character that ends it. `depth` counts the
parentheses or brackets that are open. -/
def atoms (inner : Inner) : Nat → Region → Nat → Word → Reader (Word × Char)
  | 0, _, _, _ => Reader.fail .tooDeep
  | fuel + 1, r, depth, acc => do
    let line := (← get).line
    let r := if r.line = 0 then { r with line } else r
    let more (acc : Word) : Reader (Word × Char) := atoms inner fuel r depth acc
    let finish (c : Char) : Reader (Word × Char) := pure (acc.reverse, c)
    let put (c : Char) : Reader (Word × Char) := do
      Reader.advance
      more (.char c r.quoted :: acc)
    match ← Reader.next? with
    | none => match r.closing with
      | .word => if r.parens && depth != 0 then Reader.unclosed .paren r.line else finish '\x00'
      | .finish => finish '\x00'
      | _ => Reader.unclosed r.enclosure r.line
    | some c =>
      let channel := (← Reader.extended) && (c == '<' || c == '>') && r.closing == .word &&
        !r.quoted && ((← Reader.rest).drop 1).head? == some '('
      let ends := match r.closing with
        | .word => isMeta c && depth = 0 && !channel && !(r.parens && (c == '(' || c == '|')) &&
          !(r.globs && c == '(' && (match acc with
            | .char d false :: _ => "?*+@!".toList.contains d
            | _ => false)) && !(r.settings && c == '(' && (target? acc.reverse).any fun t =>
              t.2.2.2.isEmpty)
        | .chars cs => cs.contains c && depth = 0
        | _ => false
      if ends && r.closing == .word then finish c
      else if ends then do
        Reader.advance
        finish c
      else if c == aliasEnd then do
        Reader.advance
        more acc
      else match c with
      | '\\' => do
        Reader.advance
        match ← Reader.peek with
        | none => more (.char '\\' true :: acc)
        | some d => do
          Reader.advance
          let bare := !r.quoted || d == '\\' || d == '$' || d == '\x60' ||
            (d == '"' && !(r.here && !r.braces)) || (d == '\x7d' && r.braces)
          more (if bare then .char d true :: acc else .char d true :: .char '\\' true :: acc)
      | '\'' =>
        if r.quoted then put c
        else do
          Reader.advance
          let text ← upTo '\'' line (← get).left []
          more ((Word.ofOctets text true).reverse ++ .quotes :: acc)
      | '"' =>
        if r.closing == .quote then do
          Reader.advance
          finish c
        else if r.here && !r.braces then put c
        else if r.closing == .parens && !(← Reader.extended) then put c
        else do
          Reader.advance
          let (text, _) ← atoms inner fuel
            { closing := .quote, quoted := true, braces := r.braces, enclosure := .double } 0 []
          more (text.reverse ++ (if r.quoted then acc else .quotes :: acc))
      | '\x60' =>
        if r.literal then put c
        else do
          Reader.advance
          let text ← backquoted (r.quoted && !r.here) line (← get).left []
          if ← Reader.extended then more (.scriptText text r.quoted :: acc)
          else more (.command (← inner.whole text) r.quoted :: acc)
      | '$' =>
        if r.literal then put c
        else do
          Reader.advance
          more ((← dollar inner fuel r).reverse ++ acc)
      | '(' =>
        match r.closing with
        | .word =>
          if r.settings && !r.parens && depth = 0 &&
              (target? acc.reverse).any fun t => t.2.2.2.isEmpty then do
            Reader.advance
            let items ← inner.items
            let written := '(' :: joinOctets [' '] (items.map Prod.snd) ++ [')']
            more (.items (items.map Prod.fst) written :: acc)
          else do
            Reader.advance
            atoms inner fuel r (depth + 1) (.char c r.quoted :: acc)
        | .parens | .chars _ =>
          if r.closing == .parens || r.enclosure == .arithmetic then do
            Reader.advance
            atoms inner fuel r (depth + 1) (.char c r.quoted :: acc)
          else put c
        | _ => put c
      | ')' =>
        match r.closing with
        | .word => do
          Reader.advance
          atoms inner fuel r (depth - 1) (.char c r.quoted :: acc)
        | .parens =>
          if depth > 0 then do
            Reader.advance
            atoms inner fuel r (depth - 1) (.char c r.quoted :: acc)
          else do
            Reader.advance
            if ← Reader.accept ')' then finish c else more (.char c r.quoted :: acc)
        | .chars _ =>
          if r.enclosure == .arithmetic then do
            Reader.advance
            atoms inner fuel r (depth - 1) (.char c r.quoted :: acc)
          else put c
        | _ => put c
      | '[' =>
        let opens := (r.settings && (Word.bare? acc.reverse).any isName) || (r.keyed && acc.isEmpty)
        if opens && indexCloses 0 (← Reader.rest) then do
          Reader.advance
          let (key, _) ← atoms inner fuel
            { closing := .chars [']'], enclosure := .bracket } 0 []
          more (.parameter (.mk [] (.key key) false .value) false :: acc)
        else if r.enclosure == .bracket then do
          Reader.advance
          atoms inner fuel r (depth + 1) (.char c r.quoted :: acc)
        else put c
      | ']' =>
        if r.enclosure == .bracket then do
          Reader.advance
          atoms inner fuel r (depth - 1) (.char c r.quoted :: acc)
        else put c
      | '<' | '>' => do
        Reader.advance
        if ← Reader.acceptWhere channel '(' then
          more (.channel (c == '<') (← inner.script) :: acc)
        else more (.char c r.quoted :: acc)
      | _ => put c

def dollar (inner : Inner) : Nat → Region → Reader Word
  | 0, _ => Reader.fail .tooDeep
  | fuel + 1, r => do
    let extended ← Reader.extended
    let inBraces := match r.closing with
      | .chars _ => r.braces && !r.here
      | _ => false
    let value (name : Octets) : Word := [.parameter (.mk name .none false .value) r.quoted]
    match ← Reader.next? with
    | some '(' => do
      Reader.advance
      let second := (← Reader.next?) == some '('
      if second && (!extended || arithmeticCloses 0 ((← Reader.rest).drop 1)) then do
        Reader.advance
        let (text, _) ← atoms inner fuel
          { closing := .parens, quoted := true, enclosure := .arithmetic } 0 []
        pure [.arithmetic text r.quoted]
      else if second && !parenCloses 0 (← Reader.rest) then Reader.unclosed .paren (← get).line
      else return [.command (← inner.script) r.quoted]
    | some '\x7b' => do
      Reader.advance
      braces inner fuel r
    | some '[' =>
      if extended then do
        Reader.advance
        let (text, _) ← atoms inner fuel
          { closing := .chars [']'], quoted := true, enclosure := .bracket } 0 []
        pure [.arithmetic text r.quoted]
      else pure [.char '$' r.quoted]
    | some '\'' =>
      if extended && (!r.quoted || inBraces) then do
        Reader.advance
        let text ← controlText (← get).line (← get).left []
        pure (.quotes :: Word.ofOctets (control (text.length + 1) text) true)
      else pure [.char '$' r.quoted]
    | some '"' => pure (if extended && (!r.quoted || inBraces) then [] else [.char '$' r.quoted])
    | some c =>
      if isNameStart c then return value (← Reader.takeWhile isNameChar (← get).left)
      else if isSpecialName c then do
        Reader.advance
        pure (value [c])
      else pure [.char '$' r.quoted]
    | none => pure [.char '$' r.quoted]

def braces (inner : Inner) : Nat → Region → Reader Word
  | 0, _ => Reader.fail .tooDeep
  | fuel + 1, r => do
    let extended ← Reader.extended
    let before ← get
    let open_ := braceEnclosure extended r
    let word (quoted : Bool) (stops : List Char) (e : Enclosure) : Reader (Word × Char) :=
      atoms inner fuel
        { closing := .chars ('\x7d' :: stops), quoted, braces := true, here := r.here && quoted,
          enclosure := if quoted || extended then e else .brace } 0 []
    let rest : Reader Word := return (← word r.quoted [] open_).1
    let bad : Reader Use := do
      let _ ← rest
      let after ← get
      pure (.bad (before.rest.take (before.left - after.left)))
    let close (use : Use) : Reader Use := do
      if ← Reader.accept '\x7d' then pure use else bad
    let indirect ← if extended && (← Reader.next?) == some '!' then do
        match (← Reader.rest).drop 1 with
        | c :: _ =>
          if isNameStart c || c.isDigit || (isSpecialName c && c != '-') then
            Reader.advance
            pure true
          else pure false
        | [] => pure false
      else pure false
    let name : Reader Octets := do
      match ← Reader.next? with
      | some c =>
        if isNameStart c then Reader.takeWhile isNameChar (← get).left
        else if c.isDigit then Reader.takeWhile Char.isDigit (← get).left
        else if isSpecialName c then do
          Reader.advance
          pure [c]
        else pure []
      | none => pure []
    let index (name : Octets) : Reader Index := do
      if extended && isName name && (← Reader.next?) == some '[' then
        Reader.advance
        let (key, _) ← atoms inner fuel
          { closing := .chars [']'], enclosure := .bracket } 0 []
        pure (match key with
          | [.char '@' false] => .each
          | [.char '*' false] => .joined
          | key => .key key)
      else pure .none
    let direct (name : Octets) : Reader (Index × Use) := do
      let index ← index name
      let use : Use ← match ← Reader.next? with
        | some '\x7d' => do
          Reader.advance
          pure .value
        | some ':' => do
          Reader.advance
          match ← Reader.next? with
          | some '-' => do
            Reader.advance
            return (index, .standard true (← rest))
          | some '=' => do
            Reader.advance
            return (index, .assign true (← rest))
          | some '?' => do
            Reader.advance
            return (index, .demand true (← rest))
          | some '+' => do
            Reader.advance
            return (index, .alternative true (← rest))
          | some '\x7d' =>
            if extended then bad
            else do
              Reader.advance
              bad
          | _ =>
            if extended then do
              let (offset, stop) ← word true [':'] .arithmetic
              if stop == ':' then
                let before ← get
                let (length, _) ← word true [] .arithmetic
                let written := before.rest.take (before.left - (← get).left - 1)
                return (index, .substring offset (some length) written)
              else pure (.substring offset none [])
            else do
              Reader.advance
              bad
        | some '-' => do
          Reader.advance
          return (index, .standard false (← rest))
        | some '=' => do
          Reader.advance
          return (index, .assign false (← rest))
        | some '?' => do
          Reader.advance
          return (index, .demand false (← rest))
        | some '+' => do
          Reader.advance
          return (index, .alternative false (← rest))
        | some '#' => do
          Reader.advance
          let longest ← Reader.accept '#'
          return (index, .trim true longest (← word false [] .brace).1)
        | some '%' => do
          Reader.advance
          let longest ← Reader.accept '%'
          return (index, .trim false longest (← word false [] .brace).1)
        | some '/' =>
          if extended then do
            Reader.advance
            let mode : ReplaceMode ← match ← Reader.next? with
              | some '/' => do
                Reader.advance
                pure .every
              | some '#' => do
                Reader.advance
                pure .front
              | some '%' => do
                Reader.advance
                pure .back
              | _ => pure .first
            let (pattern, stop) ← word false ['/'] .brace
            if stop == '/' then return (index, .replace mode pattern (← word r.quoted [] .brace).1)
            else pure (.replace mode pattern [])
          else bad
        | some '^' | some ',' | some '~' =>
          if extended then do
            let sign ← Reader.next?
            Reader.advance
            let every ← Reader.accept (sign.getD '^')
            let change : CaseChange := match sign with
              | some '^' => .upper
              | some ',' => .lower
              | _ => .toggle
            return (index, .changeCase change every (← word false [] .brace).1)
          else do
            Reader.advance
            bad
        | some '@' =>
          if extended then do
            Reader.advance
            match ← Reader.next? with
            | some letter =>
              if "QEPAKaUuLk".toList.contains letter then do
                Reader.advance
                close (.transform letter)
              else if letter == '\x7d' && indirect then do
                Reader.advance
                pure (.names false)
              else bad
            | none => bad
          else do
            Reader.advance
            bad
        | some '*' =>
          if extended && indirect then do
            Reader.advance
            close (.names true)
          else do
            Reader.advance
            bad
        | _ => bad
      pure (index, use)
    let make (name : Octets) (index : Index) (indirect : Bool) (use : Use) : Word :=
      [.parameter (.mk name index indirect use) r.quoted]
    if indirect then
      let name ← name
      let (index, use) ← direct name
      match index, use with
      | .each, .value => pure (make name index false (.keys false))
      | .joined, .value => pure (make name index false (.keys true))
      | _, .names _ => pure (make name index false use)
      | _, _ => pure (make name index true use)
    else if (← Reader.next?) == some '#' then
      Reader.advance
      match ← Reader.next? with
      | some '\x7d' => do
        Reader.advance
        pure (make ['#'] .none false .value)
      | some c =>
        if isNameStart c || c.isDigit then do
          let name ← name
          let index ← index name
          return make name index false (← close .length)
        else
          Reader.joinLines (← get).left
          let after := (← Reader.rest).drop 1
          if isSpecialName c && after.head? == some '\x7d' then do
            Reader.advanceBy 2
            pure (make [c] .none false .length)
          else do
            let (index, use) ← direct ['#']
            pure (make ['#'] index false use)
      | none => do
        let use ← bad
        pure (make ['#'] .none false use)
    else do
      let name ← name
      if name.isEmpty then return make name .none false (← bad)
      else
        let (index, use) ← direct name
        pure (make name index false use)

end

end WordReader

end MediaPipeline.Shell
