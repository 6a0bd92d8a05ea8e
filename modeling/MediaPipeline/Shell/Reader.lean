import MediaPipeline.Shell.Quoting
import MediaPipeline.Shell.WordReader

/-!
Reading commands. A script is read one complete command after another, because a command that runs
may change how those behind it are read.
-/

namespace MediaPipeline.Shell

namespace Reader

/-! ### Here-documents -/

def hereLines (h : HereRequest) : Nat → Bool → Octets → Reader (Octets × Bool)
  | 0, _, acc => pure (acc, false)
  | fuel + 1, joined, acc => do
    let text ← rest
    let text := if h.stripTabs then text.dropWhile (· == '\t') else text
    let line := text.takeWhile (· != '\n')
    let behind := text.drop line.length
    let stripped := (← get).left - text.length
    advanceBy (stripped + line.length + 1)
    if !joined && line == h.delimiter then pure (acc, true)
    else if behind.isEmpty then
      let extra := if (← extended) && !line.isEmpty then ['\n'] else []
      pure (acc ++ line ++ extra, false)
    else
      let slashes := (line.reverse.takeWhile (· == '\\')).length
      hereLines h fuel (!h.quoted && slashes % 2 = 1) (acc ++ line ++ ['\n'])

def takeHeres (inner : WordReader.Inner) : List HereRequest → Reader Unit
  | [] => modify fun s => { s with pending := [] }
  | h :: more => do
    let line := (← get).line
    let (text, found) ← hereLines h ((← get).left + 1) false []
    if !found then
      modify fun s => { s with warnings := s.warnings ++ [(s.line - 1, line - 1, h.delimiter)] }
    let text := text.filter (· != aliasEnd)
    let content ← if h.quoted then pure (Word.ofOctets text true) else
      within text line do
        let region : Region :=
          { closing := .finish, quoted := true, here := true, enclosure := .brace }
        return (← WordReader.atoms inner (20 * text.length + 100) region 0 []).1
    let sign := if h.stripTabs then "<<-".toList else "<<".toList
    let head := sign ++ (if h.quoted then Quoting.single h.delimiter else h.delimiter)
    let body := text ++ h.delimiter
    modify fun s => { s with heres := s.heres.setIfInBounds h.number ⟨content, head, body⟩ }
    takeHeres inner more

/-! ### Tokens -/

structure Expect where
  lines : Bool := false
  reserved : Bool := false
  aliases : Bool := false
  /-- A word may set a variable. -/
  settings : Bool := false
  /-- A word may begin with a key in brackets. -/
  keyed : Bool := false
  delimiter : Bool := false

def start : Expect :=
  { reserved := true, aliases := true, settings := true }

def startBehindLines : Expect :=
  { start with lines := true }

def standardReserved : List String := [
  "!", "case", "do", "done", "elif", "else", "esac", "fi", "for", "if", "in", "then", "until",
  "while", "\x7b", "\x7d"]

def isReserved (d : Dialect) (name : String) : Bool :=
  standardReserved.contains name ||
    (d == .extended && ["[[", "function", "time", "select", "coproc"].contains name)

/-- Steps over the rest of a line. -/
def skipComment : Nat → Reader Unit
  | 0 => pure ()
  | fuel + 1 => do
    match ← peek with
    | none | some '\n' => pure ()
    | some _ => do
      advance
      skipComment fuel

/-- What a redirection sign means, from behind its first character. -/
def redirectKind (reads : Bool) : Reader RedirectKind := do
  if reads then
    match ← next? with
    | some '<' => do
      advance
      if ← acceptWhere (← extended) '<' then pure .hereWord else pure (.here 0)
    | some '&' => do
      advance
      pure (.duplicate true)
    | some '>' => do
      advance
      pure .both
    | _ => pure .read
  else
    match ← next? with
    | some '>' => do
      advance
      pure .append
    | some '|' => do
      advance
      pure (.write true)
    | some '&' => do
      advance
      pure (.duplicate false)
    | _ => pure (.write false)

def redirectSign (descriptor : Option Nat) (holder : Option Octets) : Reader Token := do
  let reads := (← next?) == some '<'
  advance
  return .redirect descriptor holder (← redirectKind reads)

def descriptor? (d : Dialect) (w : Word) : Option (Option Nat × Option Octets) :=
  match Word.bare? w with
  | none => none
  | some text =>
    let number := !text.isEmpty && text.all Char.isDigit &&
      (d == .extended || text.length = 1)
    let inBraces := text.head? == some '\x7b' && text.getLast? == some '\x7d' &&
      isName (text.drop 1).dropLast
    if number then some (some (text.foldl (fun n c => 10 * n + (c.toNat - 48)) 0), none)
    else if d == .extended && inBraces then some (none, some (text.drop 1).dropLast)
    else none

def plainToken (inner : WordReader.Inner) (e : Expect) : Nat → Reader Token
  | 0 => fail .tooDeep
  | fuel + 1 => do
    let extended ← extended
    let operator (op : Operator) : Reader Token := pure (.operator op)
    let take (op : Operator) : Reader Token := do
      advance
      operator op
    match ← next? with
    | none => operator .finish
    | some c =>
      if c == ' ' || c == '\t' || c == aliasEnd then
        advance
        plainToken inner e fuel
      else match c with
      | '#' => do
        skipComment (← get).left
        plainToken inner e fuel
      | '\n' => do
        advance
        takeHeres inner (← get).pending
        operator .newline
      | '&' => do
        advance
        if ← accept '&' then operator .and
        else if extended && (← next?) == some '>' then
          advance
          return .redirect none none (.all (← accept '>'))
        else operator .background
      | '|' => do
        advance
        if ← accept '|' then operator .or
        else if ← acceptWhere extended '&' then operator .pipeAll
        else operator .pipe
      | ';' => do
        advance
        if ← accept ';' then
          if ← acceptWhere extended '&' then operator .testNextArm else operator .endArm
        else if ← acceptWhere extended '&' then operator .nextArm
        else operator .semi
      | '(' => take .openParen
      | ')' => take .closeParen
      | _ =>
        let channel := extended && ((← rest).drop 1).head? == some '('
        if (c == '<' || c == '>') && !channel then redirectSign none none
        else do
          let before ← get
          let region : Region :=
            { closing := .word, settings := extended && e.settings, keyed := e.keyed,
              literal := e.delimiter }
          let (w, _) ← WordReader.atoms inner (20 * before.left + 100) region 0 []
          let after ← get
          let text := (before.rest.take (before.left - after.left)).filter (· != aliasEnd)
          let sign ← next?
          match descriptor? before.dialect w with
          | some (d, h) =>
            if sign == some '<' || sign == some '>' then redirectSign d h
            else pure (.word w text)
          | none => pure (.word w text)

/-- Reads a token. A word may turn out to be reserved, or to be replaced by an alias. -/
def token (inner : WordReader.Inner) (e : Expect) : Nat → Reader Token
  | 0 => fail .tooDeep
  | fuel + 1 => do
    let s ← get
    let t ← match s.pushed with
      | some t => do
        set { s with pushed := none }
        pure t
      | none => plainToken inner e (s.left + 1)
    let e := { e with aliases := e.aliases || (← get).aliasNext }
    modify fun s => { s with aliasNext := false }
    match t with
    | .operator .newline => if e.lines then token inner e fuel else pure t
    | .word w _ =>
      match Word.bare? w with
      | none => pure t
      | some text =>
        let s ← get
        let name := String.ofList text
        if e.reserved && isReserved s.dialect name then pure (.reserved name)
        else match s.aliases.lookup text with
          | some value =>
            if e.aliases && !s.active.any (·.1 == text) then do
              if !value.isEmpty then putAlias text value
              token inner e fuel
            else pure t
          | none => pure t
    | _ => pure t

def push (t : Token) : Reader Unit :=
  modify fun s => { s with pushed := some t }

def unexpected {α : Type} (t : Token) (expected : Option String) : Reader α := do
  let s ← get
  if (t matches .operator .newline) && s.dialect == .extended then
    throw { line := s.line - 1, fault := .unexpected t expected (frontLine s.lastStart) }
  else fail (.unexpected t expected (← lineText))

/-! ### Commands -/

/-- Reads the commands inside constructs. -/
structure Parts where
  inner : WordReader.Inner
  /-- Commands one after another. The first line feed ends them with `stopAtLine`, and a token that
  closes a construct with `mayBeEmpty` also where there is no command. -/
  commands : Bool → Bool → Reader (Option Command)
  single : Expect → Reader Command

namespace Parts

def token (p : Parts) (e : Expect) : Reader Token := do
  Reader.token p.inner e (2 * (← get).left + 1000)

def expectReserved (p : Parts) (e : Expect) (name : String) : Reader Unit := do
  match ← p.token e with
  | .reserved n => if n == name then pure () else unexpected (.reserved n) (some name)
  | t => unexpected t (some name)

def list1 (p : Parts) : Reader Command :=
  return (← p.commands false false).getD .nothing

def target (p : Parts) (descriptor : Option Nat) (holder : Option Octets) (kind : RedirectKind) :
    Reader Redirection := do
  match kind with
  | .here _ => do
    let stripTabs ← accept '-'
    match ← p.token { delimiter := true } with
    | .word w _ => do
      let s ← get
      let delimiter := w.filterMap fun
        | .char c _ => some c
        | _ => none
      let request : HereRequest :=
        ⟨s.heres.size, delimiter, stripTabs, w.hasQuotes, s.line⟩
      set { s with pending := s.pending ++ [request], heres := s.heres.push { content := [] } }
      pure (.mk descriptor holder (.here s.heres.size) [] [])
    | t => unexpected t none
  | _ =>
    match ← p.token {} with
    | .word w text => pure (.mk descriptor holder kind w text)
    | t => unexpected t none

def redirections (p : Parts) : Nat → Reader (List Redirection)
  | 0 => pure []
  | fuel + 1 => do
    match ← p.token start with
    | .redirect d h kind => do
      let r ← p.target d h kind
      return r :: (← p.redirections fuel)
    | t => do
      push t
      pure []

/-- Commands whose words after the first may set variables too. -/
def declaring : List String :=
  ["declare", "typeset", "local", "export", "readonly", "alias"]

structure Draft where
  settings : List Setting := []
  words : List Word := []
  redirections : List Redirection := []
  written : List Octets := []

def Draft.finish (line : Nat) (d : Draft) : Command :=
  .simple line d.settings.reverse d.words.reverse d.redirections.reverse
    (joinOctets [' '] d.written.reverse)

def isSpecialName (name : Octets) : Bool :=
  [".", ":", "break", "continue", "eval", "exec", "exit", "export", "local", "readonly", "return",
    "set", "shift", "times", "trap", "unset"].contains (String.ofList name)

def function (p : Parts) (name : Octets) : Reader Command := do
  let line := (← get).line
  let t ← p.token startBehindLines
  push t
  if ← extended then
    match t with
    | .word .. | .redirect .. => unexpected t none
    | _ => pure ()
  return .define line name (← p.single {})

def simple (p : Parts) (line : Nat) : Nat → Draft → Reader Command
  | 0, d => pure (d.finish line)
  | fuel + 1, d => do
    let first := d.words.isEmpty
    let declares := d.words.getLast?.any fun w =>
      (Word.bare? w).any fun t => declaring.contains (String.ofList t)
    let t ← p.token { aliases := first, settings := first || declares }
    /- In the extended dialect a command has the line at which its second part ends. -/
    let second := d.words.length + d.settings.length + d.redirections.length = 1
    let line ← if second && (← extended) && !(t matches .operator .newline) then
      pure (← get).line else pure line
    match t with
    | .word w text =>
      let d := { d with written := text :: d.written }
      match if first then WordReader.target? w else none with
      | some (name, index, append, value) =>
        if append && !(← extended) then p.simple line fuel { d with words := w :: d.words }
        else
          let s : Setting := .mk name index append value
          p.simple line fuel { d with settings := s :: d.settings }
      | none => p.simple line fuel { d with words := w :: d.words }
    | .redirect descriptor holder kind => do
      let r ← p.target descriptor holder kind
      p.simple line fuel { d with redirections := r :: d.redirections }
    | .operator .openParen =>
      match d.words, d.settings, d.redirections with
      | [w], [], [] => do
        match ← p.token {} with
        | .operator .closeParen => pure ()
        | t => unexpected t (some ")")
        let text := w.filterMap fun
          | .char c _ => some c
          | _ => none
        let ok := if ← extended then !w.hasQuotes
          else (Word.bare? w).any isName && !isSpecialName text
        if !ok then fail (.badFunctionName text)
        p.function text
      | _, _, _ => do
        push (.operator .openParen)
        pure (d.finish line)
    | t => do
      push t
      pure (d.finish line)

def loopWords (p : Parts) : Nat → List (Word × Octets) → Reader (List (Word × Octets) × Token)
  | 0, acc => return (acc.reverse, .operator .finish)
  | fuel + 1, acc => do
    match ← p.token {} with
    | .word w text => p.loopWords fuel ((w, text) :: acc)
    | t => pure (acc.reverse, t)

def loopBody (p : Parts) : Reader Command := do
  match ← p.token startBehindLines with
  | .reserved "do" => do
    let body ← p.list1
    p.expectReserved {} "done"
    pure body
  | .reserved "\x7b" =>
    if ← extended then
      let body ← p.list1
      p.expectReserved {} "\x7d"
      pure body
    else unexpected (.reserved "\x7b") (some "do")
  | t => unexpected t (some "do")

def patterns (p : Parts) : Nat → List (Word × Octets) → Reader (List (Word × Octets))
  | 0, acc => pure acc.reverse
  | fuel + 1, acc => do
    match ← p.token {} with
    | .operator .pipe =>
      match ← p.token {} with
      | .word w text => p.patterns fuel ((w, text) :: acc)
      | _ => p.patterns fuel (([], []) :: acc)
    | .operator .closeParen => pure acc.reverse
    | t => unexpected t (some ")")

def arms (p : Parts) : Nat → List Arm → Reader (List Arm)
  | 0, acc => pure acc.reverse
  | fuel + 1, acc => do
    let first ← p.token { lines := true, reserved := true }
    match first with
    | .reserved "esac" => pure acc.reverse
    | _ => do
      let t ← match first with
        | .operator .openParen => p.token {}
        | t => pure t
      let pattern : Word × Octets ← match t with
        | .word w text => pure (w, text)
        | .reserved name => pure (Word.ofOctets name.toList false, name.toList)
        | t => if ← extended then unexpected t none else pure ([], [])
      let patterns ← p.patterns ((← get).left + 2) [pattern]
      let arm := Arm.mk (patterns.map Prod.fst) (joinOctets " | ".toList (patterns.map Prod.snd))
      let body := (← p.commands false true).getD .nothing
      match ← p.token { lines := true, reserved := true } with
      | .reserved "esac" => pure (arm body .leave :: acc).reverse
      | .operator .endArm => p.arms fuel (arm body .leave :: acc)
      | .operator .nextArm => p.arms fuel (arm body .run :: acc)
      | .operator .testNextArm => p.arms fuel (arm body .try :: acc)
      | t => unexpected t (some ";;")

def branches (p : Parts) : Nat → Reader Command
  | 0 => fail .tooDeep
  | fuel + 1 => do
    let test ← p.list1
    p.expectReserved {} "then"
    let yes ← p.list1
    match ← p.token {} with
    | .reserved "elif" => return .cond test yes (some (← p.branches fuel))
    | .reserved "else" => do
      let no ← p.list1
      p.expectReserved {} "fi"
      pure (.cond test yes (some no))
    | .reserved "fi" => pure (.cond test yes none)
    | t => unexpected t (some "fi")

def arithmeticText (depth : Nat) : List Char → Octets
  | [] => []
  | ')' :: rest => if depth = 0 then [] else ')' :: arithmeticText (depth - 1) rest
  | '(' :: rest => '(' :: arithmeticText (depth + 1) rest
  | c :: rest => c :: arithmeticText depth rest

/-- Reads the text between two opening and two closing parentheses, from behind the opening
ones. -/
def arithmetic (p : Parts) : Reader (Word × Octets) := do
  let written := arithmeticText 0 (← rest)
  let (text, _) ← WordReader.atoms p.inner (20 * (← get).left + 100)
    { closing := .parens, quoted := true, enclosure := .arithmetic } 0 []
  pure (text, written)

def splitParts (w : Word) : List Word :=
  w.foldr (fun a parts =>
    match a with
    | .char ';' _ => [] :: parts
    | a => match parts with
      | [] => [[a]]
      | part :: rest => (a :: part) :: rest) [[]]

/-- The three parts of arithmetic control as they are shown. -/
def countText (written : Octets) : Octets :=
  let shown (part : Octets) : Octets :=
    let part := part.dropWhile fun c => c == ' ' || c == '\t' || c == '\n'
    if part.isEmpty then ['1'] else part
  joinOctets "; ".toList ((written.splitOn ';').map shown)

/-- Reads a loop over words, or one under arithmetic control. -/
def each (p : Parts) (line : Nat) : Reader Command := do
  let extended ← extended
  let all := "\"$@\"".toList
  match ← p.token {} with
  | .operator .openParen => do
    if ← acceptWhere extended '(' then
      let (text, written) ← p.arithmetic
      match splitParts text with
      | [start, test, step] => do
        match ← p.token {} with
        | .operator .semi => pure ()
        | t => push t
        return .count line start test step (countText written) (← p.loopBody)
      | _ => fail (.badCount written)
    else if extended then unexpected (.operator .openParen) none
    else fail (.badLoopVariable [])
  | .word w text => do
    let name := (Word.bare? w).getD text
    if !extended && !((Word.bare? w).any isName) then fail (.badLoopVariable text)
    match ← p.token startBehindLines with
    | .reserved "in" => do
      let (words, ending) ← p.loopWords ((← get).left + 2) []
      match ending with
      | .operator .newline | .operator .semi => pure ()
      | t => unexpected t none
      let written := joinOctets [' '] (words.map Prod.snd)
      return .each line name (some (words.map Prod.fst)) written (← p.loopBody)
    | .operator .semi => return .each line name none all (← p.loopBody)
    | t => do
      push t
      return .each line name none all (← p.loopBody)
  | t => if extended then unexpected t none else fail (.badLoopVariable [])

/-! ### Conditions -/

def skipBlanks (lines : Bool) : Nat → Reader Unit
  | 0 => pure ()
  | fuel + 1 => do
    match ← next? with
    | some c =>
      if c == ' ' || c == '\t' || (lines && c == '\n') then
        advance
        skipBlanks lines fuel
      else pure ()
    | none => pure ()

def testWord (p : Parts) (pattern regular : Bool) : Reader (Option (Word × Octets)) := do
  skipBlanks false ((← get).left + 1)
  let before ← get
  let region : Region := { closing := .word, globs := pattern, parens := regular }
  let (w, _) ← WordReader.atoms p.inner (20 * before.left + 100) region 0 []
  let after ← get
  let text := before.rest.take (before.left - after.left)
  pure (if text.isEmpty then none else some (w, text))

def testUnary : List String := [
  "-a", "-b", "-c", "-d", "-e", "-f", "-g", "-h", "-k", "-n", "-o", "-p", "-r", "-s", "-t", "-u",
  "-v", "-w", "-x", "-z", "-G", "-L", "-N", "-O", "-R", "-S"]

def testBinary : List String := [
  "=", "==", "!=", "=~", "-eq", "-ne", "-lt", "-le", "-gt", "-ge", "-nt", "-ot", "-ef"]

/-- A sign of a condition that comes next, behind blanks. -/
def testSign (signs : List String) : Reader (Option String) := do
  skipBlanks false ((← get).left + 1)
  let text ← rest
  match signs.find? fun s => text.take s.length == s.toList with
  | some s => do
    advanceBy s.length
    pure (some s)
  | none => pure none

/-- The part of a line around a place in it that a message shows: up to the last character that is not
a blank, from behind a blank or a sign between commands. -/
def partAround (text : Array Char) (place : Nat) : Octets :=
  let blank (i : Nat) : Bool := match text[i]? with
    | some c => c == ' ' || c == '\t'
    | none => true
  let last := ((List.range (min place text.size + 1)).reverse.find? fun i => i = 0 || !blank i).getD 0
  let parts (i : Nat) : Bool := (text[i]?).any " \t;|&".toList.contains
  let first := ((List.range (last + 1)).reverse.find? fun i => i = 0 || parts i).getD 0
  ((text.extract first (last + 1)).toList).dropWhile fun c => c == ' ' || c == '\t'

/-- The part of the line where reading has come to, as a message shows it. -/
def nearText : Reader Octets := do
  let s ← get
  let line := s.lineStart.takeWhile (· != '\n')
  return (partAround line.toArray (s.lineStart.length - s.left)).filter (· != aliasEnd)

/-- Steps over the operator at which a condition stops. -/
def testToken : Reader Octets := do
  match ← next? with
  | none | some '\n' => pure "newline".toList
  | some c =>
    let text ← rest
    let signs := ["<<<", "&&", "||", "|&", ";;", "<<", "<&", "<>", ">>", ">&", ">|", "&>"]
    let sign := ((signs.map String.toList).find? fun s => s.isPrefixOf text).getD [c]
    advanceBy sign.length
    pure sign

/-- Refuses a condition at the place where reading has come to. -/
def badTest {α : Type} (what : Octets) : Reader α := do
  let line := (← get).line
  let what := if what.isEmpty then [] else [(line, what)]
  fail (.badTest what (some (← nearText)) (← lineText))

/-- The fault of a condition with another one around it, whose parenthesis stands on a line. -/
def wrapTest (line : Nat) (f : FaultAt) : FaultAt :=
  match f.fault with
  | .badTest what near text =>
    { f with fault := .badTest (what ++ [(line, "expected \x60)'".toList)]) near text }
  | _ => f

def inTest (text : Octets) : Octets :=
  '\x60' :: text ++ ['\'']

def atEndText : Octets :=
  "syntax error: unexpected end of file".toList

def testOperand (p : Parts) (pattern regular : Bool) (kind : String) : Reader (Word × Octets) := do
  let line := (← get).line
  let refuse {α : Type} (token : Octets) : Reader α :=
    badTest ("unexpected argument ".toList ++ inTest token ++ " to conditional ".toList ++
      kind.toList ++ " operator".toList)
  let found ← tryCatch (p.testWord pattern regular) fun f =>
    match regular, f.fault with
    | true, .unclosed .paren => do
      let what := "unexpected EOF while looking for matching \x60)'".toList
      let behind := "unexpected argument to conditional binary operator".toList
      fail (.badTest [(line, what), ((← get).line, behind)] none [])
    | _, _ => throw f
  match found with
  | none => do
    match regular, ← next? with
    | true, some c => if c == '\n' then refuse (← testToken) else pure ([], [])
    | _, _ => refuse (← testToken)
  | some (w, text) => if text == "]]".toList then refuse text else pure (w, text)

mutual

def testOr (p : Parts) : Nat → Reader Test
  | 0 => fail .tooDeep
  | fuel + 1 => do
    let left ← testAnd p fuel
    match ← testSign ["||"] with
    | some _ => return .or left (← testOr p fuel)
    | none => pure left

def testAnd (p : Parts) : Nat → Reader Test
  | 0 => fail .tooDeep
  | fuel + 1 => do
    let left ← testTerm p fuel
    match ← testSign ["&&"] with
    | some _ => return .and left (← testAnd p fuel)
    | none => pure left

def testTerm (p : Parts) : Nat → Reader Test
  | 0 => fail .tooDeep
  | fuel + 1 => do
    let ended (t : Test) : Reader Test := do
      skipBlanks true ((← get).left + 1)
      pure t
    skipBlanks true ((← get).left + 1)
    let line := (← get).line
    if (← next?).isNone then
      fail (.badTest [(line, "unexpected token \x60EOF' in conditional command".toList),
        (line, atEndText)] none [])
    match ← testSign ["("] with
    | some _ => do
      let t ← tryCatch (testOr p fuel) fun f => throw (wrapTest line f)
      match ← testSign [")"] with
      | some _ => ended (.group t)
      | none => do
        let near ← match ← p.testWord false false with
          | some (_, text) => pure text
          | none => testToken
        badTest ("unexpected token ".toList ++ inTest near ++ ", expected \x60)'".toList)
    | none =>
      match ← p.testWord false false with
      | none => do
        let token ← testToken
        badTest ("unexpected token ".toList ++ inTest token ++ " in conditional command".toList)
      | some (w, text) =>
        let name := String.ofList text
        if name == "!" then return .not (← testTerm p fuel)
        else if name == "]]" then badTest []
        else if testUnary.contains name then
          let (operand, written) ← p.testOperand false false "unary"
          ended (.unary text operand (text ++ ' ' :: written))
        else
          let before ← get
          let sign ← testSign ["<<", ">>", "<&", ">&", "<>", ">|", "<", ">"]
          match sign, ["<", ">"].contains (sign.getD "") with
          | some sign, true =>
            let (operand, written) ← p.testOperand false false "binary"
            ended (.binary sign.toList w operand (text ++ ' ' :: sign.toList ++ ' ' :: written))
          | some sign, false =>
            badTest ("unexpected token ".toList ++ inTest sign.toList ++
              ", conditional binary operator expected".toList)
          | none, _ =>
            match ← testSign ["&&", "||", ")"] with
            | some _ => do
              set before
              pure (.word w text)
            | none =>
              match ← p.testWord false false with
              | none => do
                let token ← testToken
                badTest ("unexpected token ".toList ++ inTest token ++
                  ", conditional binary operator expected".toList)
              | some (_, op) =>
                let sign := String.ofList op
                if sign == "]]" then do
                  set before
                  pure (.word w text)
                else if !testBinary.contains sign then
                  badTest "conditional binary operator expected".toList
                else
                  let pattern := sign == "=" || sign == "==" || sign == "!="
                  let (operand, written) ← p.testOperand pattern (sign == "=~") "binary"
                  ended (.binary op w operand (text ++ ' ' :: op ++ ' ' :: written))

end

def condition (p : Parts) : Reader Command := do
  let line := (← get).line
  let t ← testOr p ((← get).left + 10)
  let refuse {α : Type} (what : Octets) : Reader α := do
    fail (.badTest [(line, what)] (some (← nearText)) (← lineText))
  match ← p.testWord false false with
  | some (_, text) =>
    if text == "]]".toList then pure (.test line t)
    else refuse "syntax error in conditional expression".toList
  | none => do
    if (← next?).isNone then
      fail (.badTest [(line, "unexpected EOF while looking for \x60]]'".toList),
        ((← get).line, atEndText)] none [])
    else
      let token ← testToken
      refuse ("syntax error in conditional expression: unexpected token ".toList ++ inTest token)

/-! ### Compound commands -/

def construct (p : Parts) (line : Nat) (name : String) : Reader Command := do
  match name with
  | "if" => p.branches ((← get).left + 2)
  | "while" | "until" => do
    let test ← p.list1
    p.expectReserved {} "do"
    let body ← p.list1
    p.expectReserved {} "done"
    pure (.loop (name == "until") test body)
  | "for" => p.each line
  | "select" => do
    match ← p.each line with
    | .each line name words written body => pure (.select line name words written body)
    | c => pure c
  | "case" => do
    match ← p.token {} with
    | .word subject text => do
      p.expectReserved { lines := true, reserved := true, aliases := true } "in"
      return .choose line subject text (← p.arms ((← get).left + 2) [])
    | t => unexpected t (some "word")
  | "\x7b" => do
    let body ← p.list1
    p.expectReserved {} "\x7d"
    pure (.group body)
  | "[[" => p.condition
  | "function" => do
    match ← p.token {} with
    | .word w text => do
      let name := (Word.bare? w).getD text
      match ← p.token start with
      | .operator .openParen =>
        match ← p.token {} with
        | .operator .closeParen => p.function name
        | t => unexpected t none
      | t => do
        push t
        p.function name
    | t => unexpected t none
  | _ => unexpected (.reserved name) none

def command (p : Parts) (e : Expect) : Reader Command := do
  let line := (← get).line
  let construct (body : Command) : Reader Command := do
    match ← p.redirections ((← get).left + 2) with
    | [] => pure body
    | rs => match body with
      | .define l name inner => pure (.define l name (.redirected line inner rs))
      | body => pure (.redirected line body rs)
  match ← p.token e with
  | .operator .openParen => do
    if (← extended) && (← peek) == some '(' &&
        WordReader.arithmeticCloses 0 ((← rest).drop 1) then
      advance
      let (text, written) ← p.arithmetic
      construct (.arithmetic line text written)
    else
      let body ← p.list1
      match ← p.token {} with
      | .operator .closeParen => construct (.subshell line body)
      | t => unexpected t (some ")")
  | .reserved name => do
    let known := ["if", "while", "until", "for", "case", "\x7b", "[[", "function", "select"]
    if known.contains name then
      match ← p.construct line name with
      | .define l n body => pure (.define l n body)
      | body => construct body
    else unexpected (.reserved name) none
  | .word w text => do
    push (.word w text)
    p.simple line (2 * (← get).left + 1000) {}
  | .redirect d h kind => do
    push (.redirect d h kind)
    p.simple line (2 * (← get).left + 1000) {}
  | t => unexpected t none

def stages (p : Parts) : Nat → List Command → Reader (List Command)
  | 0, acc => pure acc.reverse
  | fuel + 1, acc => do
    match ← p.token {} with
    | .operator .pipe => do
      let c ← p.command startBehindLines
      p.stages fuel (c :: acc)
    | .operator .pipeAll => do
      let joined : Command := match acc with
        | last :: _ => .redirected 0 last
          [.mk (some 2) none (.duplicate false) (Word.ofOctets ['1'] false) ['1']]
        | [] => .nothing
      let c ← p.command startBehindLines
      p.stages fuel (c :: joined :: acc.drop 1)
    | t => do
      push t
      pure acc.reverse

def pipe (p : Parts) (e : Expect) : Nat → Reader Command
  | 0 => fail .tooDeep
  | fuel + 1 => do
    let t ← p.token e
    match t with
    | .reserved "!" => do
      if ← extended then
        match ← p.token start with
        | t@(.reserved "!") | t@(.reserved "time") => do
          push t
          return .not (← p.pipe {} fuel)
        | t@(.operator .newline) | t@(.operator .semi) | t@(.operator .finish) => do
          push t
          return .not .nothing
        | t => push t
        let first ← p.command {}
        return .not (← finish first)
      else
        let first ← p.command start
        return .not (← finish first)
    | .reserved "time" => do
      let first ← p.token start
      let (portable, t) ← match first with
        | .word _ ['-', 'p'] => pure (true, ← p.token start)
        | t => pure (false, t)
      match t with
      | t@(.operator op) => do
        push t
        if op = .openParen then return .timed portable (← p.pipe {} fuel)
        else pure (.timed portable .nothing)
      | t => do
        push t
        return .timed portable (← p.pipe {} fuel)
    | t => do
      push t
      let first ← p.command {}
      finish first
where
  finish (first : Command) : Reader Command := do
    match ← p.stages ((← get).left + 2) [first] with
    | [c] => pure c
    | stages => pure (.pipe stages)

def andOr (p : Parts) : Nat → Command → Reader Command
  | 0, c => pure c
  | fuel + 1, c => do
    match ← p.token {} with
    | .operator .and => do p.andOr fuel (.and c (← p.pipe startBehindLines 1000))
    | .operator .or => do p.andOr fuel (.or c (← p.pipe startBehindLines 1000))
    | t => do
      push t
      pure c

def closes : Token → Bool
  | .operator .finish | .operator .closeParen | .operator .endArm | .operator .nextArm
  | .operator .testNextArm => true
  | .reserved name => ["do", "done", "elif", "else", "esac", "fi", "then", "\x7d"].contains name
  | _ => false

def list (p : Parts) (stopAtLine : Bool) : Nat → Bool → Option Command → Reader (Option Command)
  | 0, _, c => pure c
  | fuel + 1, mayBeEmpty, c => do
    let t ← p.token { start with lines := !stopAtLine }
    match t with
    | .operator .newline => pure c
    | .operator .finish => do
      takeHeres p.inner (← get).pending
      push t
      pure c
    | _ =>
      push t
      if mayBeEmpty && !stopAtLine && closes t then pure c
      else
        let next ← p.andOr ((← get).left + 2) (← p.pipe {} 1000)
        let join (next : Command) : Option Command :=
          some (match c with
            | none => next
            | some before => .seq before next)
        match ← p.token {} with
        | .operator .background => p.list stopAtLine fuel true (join (.background next))
        | .operator .semi => p.list stopAtLine fuel true (join next)
        | t@(.operator .newline) | t@(.operator .finish) => do
          push t
          p.list stopAtLine fuel true (join next)
        | t => do
          if stopAtLine then unexpected t none
          push t
          pure (join next)

def substitution (p : Parts) : Reader Command := do
  let pending := (← get).pending
  modify fun s => { s with pending := [] }
  let extended ← extended
  let body : Reader Command := do
    let body ← p.commands false true
    match ← p.token {} with
    | .operator .closeParen =>
      let body := body.getD .nothing
      pure (if extended then body.answer else body)
    | t => unexpected t (some ")")
  let body ← tryCatch body fun f =>
    match f.fault with
    | .unexpected (.operator .finish) _ _ =>
      throw (if extended then { f with fault := .unclosed .paren } else f)
    | _ => throw f
  modify fun s => { s with pending }
  pure body

def items (p : Parts) (line : Nat) : Nat → List (Word × Octets) → Reader (List (Word × Octets))
  | 0, acc => pure acc.reverse
  | fuel + 1, acc => do
    match ← p.token { lines := true, keyed := true } with
    | .word w text => p.items line fuel ((w, text) :: acc)
    | .operator .closeParen => pure acc.reverse
    | .operator .finish => unclosed .list line
    | t => tryCatch (unexpected t none) fun f => throw { f with inList := true }

end Parts

/-- The parts of scripts whose constructs nest no deeper than a bound. -/
def parts : Nat → Parts
  | 0 => {
      inner := ⟨fail .tooDeep, fail .tooDeep, fun _ => fail .tooDeep⟩
      commands := fun _ _ => fail .tooDeep
      single := fun _ => fail .tooDeep }
  | bound + 1 => {
      inner := {
        script := fun s => (parts bound).substitution s
        items := fun s => ((parts bound).items s.line (s.left + 2) []) s
        whole := fun text s => (within text 1 (do
          return (← (parts bound).commands false true).getD .nothing)) s }
      commands := fun stopAtLine mayBeEmpty s =>
        ((parts bound).list stopAtLine (2 * s.left + 1000) mayBeEmpty none) s
      single := fun e s => ((parts bound).command e) s }

def nestingBound : Nat := 100000

/-- Reads the next complete command; there is none where a line is empty. -/
def nextCommand : Reader (Option Command) := do
  modify fun s => { s with pushed := none, pending := [], aliasNext := false }
  let p := parts nestingBound
  p.list true (2 * (← get).left + 1000) false none

/-- A text with substitutions in it, as it would be in a here-document; the text itself where that
cannot be read. -/
def lineWord (d : Dialect) (heres : Array HereText) (text : Octets) : Word × Array HereText :=
  let region : Region := { closing := .finish, quoted := true, here := true, enclosure := .brace }
  let reader := WordReader.atoms (parts nestingBound).inner (20 * text.length + 100) region 0 []
  match reader.run { Source.ofText d [] text with rest := text, left := text.length, heres } with
  | (.ok (w, _), s) => (w, s.heres)
  | (.error _, s) => (Word.ofOctets text true, s.heres)

end Reader

end MediaPipeline.Shell
