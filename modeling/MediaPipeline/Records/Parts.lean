import MediaPipeline.Records.Reader

/-!
Taking texts apart: into records, into fields, and around what a pattern fits.
-/

namespace MediaPipeline.Records

open Shell (Regex)

/-! ### Fields -/

inductive Separator where
  | blanks
  | char (c : Char)
  | nothing
  | pattern (r : Regex)

namespace Separator

def ofText (t : Octets) : Except Octets Separator :=
  match t with
  | [] => .ok .nothing
  | [' '] => .ok .blanks
  | [c] => .ok (.char c)
  | t => (patternOfText t).map .pattern

def isBlank (c : Char) : Bool :=
  c == ' ' || (9 ≤ c.toNat && c.toNat ≤ 13)

def words (text : Octets) : List Octets :=
  (text.splitBy fun a b => isBlank a == isBlank b).filter fun w => !w.head?.any isBlank

/-- The parts of a text around the matches of a pattern from a position on, each of which has some
length. -/
def around (r : Regex) (text : Array Char) : Nat → Nat → Nat → List Octets
  | 0, start, _ => [(text.extract start text.size).toList]
  | fuel + 1, start, position =>
    match r.find? { text } position with
    | none => [(text.extract start text.size).toList]
    | some (first, p) =>
      if first = p.position then
        if first < text.size then around r text fuel start (first + 1)
        else [(text.extract start text.size).toList]
      else (text.extract start first).toList :: around r text fuel p.position p.position

def split (s : Separator) (lines : Bool) (text : Octets) : List Octets :=
  if text.isEmpty then []
  else match s with
    | blanks => words text
    | nothing => text.map fun c => [c]
    | char c =>
      let parts := text.splitOn c
      if lines && c != '\n' then parts.flatMap fun p => p.splitOn '\n' else parts
    | pattern r =>
      let r := if lines then .alt r (.one fun c => c == '\n') else r
      around r text.toArray (text.length + 1) 0 0

end Separator

/-! ### Records -/

inductive Ending where
  | char (c : Char)
  | paragraph
  | pattern (r : Regex)

namespace Ending

def ofText (t : Octets) : Except Octets Ending :=
  match t with
  | [] => .ok .paragraph
  | [c] => .ok (.char c)
  | t => (patternOfText t).map .pattern

def paragraphOf : Octets → Octets × Octets
  | [] => ([], [])
  | ['\n'] => ([], [])
  | '\n' :: '\n' :: rest => ([], rest.dropWhile (· == '\n'))
  | c :: rest =>
    let (p, behind) := paragraphOf rest
    (c :: p, behind)

def take? (e : Ending) (text : Octets) : Option (Octets × Octets) :=
  if text.isEmpty then none
  else match e with
    | char c =>
      let r := text.takeWhile (· != c)
      some (r, text.drop (r.length + 1))
    | paragraph =>
      match text.dropWhile (· == '\n') with
      | [] => none
      | text => some (paragraphOf text)
    | pattern r =>
      match r.find? { text := text.toArray } 0 with
      | some (first, p) =>
        if p.position = 0 then some (text, [])
        else some (text.take first, text.drop p.position)
      | none => some (text, [])

end Ending

/-! ### Replacement -/

/-- The text that is put in the place of a match. An ampersand is the match itself, unless there is a
backslash in front of it. -/
def replacement (found : Octets) (text : Octets) : Octets :=
  go [] text
where
  /-- Goes on behind a run of backslashes. Of those in front of an ampersand two make one. -/
  go (slashes : Octets) : Octets → Octets
    | [] => slashes
    | c :: rest =>
      if c == '\\' then go (c :: slashes) rest
      else if c == '&' then
        slashes.take (slashes.length / 2) ++
          (if slashes.length % 2 = 1 then ['&'] else found) ++ go [] rest
      else slashes ++ c :: go [] rest

/-- A text with the matches of a pattern replaced from a position on, and their number. Right behind a
match there is no empty one. -/
def replaced (r : Regex) (every : Bool) (put : Octets) (text : Array Char) :
    Nat → Nat → Bool → Octets × Nat
  | 0, position, _ => ((text.extract position text.size).toList, 0)
  | fuel + 1, position, behind =>
    let tail (position : Nat) : Octets := (text.extract position text.size).toList
    match r.find? { text } position with
    | none => (tail position, 0)
    | some (first, p) =>
      let front := (text.extract position first).toList
      let step (n : Nat) : Octets × Nat :=
        /- One character stays behind an empty match. -/
        match text[n]? with
        | none => ([], 0)
        | some c =>
          let (t, count) := replaced r every put text fuel (n + 1) false
          (c :: t, count)
      if first = p.position && first = position && behind then step position
      else
        let found := (text.extract first p.position).toList
        let done := front ++ replacement found put
        if !every then (done ++ tail p.position, 1)
        else
          let (t, count) :=
            if first = p.position then step first
            else replaced r every put text fuel p.position true
          (done ++ t, count + 1)

end MediaPipeline.Records
