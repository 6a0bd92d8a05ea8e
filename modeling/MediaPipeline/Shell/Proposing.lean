import MediaPipeline.Shell.Quoting

/-!
Requests for proposals. A request names what may stand in the place of a word; its answer is all of
that which begins as the word does.
-/

namespace MediaPipeline.Shell

structure Proposing where
  kinds : List String := []
  options : List String := []
  pattern : Option Octets := none
  words : Option Octets := none
  function : Option Octets := none
  command : Option Octets := none
  filter : Option Octets := none
  front : Option Octets := none
  back : Option Octets := none

namespace Proposing

/-- The kinds of names, in the order in which they are proposed. Some have a letter. -/
def allKinds : List (String × Option Char) := [
  ("alias", some 'a'), ("arrayvar", none), ("binding", none), ("builtin", some 'b'),
  ("disabled", none), ("enabled", none), ("export", some 'e'), ("function", none),
  ("helptopic", none), ("hostname", none), ("job", some 'j'), ("keyword", some 'k'),
  ("running", none), ("setopt", none), ("shopt", none), ("signal", none), ("stopped", none),
  ("variable", some 'v'), ("command", some 'c'), ("file", some 'f'), ("user", some 'u'),
  ("group", some 'g'), ("service", some 's'), ("directory", some 'd')]

def shownLetters : List Char :=
  ['a', 'b', 'c', 'd', 'e', 'f', 'g', 'j', 'k', 's', 'u', 'v']

/-- What else can be said of proposals. -/
def allOptions : List String := [
  "bashdefault", "default", "dirnames", "filenames", "noquote", "nosort", "nospace", "plusdirs"]

def shown (p : Proposing) : Octets :=
  let named := allOptions.filter p.options.contains
  let short := shownLetters.filter fun c => allKinds.any fun k =>
    k.2 == some c && p.kinds.contains k.1
  let long := allKinds.filter fun k => k.2.isNone && p.kinds.contains k.1
  let given (letter : Char) (quotes : Bool) : Option Octets → Octets
    | none => []
    | some t => ['-', letter, ' '] ++ (if quotes then Quoting.single t else t) ++ [' ']
  (named.flatMap fun n => "-o ".toList ++ n.toList ++ [' ']) ++
    (short.flatMap fun c => ['-', c, ' ']) ++
    (long.flatMap fun k => "-A ".toList ++ k.1.toList ++ [' ']) ++
    given 'G' true p.pattern ++ given 'W' true p.words ++ given 'P' true p.front ++
    given 'S' true p.back ++ given 'X' true p.filter ++ given 'C' true p.command ++
    given 'F' false p.function

end Proposing

end MediaPipeline.Shell
