import MediaPipeline.Text.Letters

/-!
Ways to write a text so that a shell, or a reader of a message, takes it for one word.
-/

namespace MediaPipeline.Shell.Quoting

def octal (c : Char) : Octets :=
  let n := c.toNat
  '\\' :: [n / 64, n / 8 % 8, n % 8].map fun d => Char.ofNat (48 + d)

def controlLetter? (c : Char) : Option Char :=
  [('\x07', 'a'), ('\x08', 'b'), ('\x0c', 'f'), ('\n', 'n'), ('\r', 'r'), ('\t', 't'),
    ('\x0b', 'v')].lookup c

def isPrintable (c : Char) : Bool :=
  32 ≤ c.toNat && c.toNat < 127

def isShowable (text : Octets) : Bool :=
  text.characters.all Letter.isPrintable

def escaped (c : Char) : Octets :=
  match controlLetter? c with
  | some letter => ['\\', letter]
  | none => (Octets.ofCharacter c).flatMap octal

def shown (c : Char) : Octets :=
  if Letter.isPrintable c then Octets.ofCharacter c else escaped c

/-- Between curved quotes, with a backslash in front of closing ones and backslashes. -/
def plain (text : Octets) : Octets :=
  Octets.ofString "‘" ++ (text.characters.flatMap fun c =>
    if c == '\\' || c == '’' then '\\' :: Octets.ofCharacter c else shown c) ++ Octets.ofString "’"

def isHarmless (c : Char) : Bool :=
  c.isAlphanum || "%+,-./:]_".toList.contains c || c == '@'

def isWord (text : Octets) : Bool :=
  let brace := text == ['\x7b'] || text == ['\x7d']
  !text.isEmpty && !brace && text.head? != some '#' && text.head? != some '~' &&
    text.characters.all fun c =>
      isHarmless c || "#~\x7b\x7d".toList.contains c || (127 < c.toNat && Letter.isPrintable c)

/-- The characters of a text in single quotes; those that are not printable stand in quotes of
their own kind. -/
def spelled : Bool → List Char → Octets
  | _, [] => []
  | escape, c :: rest =>
    if Letter.isPrintable c then
      (if escape then ['\'', '\''] else []) ++
        (if c == '\'' then ['\'', '\\', '\''] ++ '\'' :: spelled false rest
        else Octets.ofCharacter c ++ spelled false rest)
    else (if escape then [] else ['\'', '$', '\'']) ++ escaped c ++ spelled true rest

/-- As a word of a shell in quotes: double ones where a single quote is in it and nothing else
needs quotes. -/
def always (text : Octets) : Octets :=
  let doubled := text.contains '\'' && text.all fun c =>
    isHarmless c || " '#~\x7b\x7d".toList.contains c
  if doubled then '"' :: text ++ ['"'] else '\'' :: spelled false text.characters ++ ['\'']

def asNeeded (text : Octets) : Octets :=
  if isWord text then text else always text

/-- As the standard dialect writes values: in single quotes, and single quotes in double ones. -/
def standard (text : Octets) : Octets :=
  let rec go : Nat → Octets → Octets
    | 0, _ => []
    | fuel + 1, text =>
      let run := text.takeWhile (· != '\'')
      let behind := text.drop run.length
      let quotes := behind.takeWhile (· == '\'')
      let rest := behind.drop quotes.length
      '\'' :: run ++ '\'' :: (if quotes.isEmpty then [] else '"' :: quotes ++ ['"']) ++
        (if rest.isEmpty then [] else go fuel rest)
  go (text.length + 1) text

/-- In the quotes of the extended dialect in which a backslash introduces control characters. -/
def ansi (text : Octets) : Octets :=
  '$' :: '\'' :: (text.characters.flatMap fun c =>
    if c == '\'' || c == '\\' then ['\\', c]
    else if c == '\x1b' then ['\\', 'E']
    else shown c) ++ ['\'']

def backslashed (text : Octets) : Octets :=
  let rec go (before : Option Char) : Octets → Octets
    | [] => []
    | c :: rest =>
      let sign := " \t\n'\"|&;()<>!\x7b\x7d*[]?^$\x60\\,".toList.contains c ||
        (c == '#' && before.isNone) || (c == '~' && (before.isNone || before == some ':' || before == some '='))
      (if sign then ['\\', c] else [c]) ++ go (some c) rest
  if text.isEmpty then ['\'', '\'']
  else if isShowable text then go none text
  else ansi text

def single (text : Octets) : Octets :=
  '\'' :: (text.flatMap fun c => if c == '\'' then ['\'', '\\', '\'', '\''] else [c]) ++ ['\'']

def hasSigns (text : Octets) : Bool :=
  let rec go (before : Option Char) : Octets → Bool
    | [] => false
    | c :: rest =>
      " \t\n'\"|&;()<>!\x7b\x7d*[]?^$\x60\\".toList.contains c || (c == '#' && before.isNone) ||
        (c == '~' && (before.isNone || before == some ':' || before == some '=')) ||
        go (some c) rest
  go none text

/-- As the extended dialect writes values: in single quotes where a sign of a shell is in them. -/
def extended (text : Octets) : Octets :=
  if !isShowable text then ansi text
  else if text.isEmpty then ['\'', '\'']
  else if hasSigns text then single text
  else text

def traced (text : Octets) : Octets :=
  if hasSigns text then single text else extended text

end MediaPipeline.Shell.Quoting
