import MediaPipeline.Shell.Source

/-!
What shells say of scripts that they cannot read.
-/

namespace MediaPipeline.Shell

/-- A text between the quotes of messages in the extended dialect. -/
def inMessage (text : Octets) : Octets :=
  '\x60' :: text ++ ['\'']

def RedirectKind.sign : RedirectKind → String
  | read => "<"
  | write false => ">"
  | write true => ">|"
  | append => ">>"
  | both => "<>"
  | duplicate true => "<&"
  | duplicate false => ">&"
  | here _ => "<<"
  | hereWord => "<<<"
  | all false => "&>"
  | all true => "&>>"

namespace Token

def kindName : Token → String
  | .word .. => "word"
  | .redirect .. => "redirection"
  | .reserved name => "\"" ++ name ++ "\""
  | .operator .newline => "newline"
  | .operator .finish => "end of file"
  | .operator op => "\"" ++ op.text ++ "\""

def shown : Token → Octets
  | .word _ text => text
  | .redirect _ _ kind => kind.sign.toList
  | .reserved name => name.toList
  | .operator op => op.text.toList

end Token

namespace Fault

def standardMessage : Fault → Octets
  | unexpected token expected _ =>
    let name := match expected with
      | some "word" => " (expecting word)"
      | some e => " (expecting \"" ++ e ++ "\")"
      | none => ""
    (token.kindName ++ " unexpected" ++ name).toList
  | unclosed .single | unclosed .double => "Unterminated quoted string".toList
  | unclosed .backquote => "EOF in backquote substitution".toList
  | unclosed .arithmetic => "Missing '))'".toList
  | unclosed _ => "Missing '\x7d'".toList
  | badLoopVariable _ => "Bad for loop variable".toList
  | badFunctionName _ => "Bad function name".toList
  | badDescriptor => "Bad fd number".toList
  | badTest what .. => (what.map Prod.snd).flatten
  | badCount _ | tooDeep => "Out of space".toList

def closing : Enclosure → Char
  | .single => '\''
  | .double => '"'
  | .backquote => '\x60'
  | .brace => '\x7d'
  | .bracket => ']'
  | .paren | .arithmetic | .list => ')'

/-- What the extended dialect says of a fault on a line, each part with a line of its own. -/
def extendedMessages (line : Nat) (f : Fault) : List (Nat × Octets) :=
  let here (texts : List Octets) : List (Nat × Octets) := texts.map fun t => (line, t)
  let atEnd := "syntax error: unexpected end of file".toList
  match f with
  | unexpected (.operator .finish) _ _ => here [atEnd]
  | unexpected token _ text =>
    here ["syntax error near unexpected token ".toList ++ inMessage token.shown, inMessage text]
  | unclosed e =>
    here ["unexpected EOF while looking for matching ".toList ++ inMessage [closing e]]
  | badTest what (some near) text =>
    what ++ here ["syntax error near ".toList ++ inMessage near, inMessage text]
  | badTest what none _ => what
  | badCount text =>
    let what := if text.count ';' < 2 then "arithmetic expression required".toList
      else inMessage [';'] ++ " unexpected".toList
    here ["syntax error: ".toList ++ what,
      "syntax error: ".toList ++ inMessage ("((".toList ++ text ++ "))".toList)]
  | badLoopVariable name | badFunctionName name =>
    here [inMessage name ++ ": not a valid identifier".toList]
  | badDescriptor | tooDeep => here ["out of memory".toList]

end Fault

end MediaPipeline.Shell
