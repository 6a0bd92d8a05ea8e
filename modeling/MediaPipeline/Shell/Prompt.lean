import MediaPipeline.Calendar
import MediaPipeline.Shell.Machine

/-!
Prompts of the extended dialect: escapes that tell where and when a shell runs.
-/

namespace MediaPipeline.Shell.Prompt

def fromHome (m : Machine) (path : Octets) : Octets :=
  match m.text? "HOME" with
  | none => path
  | some home =>
    if home.length < 2 then path
    else if path == home then ['~']
    else if (home ++ ['/']).isPrefixOf path then '~' :: path.drop home.length
    else path

/-- A path of which only the last directories are shown, as many as a variable says. -/
def shortened (m : Machine) (path : Octets) : Octets :=
  let count := match m.text? "PROMPT_DIRTRIM" with
    | some t => if !t.isEmpty && t.all Char.isDigit then natural t else 0
    | none => 0
  let parts := (path.splitOn '/').drop 1
  if count = 0 || parts.length ≤ count then path
  else
    let front : Octets := if path.head? == some '~' then ['~', '/'] else []
    front ++ "...".toList ++ (parts.drop (parts.length - count)).flatMap fun p => '/' :: p

/-- With a backslash in front of what is special in double quotes. -/
def protect (text : Octets) : Octets :=
  text.flatMap fun c => if "$\x60\"\\".toList.contains c then ['\\', c] else [c]

def escape? (m : Machine) (c : Char) : Option Octets :=
  let now := Moment.onClock (m.text? "TZ") Moment.present
  let time (format : String) : Option Octets := some (now.format false format.toList)
  let directory := (m.text? "PWD").getD []
  match c with
  | 'a' => some ['\x07']
  | 'e' => some ['\x1b']
  | 'n' => some ['\n']
  | 'r' => some ['\r']
  | '\\' => some ['\\']
  | 'd' => time "%a %b %d"
  | 't' => time "%H:%M:%S"
  | 'T' => time "%I:%M:%S"
  | '@' => time "%I:%M %p"
  | 'A' => time "%H:%M"
  | 'h' | 'H' => some ((m.text? "HOSTNAME").getD "localhost".toList)
  | 'j' => some ['0']
  | 'l' => some "tty".toList
  | 's' => some (protect ((m.name.reverse.takeWhile (· != '/')).reverse))
  | 'u' => some "root".toList
  | 'v' => some "5.2".toList
  | 'V' => some "5.2.15".toList
  | '!' => some ['1']
  | '#' => some ['0']
  | '$' => some ['#']
  | '[' | ']' => some []
  | 'w' => some (protect (shortened m (fromHome m directory)))
  | 'W' =>
    let shown := fromHome m directory
    some (protect (if shown == ['/'] || shown == ['~'] then shown
      else (shown.reverse.takeWhile (· != '/')).reverse))
  | _ => none

def text (m : Machine) : Nat → Octets → Octets
  | 0, t => t
  | _, [] => []
  | fuel + 1, '\\' :: c :: rest =>
    let digits := ((c :: rest).take 3).takeWhile fun d => '0' ≤ d && d ≤ '7'
    if digits.length = 3 then
      let n := digits.foldl (fun n d => 8 * n + (d.toNat - 48)) 0
      Char.ofNat (n % 256) :: text m fuel ((c :: rest).drop 3)
    else match c, rest with
      | 'D', '\x7b' :: more =>
        let format := more.takeWhile (· != '\x7d')
        let now := Moment.onClock (m.text? "TZ") Moment.present
        now.format false (if format.isEmpty then "%X".toList else format) ++
          text m fuel (more.drop (format.length + 1))
      | _, _ => (escape? m c).getD ['\\', c] ++ text m fuel rest
  | fuel + 1, c :: rest => c :: text m fuel rest

end MediaPipeline.Shell.Prompt
