import MediaPipeline.Text.Octets

/-!
Moments of time: the date and the time of day at a number of seconds, and formats in which they are
written. Days are counted in the calendar that has a leap day in every fourth year, but not in three
of four full centuries.
-/

namespace MediaPipeline

structure Moment where
  /-- Seconds since the start of 1970, at the zero meridian. -/
  seconds : Int
  nanoseconds : Nat := 0
  ahead : Int := 0
  zone : Octets := "UTC".toList

namespace Moment

/-- The number of days from the start of 1970 to a day. Years are counted from March, so that the
leap day is the last one. -/
def dayNumber (year : Int) (month day : Nat) : Int :=
  let y := if month ≤ 2 then year - 1 else year
  let era := Int.fdiv y 400
  let inEra := y - era * 400
  let fromMarch : Int := (month + 9) % 12
  let inYear := Int.fdiv (153 * fromMarch + 2) 5 + day - 1
  era * 146097 + inEra * 365 + Int.fdiv inEra 4 - Int.fdiv inEra 100 + inYear - 719468

structure Day where
  year : Int
  month : Nat
  day : Nat
  deriving DecidableEq

def dayOf (number : Int) : Day :=
  let z := number + 719468
  let era := Int.fdiv z 146097
  let inEra := (z - era * 146097).toNat
  let year := (inEra - inEra / 1460 + inEra / 36524 - inEra / 146096) / 365
  let inYear := inEra - (365 * year + year / 4 - year / 100)
  let fromMarch := (5 * inYear + 2) / 153
  let month := if fromMarch < 10 then fromMarch + 3 else fromMarch - 9
  { year := year + era * 400 + (if month ≤ 2 then 1 else 0), month
    day := inYear - (153 * fromMarch + 2) / 5 + 1 }

def shown (m : Moment) : Int :=
  m.seconds + m.ahead

def number (m : Moment) : Int :=
  Int.fdiv m.shown 86400

def day (m : Moment) : Day :=
  dayOf m.number

def inDay (m : Moment) : Nat :=
  (Int.fmod m.shown 86400).toNat

def hour (m : Moment) : Nat :=
  m.inDay / 3600

def minute (m : Moment) : Nat :=
  m.inDay / 60 % 60

def second (m : Moment) : Nat :=
  m.inDay % 60

def weekday (m : Moment) : Nat :=
  (Int.fmod (m.number + 4) 7).toNat

def yearDay (m : Moment) : Nat :=
  (m.number - dayNumber m.day.year 1 1).toNat

/-- The year and the number of the week by the rule that a week belongs to the year of its
Thursday. -/
def isoWeek (m : Moment) : Int × Nat :=
  let thursday := m.number - (((m.weekday + 6) % 7 : Nat) : Int) + 3
  let year := (dayOf thursday).year
  (year, (thursday - dayNumber year 1 1).toNat / 7 + 1)

def dayNames : List String :=
  ["Sunday", "Monday", "Tuesday", "Wednesday", "Thursday", "Friday", "Saturday"]

def monthNames : List String := [
  "January", "February", "March", "April", "May", "June", "July", "August", "September", "October",
  "November", "December"]

/-! ### Formats -/

structure Style where
  fill : Option Char := none
  upper : Bool := false
  /-- Capitals are written where small letters are usual, and the other way round. -/
  swap : Bool := false
  width : Nat := 0

/-- A number with at least so many places, filled up with zeros unless the style, or the usual way,
says otherwise. -/
def Style.number (s : Style) (places : Nat) (usual : Char) (n : Int) : Octets :=
  let fill := s.fill.getD usual
  let digits := Octets.ofNat n.natAbs
  let sign : Octets := if n < 0 then ['-'] else []
  if fill == '-' then
    List.replicate (s.width - sign.length - digits.length) ' ' ++ sign ++ digits
  else
    let missing := max places s.width - sign.length - digits.length
    if fill == '_' then List.replicate missing ' ' ++ sign ++ digits
    else sign ++ List.replicate missing '0' ++ digits

def Style.text (s : Style) (t : Octets) : Octets :=
  let t := if s.upper then t.map Char.toUpper else t
  List.replicate (s.width - t.length) (if s.fill == some '0' then '0' else ' ') ++ t

/-- How far a clock is ahead; with `colons` colons between the parts. -/
def offsetText (colons : Nat) (ahead : Int) : Octets :=
  let n := ahead.natAbs
  let two (n : Nat) : Octets := [Char.ofNat (48 + n / 10 % 10), Char.ofNat (48 + n % 10)]
  let parts : List Octets := match colons with
    | 0 | 1 => [two (n / 3600), two (n / 60 % 60)]
    | 2 => [two (n / 3600), two (n / 60 % 60), two (n % 60)]
    | _ => if n % 60 != 0 then [two (n / 3600), two (n / 60 % 60), two (n % 60)]
      else if n / 60 % 60 != 0 then [two (n / 3600), two (n / 60 % 60)]
      else [two (n / 3600)]
  let separator : Octets := if colons = 0 then [] else [':']
  (if ahead < 0 then '-' else '+') :: (parts.intersperse separator).flatten

def partFormat? : Char → Option String
  | 'c' => some "%a %b %e %H:%M:%S %Y"
  | 'D' | 'x' => some "%m/%d/%y"
  | 'F' => some "%Y-%m-%d"
  | 'r' => some "%I:%M:%S %p"
  | 'R' => some "%H:%M"
  | 'T' | 'X' => some "%H:%M:%S"
  | _ => none

def part? (m : Moment) (fine : Bool) (s : Style) (c : Char) : Option Octets :=
  let name (names : List String) (n : Nat) : Octets := (names[n]?.getD "").toList
  let capital (t : Octets) : Octets := { s with upper := s.upper || s.swap }.text t
  let twelve : Nat := if m.hour % 12 = 0 then 12 else m.hour % 12
  let half : Octets := if m.hour < 12 then "AM".toList else "PM".toList
  match c with
  | 'a' => some (capital ((name dayNames m.weekday).take 3))
  | 'A' => some (capital (name dayNames m.weekday))
  | 'b' | 'h' => some (capital ((name monthNames (m.day.month - 1)).take 3))
  | 'B' => some (capital (name monthNames (m.day.month - 1)))
  | 'C' => some (s.number 2 '0' (Int.fdiv m.day.year 100))
  | 'd' => some (s.number 2 '0' m.day.day)
  | 'e' => some (s.number 2 '_' m.day.day)
  | 'g' => some (s.number 2 '0' (Int.fmod m.isoWeek.1 100))
  | 'G' => some (s.number (if fine then 4 else 1) '0' m.isoWeek.1)
  | 'H' => some (s.number 2 '0' m.hour)
  | 'I' => some (s.number 2 '0' twelve)
  | 'j' => some (s.number 3 '0' (m.yearDay + 1))
  | 'k' => some (s.number 2 '_' m.hour)
  | 'l' => some (s.number 2 '_' twelve)
  | 'm' => some (s.number 2 '0' m.day.month)
  | 'M' => some (s.number 2 '0' m.minute)
  | 'n' => some (s.text ['\n'])
  | 'N' =>
    if !fine then none
    else
      let digits := Octets.ofNat (Nat.pow 10 9 + m.nanoseconds)
      let digits := digits.drop 1
      let cut := if s.width = 0 then digits else digits.take s.width
      let short := (cut.reverse.dropWhile (· == '0')).reverse
      some (match s.fill with
        | some '-' => if short.isEmpty then ['0'] else short
        | some '_' => cut ++ List.replicate (s.width - cut.length) ' '
        | _ => cut ++ List.replicate (s.width - cut.length) '0')
  | 'p' =>
    some (if s.swap then { s with upper := false }.text (half.map Char.toLower) else s.text half)
  | 'P' => some (s.text (half.map Char.toLower))
  | 'q' => if fine then some (s.number 1 '0' ((m.day.month + 2) / 3 : Nat)) else none
  | 's' => some (s.number 1 '0' m.seconds)
  | 'S' => some (s.number 2 '0' m.second)
  | 't' => some (s.text ['\t'])
  | 'u' => some (s.number 1 '0' (((m.weekday + 6) % 7 + 1 : Nat) : Int))
  | 'U' => some (s.number 2 '0' ((m.yearDay + 7 - m.weekday) / 7 : Nat))
  | 'V' => some (s.number 2 '0' m.isoWeek.2)
  | 'w' => some (s.number 1 '0' m.weekday)
  | 'W' => some (s.number 2 '0' ((m.yearDay + 7 - (m.weekday + 6) % 7) / 7 : Nat))
  | 'y' => some (s.number 2 '0' (Int.fmod m.day.year 100))
  | 'Y' => some (s.number (if fine then 4 else 1) '0' m.day.year)
  | 'z' => some (s.text (offsetText 0 m.ahead))
  | 'Z' =>
    some (if s.swap then { s with upper := false }.text (m.zone.map Char.toLower)
      else s.text m.zone)
  | '%' => some (s.text ['%'])
  | _ => none

/-- Reads the signs, the width and the letter of a part. -/
def takeStyle : Nat → Octets → Style → Style × Octets
  | 0, text, s => (s, text)
  | _, [], s => (s, [])
  | fuel + 1, c :: rest, s =>
    if c == '_' || c == '-' || c == '0' then takeStyle fuel rest { s with fill := some c }
    else if c == '^' then takeStyle fuel rest { s with upper := true }
    else if c == '#' then takeStyle fuel rest { s with swap := true }
    else
      let digits := (c :: rest).takeWhile Char.isDigit
      ({ s with width := min (natural digits) 10000 }, (c :: rest).drop digits.length)

/-- Writes a moment through a format, which may hold formats of parts down to a depth. -/
def write (m : Moment) (fine : Bool) : Nat → Nat → Octets → Octets
  | 0, _, _ | _, 0, _ | _, _, [] => []
  | depth + 1, fuel + 1, '%' :: text =>
    let (s, rest) := takeStyle (text.length + 1) text {}
    let rest := match rest with
      | 'E' :: rest | 'O' :: rest => rest
      | rest => rest
    let colons := if fine then (rest.takeWhile (· == ':')).length else 0
    match rest.drop colons with
    | [] => '%' :: text
    | c :: after =>
      let found : Option Octets :=
        if colons != 0 then if c == 'z' then some (s.text (offsetText colons m.ahead)) else none
        else match partFormat? c with
          | some format =>
            some (s.text (m.write fine depth 1000 format.toList))
          | none => m.part? fine s c
      match found with
      | some t => t ++ m.write fine (depth + 1) fuel after
      | none =>
        '%' :: text.take (text.length - after.length) ++ m.write fine (depth + 1) fuel after
  | depth + 1, fuel + 1, c :: rest => c :: m.write fine (depth + 1) fuel rest

def format (m : Moment) (fine : Bool) (text : Octets) : Octets :=
  m.write fine 3 (text.length + 1) text

/-! ### Clocks -/

/-- A number of hours, minutes and seconds with colons between them, in seconds, and what follows. -/
def takeClock (text : Octets) : Nat × Octets :=
  let rec go : Nat → Nat → Octets → Nat × Octets
    | 0, total, text => (total, text)
    | unit + 1, total, text =>
      let digits := text.takeWhile Char.isDigit
      let n := natural digits
      let total := total + n * Nat.pow 60 unit
      match text.drop digits.length with
      | ':' :: rest => go unit total rest
      | rest => (total, rest)
  go 3 0 text

inductive ChangeDay where
  | inWeek (month week weekday : Nat)
  | numbered (n : Nat) (leap : Bool)

/-- When in the year a clock is changed: a day, and the seconds from its midnight. -/
structure Change where
  day : ChangeDay
  time : Int := 7200

def Change.inYear (c : Change) (year : Int) : Int :=
  let day : Int := match c.day with
    | .inWeek month week weekday =>
      let first := dayNumber year month 1
      let next := if month = 12 then dayNumber (year + 1) 1 1 else dayNumber year (month + 1) 1
      let day := first + Int.fmod (weekday - (first + 4)) 7 + 7 * ((week : Int) - 1)
      if day < next then day else day - 7
    | .numbered n leap =>
      let isLeap := dayNumber year 3 1 - dayNumber year 1 1 = 60
      dayNumber year 1 1 + (if leap then (n : Int) else n - 1 + if isLeap && n > 59 then 1 else 0)
  day * 86400 + c.time

/-- A clock: its name and how far it is ahead, and what becomes of them for a part of the year. -/
structure Clock where
  name : Octets
  ahead : Int
  summer : Option (Octets × Int × Change × Change) := none

def takeName (text : Octets) : Octets × Octets :=
  match text with
  | '<' :: more => (more.takeWhile (· != '>'), (more.dropWhile (· != '>')).drop 1)
  | _ => (text.takeWhile Char.isAlpha, text.dropWhile Char.isAlpha)

def takeBehind (text : Octets) : Option (Int × Octets) :=
  let clock (sign : Int) (text : Octets) : Option (Int × Octets) :=
    if text.head?.any Char.isDigit then
      let (n, rest) := takeClock text
      some (sign * n, rest)
    else none
  match text with
  | '-' :: rest => clock (-1) rest
  | '+' :: rest => clock 1 rest
  | _ => clock 1 text

def changeOf (text : Octets) : Change :=
  let day := text.takeWhile (· != '/')
  let time : Int := match text.drop day.length with
    | '/' :: rest => ((takeBehind rest).map Prod.fst).getD 7200
    | _ => 7200
  let day : ChangeDay := match day with
    | 'M' :: rest =>
      match (rest.splitOn '.').map natural with
      | [month, week, weekday] => .inWeek month week weekday
      | _ => .numbered 0 true
    | 'J' :: rest => .numbered (natural rest) false
    | rest => .numbered (natural rest) true
  { day, time }

def placeSettings : List (String × String) :=
  let east := "EST5EDT,M3.2.0,M11.1.0"
  let middle := "CET-1CEST,M3.5.0,M10.5.0/3"
  [("America/New_York", east), ("US/Eastern", east), ("America/Toronto", east), ("EST5EDT", east),
    ("America/Chicago", "CST6CDT,M3.2.0,M11.1.0"), ("US/Central", "CST6CDT,M3.2.0,M11.1.0"),
    ("America/Denver", "MST7MDT,M3.2.0,M11.1.0"), ("US/Mountain", "MST7MDT,M3.2.0,M11.1.0"),
    ("America/Los_Angeles", "PST8PDT,M3.2.0,M11.1.0"), ("US/Pacific", "PST8PDT,M3.2.0,M11.1.0"),
    ("America/Sao_Paulo", "<-03>3"), ("Europe/London", "GMT0BST,M3.5.0/1,M10.5.0"),
    ("Europe/Paris", middle), ("Europe/Berlin", middle), ("Europe/Madrid", middle),
    ("Europe/Rome", middle), ("Europe/Amsterdam", middle), ("Europe/Vienna", middle),
    ("Europe/Zurich", middle), ("Europe/Stockholm", middle), ("Europe/Moscow", "MSK-3"),
    ("Asia/Tokyo", "JST-9"), ("Japan", "JST-9"), ("Asia/Seoul", "KST-9"), ("Asia/Shanghai", "CST-8"),
    ("Asia/Hong_Kong", "HKT-8"), ("Asia/Singapore", "<+08>-8"), ("Asia/Kolkata", "IST-5:30"),
    ("Asia/Calcutta", "IST-5:30"), ("Asia/Kathmandu", "<+0545>-5:45"), ("Asia/Dubai", "<+04>-4"),
    ("Australia/Sydney", "AEST-10AEDT,M10.1.0,M4.1.0/3"),
    ("Pacific/Auckland", "NZST-12NZDT,M9.5.0,M4.1.0/3"), ("Etc/UTC", "UTC0"), ("Etc/GMT", "GMT0")]

def Clock.ofSetting (setting : Option Octets) : Clock :=
  let text := setting.getD []
  let text := if text.head? == some ':' then text.drop 1 else text
  let text := ((placeSettings.lookup (String.ofList text)).map String.toList).getD text
  if text.isEmpty then { name := "UTC".toList, ahead := 0 }
  else
    let (name, rest) := takeName text
    match takeBehind rest with
    | none =>
      { name := if rest.head? == some '/' then (text.reverse.takeWhile (· != '/')).reverse else name
        ahead := 0 }
    | some (behind, rest) =>
      let (other, rest) := takeName rest
      if other.isEmpty then { name, ahead := -behind }
      else
        let (otherBehind, rest) := (takeBehind rest).getD (behind - 3600, rest)
        let changes := match rest with
          | ',' :: rest => (rest.splitOn ',').map changeOf
          | _ => [⟨.inWeek 3 2 0, 7200⟩, ⟨.inWeek 11 1 0, 7200⟩]
        match changes with
        | [start, stop] =>
          { name, ahead := -behind, summer := some (other, -otherBehind, start, stop) }
        | _ => { name, ahead := -behind }

def Clock.reading (c : Clock) (seconds : Int) : Int × Octets :=
  match c.summer with
  | none => (c.ahead, c.name)
  | some (name, ahead, start, stop) =>
    let year := (dayOf (Int.fdiv (seconds + c.ahead) 86400)).year
    let first := start.inYear year - c.ahead
    let last := stop.inYear year - ahead
    let inside := if first ≤ last then first ≤ seconds ∧ seconds < last
      else ¬(last ≤ seconds ∧ seconds < first)
    if inside then (ahead, name) else (c.ahead, c.name)

def present : Int := 1767225600

def onClock (setting : Option Octets) (seconds : Int) : Moment :=
  let (ahead, zone) := (Clock.ofSetting setting).reading seconds
  { seconds, ahead, zone }

end Moment

end MediaPipeline
