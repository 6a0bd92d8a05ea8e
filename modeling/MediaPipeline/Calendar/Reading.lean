import MediaPipeline.Calendar

/-!
Moments as people name them: by a date, a time of day, a day of the week, a zone, and by spans from
there on, in any order. What is not named is taken from the present.
-/

namespace MediaPipeline.Moment

/-! ### Tokens -/

inductive Token where
  | word (text : String)
  /-- A number: whether a sign stands in front and which, its digits, and those behind a point. -/
  | number (sign : Option Bool) (digits : Octets) (fraction : Octets)
  | sign (c : Char)
  deriving DecidableEq

namespace Token

/-- The pieces of a text. What stands in parentheses does not count. -/
def ofText : Nat → Octets → List Token
  | 0, _ | _, [] => []
  | fuel + 1, c :: rest =>
    let isBlank (c : Char) : Bool := c == ' ' || (9 ≤ c.toNat && c.toNat ≤ 13)
    let number (sign : Option Bool) (text : Octets) : List Token :=
      let digits := text.takeWhile Char.isDigit
      let behind := text.drop digits.length
      match behind with
      | p :: d :: _ =>
        if (p == '.' || p == ',') && d.isDigit then
          let fraction := behind.tail.takeWhile Char.isDigit
          .number sign digits fraction :: ofText fuel (behind.drop (1 + fraction.length))
        else .number sign digits [] :: ofText fuel behind
      | _ => .number sign digits [] :: ofText fuel behind
    if isBlank c then ofText fuel rest
    else if c.isDigit then number none (c :: rest)
    else if c == '+' || c == '-' then
      let behind := rest.dropWhile isBlank
      if behind.head?.any Char.isDigit then number (some (c == '-')) behind
      else if c == '-' then ofText fuel rest
      else .sign c :: ofText fuel rest
    else if c.isAlpha then
      let own := (c :: rest).takeWhile fun d => d.isAlpha || d == '.'
      .word (String.ofList ((own.filter (· != '.')).map Char.toLower)) ::
        ofText fuel ((c :: rest).drop own.length)
    else if c == '(' then ofText fuel ((rest.dropWhile (· != ')')).drop 1)
    else .sign c :: ofText fuel rest

end Token

/-! ### What is asked for -/

structure Naming where
  absolute : Option (Int × Nat) := none
  year : Option Int := none
  date : Option (Nat × Nat) := none
  time : Option (Nat × Nat × Nat × Nat) := none
  weekday : Option (Int × Nat) := none
  ahead : Option Int := none
  /-- A span from there on: years, months, days, seconds and parts of a second. -/
  years : Int := 0
  months : Int := 0
  days : Int := 0
  seconds : Int := 0
  parts : Int := 0
  /-- A span is named, if only that of no days. -/
  isRelative : Bool := false

namespace Naming

def nanoseconds (fraction : Octets) : Nat :=
  natural ((fraction ++ List.replicate 9 '0').take 9)

def among? (names : List String) (least : Nat) (word : String) : Option Nat :=
  names.findIdx? fun n =>
    let name := n.toList.map Char.toLower
    word.toList == name || word.toList == name.take 3 ||
      (least < word.length && word.toList == name.take word.length && word.length = 4 &&
        (word == "sept" || word == "tues" || word == "thur" || word == "wedn"))

def month? (word : String) : Option Nat :=
  (among? monthNames 3 word).map (· + 1)

def weekday? (word : String) : Option Nat :=
  if word == "wednes" then some 3 else if word == "thurs" then some 4
  else among? dayNames 3 word

def ordinal? (word : String) : Option Int :=
  if word == "last" then some (-1) else if word == "this" then some 0
  else if word == "next" then some 1
  else
    let names := ["first", "", "third", "fourth", "fifth", "sixth", "seventh", "eighth", "ninth",
      "tenth", "eleventh", "twelfth"]
    if word.isEmpty then none else (names.idxOf? word).map fun n => (n : Int) + 1

def plus? (n : Naming) (count : Int) (fraction : Int) (unit : String) : Option Naming :=
  let unit := if 3 < unit.length && unit.endsWith "s" then (unit.dropEnd 1).toString else unit
  let n := { n with isRelative := true }
  match unit with
  | "year" => some { n with years := n.years + count }
  | "month" => some { n with months := n.months + count }
  | "fortnight" => some { n with days := n.days + 14 * count }
  | "week" => some { n with days := n.days + 7 * count }
  | "day" => some { n with days := n.days + count }
  | "hour" => some { n with seconds := n.seconds + 3600 * count }
  | "minute" | "min" => some { n with seconds := n.seconds + 60 * count }
  | "second" | "sec" => some { n with seconds := n.seconds + count, parts := n.parts + fraction }
  | _ => none

def zone? (word : String) : Option Int :=
  [("utc", 0), ("gmt", 0), ("ut", 0), ("z", 0), ("wet", 0), ("cet", 1), ("met", 1), ("eet", 2),
    ("msk", 3), ("ist", 5), ("jst", 9), ("est", -5), ("edt", -4), ("cst", -6), ("cdt", -5),
    ("mst", -7), ("mdt", -6), ("pst", -8), ("pdt", -7), ("bst", 1), ("cest", 2),
    ("eest", 3)].lookup word |>.map fun (h : Int) => if word == "ist" then 19800 else 3600 * h

def zoneSeconds (negative : Bool) (digits : Octets) (minutes : Option Nat) : Int :=
  let n := natural digits
  let total : Nat := match minutes with
    | some m => n * 3600 + m * 60
    | none => if digits.length ≤ 2 then n * 3600 else n / 100 * 3600 + n % 100 * 60
  if negative then -(total : Int) else total

def fullYear (digits : Octets) : Int :=
  let n := natural digits
  if digits.length ≤ 2 then (if n < 69 then 2000 + n else 1900 + n : Nat) else n

def setDate? (n : Naming) (year : Option Int) (month day : Nat) : Option Naming :=
  if n.date.isSome then none else some { n with year := year.or n.year, date := some (month, day) }

def setTime? (n : Naming) (hour minute second part : Nat) : Option Naming :=
  if n.time.isSome || 24 < hour || 59 < minute || 60 < second then none
  else some { n with time := some (hour, minute, second, part) }

def half? (word : String) : Option Bool :=
  if word == "am" then some false else if word == "pm" then some true else none

def hourIn (half : Bool) (hour : Nat) : Option Nat :=
  if hour = 0 || 12 < hour then none
  else some (hour % 12 + if half then 12 else 0)

def closeTime? (n : Naming) (hour minute second part : Nat) :
    List Token → Option (Naming × List Token)
  | .word w :: rest =>
    match half? w with
    | some half => do
      let hour ← hourIn half hour
      return (← n.setTime? hour minute second part, rest)
    | none => do return (← n.setTime? hour minute second part, .word w :: rest)
  | .number (some negative) digits [] :: .sign ':' :: .number none minutes [] :: rest => do
    let n ← n.setTime? hour minute second part
    pure ({ n with ahead := some (zoneSeconds negative digits (some (natural minutes))) }, rest)
  | .number (some negative) digits [] :: rest => do
    let n ← n.setTime? hour minute second part
    pure ({ n with ahead := some (zoneSeconds negative digits none) }, rest)
  | rest => do return (← n.setTime? hour minute second part, rest)

/-- Turns a span around if the next word says that it lies in the past. -/
def backwards (old new : Naming) : List Token → Naming × List Token
  | .word "ago" :: rest =>
    let back (f : Naming → Int) : Int := f old - (f new - f old)
    ({ new with years := back years, months := back months, days := back days
                seconds := back seconds, parts := back parts }, rest)
  | .word "hence" :: rest => (new, rest)
  | rest => (new, rest)

/-- A span of so many units, where the next word is a unit. -/
def span? (n : Naming) (count fraction : Int) :
    List Token → Option (Naming × List Token)
  | .word unit :: rest => (n.plus? count fraction unit).map fun new => n.backwards new rest
  | _ => none

/-- A number that no other rule takes: a date or a time without signs, or a year. -/
def bareNumber? (n : Naming) (digits : Octets) : Option Naming :=
  let v := natural digits
  if n.date.isSome && n.year.isNone && !n.isRelative && (n.time.isSome || 2 < digits.length) then
    some { n with year := some v }
  else if 4 < digits.length then
    n.setDate? (some ((v / 10000 : Nat) : Int)) (v / 100 % 100) (v % 100)
  else if digits.length ≤ 2 then n.setTime? v 0 0 0
  else n.setTime? (v / 100) (v % 100) 0 0

def next? (n : Naming) : List Token → Option (Naming × List Token)
  | .number none h [] :: .sign ':' :: .number none m [] :: .sign ':' :: .number none s f :: rest =>
    n.closeTime? (natural h) (natural m) (natural s) (nanoseconds f) rest
  | .number none h [] :: .sign ':' :: .number none m [] :: rest =>
    n.closeTime? (natural h) (natural m) 0 0 rest
  | .number none y [] :: .number (some true) m [] :: .number (some true) d [] :: rest => do
    return (← n.setDate? (some (fullYear y)) (natural m) (natural d), rest)
  | .number none a [] :: .sign '/' :: .number none b [] :: .sign '/' :: .number none c [] :: rest =>
    if 4 ≤ a.length then do
      return (← n.setDate? (some (natural a)) (natural b) (natural c), rest)
    else do return (← n.setDate? (some (fullYear c)) (natural a) (natural b), rest)
  | .number none a [] :: .sign '/' :: .number none b [] :: rest => do
    return (← n.setDate? none (natural a) (natural b), rest)
  | .number none d [] :: .word w :: rest =>
    match month? w, half? w with
    | some month, _ => match rest with
      | .number (some true) y [] :: rest => do
        return (← n.setDate? (some (fullYear y)) month (natural d), rest)
      | .number none y [] :: .sign ':' :: more => do
        return (← n.setDate? none month (natural d), .number none y [] :: .sign ':' :: more)
      | .number none y [] :: rest =>
        if 2 < y.length then do
          return (← n.setDate? (some (natural y)) month (natural d), rest)
        else do return (← n.setDate? none month (natural d), .number none y [] :: rest)
      | rest => do return (← n.setDate? none month (natural d), rest)
    | none, some half => do
      let hour ← hourIn half (natural d)
      return (← n.setTime? hour 0 0 0, rest)
    | none, none =>
      match n.span? (natural d) 0 (.word w :: rest), weekday? w with
      | some found, _ => some found
      | none, some day =>
        if n.weekday.isSome then none else some ({ n with weekday := some (natural d, day) }, rest)
      | none, none => do return (← n.bareNumber? d, .word w :: rest)
  | .number sign digits fraction :: rest =>
    let back := sign == some true
    let signed (v : Nat) : Int := if back then -(v : Int) else v
    match n.span? (signed (natural digits)) (signed (nanoseconds fraction)) rest, sign with
    | some found, _ => some found
    | none, none => do return (← n.bareNumber? digits, rest)
    | none, some _ => none
  | .sign '@' :: .number sign digits fraction :: rest =>
    let part := nanoseconds fraction
    let whole : Int := natural digits
    let value : Int × Nat :=
      if sign == some true then if part = 0 then (-whole, 0) else (-whole - 1, Nat.pow 10 9 - part)
      else (whole, part)
    if rest.isEmpty then some ({ n with absolute := some value }, rest) else none
  | .sign ',' :: rest => some (n, rest)
  | .word w :: rest =>
    let relative (days : Int) : Option (Naming × List Token) :=
      let new := { n with days := n.days + days, isRelative := true }
      some (n.backwards new rest)
    if w == "now" || w == "today" then relative 0
    else if w == "tomorrow" then relative 1
    else if w == "yesterday" then relative (-1)
    else if w == "noon" then do return (← n.setTime? 12 0 0 0, rest)
    else if w == "midnight" then do return (← n.setTime? 0 0 0 0, rest)
    else if w == "t" then if rest.isEmpty then none else some (n, rest)
    else match month? w, weekday? w, zone? w, ordinal? w with
      | some month, _, _, _ => match rest with
        | .number (some true) d [] :: .number (some true) y [] :: rest => do
          return (← n.setDate? (some (fullYear y)) month (natural d), rest)
        | .number none d [] :: .sign ',' :: .number none y [] :: rest => do
          return (← n.setDate? (some (fullYear y)) month (natural d), rest)
        | .number none d [] :: rest => do return (← n.setDate? none month (natural d), rest)
        | _ => none
      | none, some day, _, _ =>
        if n.weekday.isSome then none else some ({ n with weekday := some (0, day) }, rest)
      | none, none, some ahead, _ =>
        if n.ahead.isSome then none
        else match rest with
          | .number (some back) digits [] :: rest' =>
            match n.span? 1 0 rest' with
            | some _ => some ({ n with ahead := some ahead }, rest)
            | none => some ({ n with ahead := some (ahead + zoneSeconds back digits none) }, rest')
          | _ => some ({ n with ahead := some ahead }, rest)
      | none, none, none, some count => match rest with
        | .word unit :: behind =>
          match n.span? count 0 rest, weekday? unit with
          | some found, _ => some found
          | none, some day =>
            if n.weekday.isSome then none else some ({ n with weekday := some (count, day) }, behind)
          | none, none => none
        | _ => none
      | none, none, none, none => n.span? 1 0 (.word w :: rest)
  | _ => none

def ofTokens? : Nat → Naming → List Token → Option Naming
  | _, n, [] => some n
  | 0, _, _ => none
  | fuel + 1, n, tokens => (n.next? tokens).bind fun (n, rest) => ofTokens? fuel n rest

def resolve? (n : Naming) (present : Moment) (setting : Option Octets) : Option (Int × Nat) :=
  match n.absolute with
  | some value => some value
  | none =>
    let own := present.day
    let year := n.year.getD own.year
    let (month, day) := n.date.getD (own.month, own.day)
    let keepsTime := n.isRelative && n.date.isNone && n.weekday.isNone
    let (hour, minute, second, part) := n.time.getD
      (if keepsTime then (present.hour, present.minute, present.second, present.nanoseconds)
        else (0, 0, 0, 0))
    let start := dayNumber year month day
    if month = 0 || 12 < month || dayOf start != ⟨year, month, day⟩ || 23 < hour || 59 < second then
      none
    else
      let turned := match n.weekday with
        | some (count, weekday) =>
          if n.date.isSome then start
          else
            let today := Int.fmod (start + 4) 7
            let ahead := Int.fmod ((weekday : Int) - today + 7) 7
            let further := if 0 < count && today != (weekday : Int) then count - 1 else count
            start + ahead + 7 * further
        | none => start
      let moved :=
        if n.years = 0 && n.months = 0 then turned
        else
          let begun := dayOf turned
          let months := begun.year * 12 + (begun.month - 1 : Nat) + 12 * n.years + n.months
          dayNumber (Int.fdiv months 12) ((Int.fmod months 12).toNat + 1) 1 + (begun.day - 1 : Nat)
      let shown : Int := (moved + n.days) * 86400 + hour * 3600 + minute * 60 + second
      let ahead := match n.ahead with
        | some ahead => ahead
        | none =>
          let clock := Clock.ofSetting setting
          (clock.reading (shown - clock.ahead)).1
      let total : Int := (shown - ahead + n.seconds) * Int.pow 10 9 + part + n.parts
      some (Int.fdiv total (Int.pow 10 9), (Int.fmod total (Int.pow 10 9)).toNat)

end Naming

def named? (setting : Option Octets) (present : Moment) (text : Octets) : Option Moment :=
  let tokens := Token.ofText (text.length + 1) text
  (Naming.ofTokens? (tokens.length + 1) {} tokens).bind fun n =>
    (n.resolve? present setting).map fun (seconds, part) =>
      { onClock setting seconds with nanoseconds := part }

end MediaPipeline.Moment
