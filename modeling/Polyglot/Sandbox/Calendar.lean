/-!
# Calendar

Days and times of day, and what a moment is called in formats that begin with percent signs. Years
are those of the calendar that is used everywhere today, however far back, and clocks show the time
of a zone that is a fixed number of seconds ahead of the universal one.
-/

namespace Polyglot

/-- A zone of time: how far it is ahead, in seconds, and its name. -/
structure TimeZone where
  ahead : Int := 0
  name : String := "UTC"
deriving DecidableEq, Repr

/-- A day and a time of day. -/
structure Civil where
  year : Int
  month : Nat
  day : Nat
  hour : Nat := 0
  minute : Nat := 0
  second : Nat := 0
  nanosecond : Nat := 0
deriving DecidableEq, Repr

namespace Calendar

def perSecond : Int := 1000000000

/-- How many days a day comes after the first of 1970. Months and days may be out of range. -/
def dayNumber (year : Int) (month : Int) (day : Int) : Int :=
  let year := year + Int.fdiv (month - 1) 12
  let month := Int.fmod (month - 1) 12 + 1
  let y := if month ≤ 2 then year - 1 else year
  let era := Int.fdiv y 400
  let yearOfEra := y - era * 400
  let shifted := if month > 2 then month - 3 else month + 9
  let dayOfYear := Int.fdiv (153 * shifted + 2) 5 + day - 1
  let dayOfEra := yearOfEra * 365 + Int.fdiv yearOfEra 4 - Int.fdiv yearOfEra 100 + dayOfYear
  era * 146097 + dayOfEra - 719468

/-- The year, the month and the day of a day's number. -/
def ofDayNumber (n : Int) : Int × Nat × Nat :=
  let n := n + 719468
  let era := Int.fdiv n 146097
  let dayOfEra := n - era * 146097
  let yearOfEra := Int.fdiv (dayOfEra - Int.fdiv dayOfEra 1460 + Int.fdiv dayOfEra 36524 -
    Int.fdiv dayOfEra 146096) 365
  let dayOfYear := dayOfEra -
    (365 * yearOfEra + Int.fdiv yearOfEra 4 - Int.fdiv yearOfEra 100)
  let shifted := Int.fdiv (5 * dayOfYear + 2) 153
  let day := dayOfYear - Int.fdiv (153 * shifted + 2) 5 + 1
  let month := if shifted < 10 then shifted + 3 else shifted - 9
  let year := yearOfEra + era * 400
  (if month ≤ 2 then year + 1 else year, month.toNat, day.toNat)

/-- The day of the week, from zero for Sunday. -/
def weekday (n : Int) : Nat :=
  (Int.fmod (n + 4) 7).toNat

def isLeap (year : Int) : Bool :=
  Int.fmod year 4 == 0 && (Int.fmod year 100 != 0 || Int.fmod year 400 == 0)

def monthNames : List String :=
  ["January", "February", "March", "April", "May", "June", "July", "August", "September",
    "October", "November", "December"]

def dayNames : List String :=
  ["Sunday", "Monday", "Tuesday", "Wednesday", "Thursday", "Friday", "Saturday"]

end Calendar

namespace Civil

open Calendar

/-- The day and the time of day at a moment, which is given in nanoseconds since 1970. -/
def ofMoment (zone : TimeZone) (moment : Int) : Civil :=
  let seconds := Int.fdiv moment perSecond + zone.ahead
  let n := Int.fdiv seconds 86400
  let rest := (seconds - n * 86400).toNat
  let (year, month, day) := ofDayNumber n
  { year, month, day
    hour := rest / 3600
    minute := rest / 60 % 60
    second := rest % 60
    nanosecond := (Int.fmod moment perSecond).toNat }

def number (c : Civil) : Int :=
  dayNumber c.year c.month c.day

/-- The moment of a day and a time of day. -/
def toMoment (zone : TimeZone) (c : Civil) : Int :=
  let seconds := c.number * 86400 + c.hour * 3600 + c.minute * 60 + c.second - zone.ahead
  seconds * perSecond + c.nanosecond

/-- The days of the year before a day. -/
def dayOfYear (c : Civil) : Nat :=
  (c.number - dayNumber c.year 1 1).toNat

def weekday (c : Civil) : Nat :=
  Calendar.weekday c.number

/-- The week of the year, of which the first begins on a certain day of the week. -/
def week (c : Civil) (begins : Nat) : Nat :=
  (c.dayOfYear + 7 - (c.weekday + 7 - begins) % 7) / 7

/-- The week and the year to which it belongs if weeks begin on Monday and belong where most of
their days are. -/
def weekOfMostDays (c : Civil) : Int × Nat :=
  let thursday := c.number - ((c.weekday + 6) % 7 : Nat) + 3
  let (year, _, _) := ofDayNumber thursday
  (year, ((thursday - dayNumber year 1 1).toNat) / 7 + 1)

/-- The hour on a clock with twelve of them. -/
def hourOfTwelve (c : Civil) : Nat :=
  if c.hour % 12 = 0 then 12 else c.hour % 12

end Civil

/-! ## Formats -/

/-- How one part of a moment is to be written. -/
structure MomentPart where
  /-- What fills the width: a zero, a blank or nothing. -/
  pad? : Option Char := none
  width? : Option Nat := none
  upper : Bool := false
  /-- The case of letters is turned round. -/
  turned : Bool := false
  /-- Long years have a sign. -/
  signed : Bool := false
  colons : Nat := 0

namespace MomentPart

/-- A number with the digits that it has at least, and with what fills them up. -/
def number (part : MomentPart) (digits : Nat) (fill : Char) (n : Int) : List Char :=
  let shown := Nat.toDigits 10 n.natAbs
  let pad := part.pad?.getD fill
  let width := part.width?.getD digits
  let width := if pad == '-' then 0 else width
  let sign := if n < 0 then ['-'] else if part.signed && digits < shown.length then ['+'] else []
  let missing := width - (shown.length + sign.length)
  if pad == ' ' || pad == '_' then List.replicate missing ' ' ++ sign ++ shown
  else sign ++ List.replicate missing '0' ++ shown

/-- A text, in the case that is asked for. -/
def text (part : MomentPart) (text : String) : List Char :=
  let cs := text.toList
  let cs := if part.upper then cs.map Char.toUpper else cs
  let width := part.width?.getD 0
  let pad := if part.pad? == some '0' then '0' else ' '
  List.replicate (width - cs.length) pad ++ cs

/-- How far a zone is ahead, with as many colons as asked for. -/
def offset (part : MomentPart) (ahead : Int) : List Char :=
  let n := ahead.natAbs
  let two (n : Nat) : List Char := [Char.ofNat (48 + n / 10 % 10), Char.ofNat (48 + n % 10)]
  let (hour, minute, second) := (n / 3600, n / 60 % 60, n % 60)
  let body := match part.colons with
    | 0 => two hour ++ two minute
    | 1 => two hour ++ ':' :: two minute
    | 2 => two hour ++ ':' :: two minute ++ ':' :: two second
    | _ =>
      two hour ++ (if minute = 0 && second = 0 then [] else ':' :: two minute) ++
        (if second = 0 then [] else ':' :: two second)
  let sign := if ahead < 0 then '-' else '+'
  let missing := part.width?.getD 0 - (body.length + 1)
  match part.pad? with
  | some '_' => List.replicate missing ' ' ++ sign :: body
  | some '-' => sign :: body
  | _ => sign :: (List.replicate missing '0' ++ body)

end MomentPart

namespace Calendar

/-- Letters that stand for several parts. -/
def compound? : Char → Option String
  | 'c' => some "%a %b %e %H:%M:%S %Y"
  | 'D' => some "%m/%d/%y"
  | 'x' => some "%m/%d/%y"
  | 'F' => some "%Y-%m-%d"
  | 'r' => some "%I:%M:%S %p"
  | 'R' => some "%H:%M"
  | 'T' => some "%H:%M:%S"
  | 'X' => some "%H:%M:%S"
  | _ => none

/-- One part of a moment by its letter. -/
def part? (zone : TimeZone) (moment : Int) (c : Civil) (part : MomentPart) :
    Char → Option (List Char)
  | 'a' => some (part.text (((dayNames[c.weekday]?).getD "").take 3).toString)
  | 'A' => some (part.text ((dayNames[c.weekday]?).getD ""))
  | 'b' => some (part.text (((monthNames[c.month - 1]?).getD "").take 3).toString)
  | 'h' => some (part.text (((monthNames[c.month - 1]?).getD "").take 3).toString)
  | 'B' => some (part.text ((monthNames[c.month - 1]?).getD ""))
  | 'C' => some (part.number 2 '0' (Int.fdiv c.year 100))
  | 'd' => some (part.number 2 '0' c.day)
  | 'e' => some (part.number 2 ' ' c.day)
  | 'g' => some (part.number 2 '0' (Int.fmod c.weekOfMostDays.1 100))
  | 'G' => some (part.number 4 '0' c.weekOfMostDays.1)
  | 'H' => some (part.number 2 '0' c.hour)
  | 'I' => some (part.number 2 '0' c.hourOfTwelve)
  | 'j' => some (part.number 3 '0' (c.dayOfYear + 1))
  | 'k' => some (part.number 2 ' ' c.hour)
  | 'l' => some (part.number 2 ' ' c.hourOfTwelve)
  | 'm' => some (part.number 2 '0' c.month)
  | 'M' => some (part.number 2 '0' c.minute)
  | 'n' => some ['\n']
  | 'N' =>
    let digits := part.width?.getD 9
    let shown := Nat.toDigits 10 c.nanosecond
    let shown := List.replicate (9 - shown.length) '0' ++ shown
    some (shown.take digits ++ List.replicate (digits - 9) '0')
  | 'p' =>
    let word := if c.hour < 12 then "AM" else "PM"
    some (if part.turned then { part with upper := false }.text word.toLower else part.text word)
  | 'P' => some (part.text (if c.hour < 12 then "am" else "pm"))
  | 'q' => some (part.number 1 '0' ((c.month - 1) / 3 + 1))
  | 's' => some (part.number 1 '0' (Int.fdiv moment perSecond))
  | 'S' => some (part.number 2 '0' c.second)
  | 't' => some ['\t']
  | 'u' => some (part.number 1 '0' ((c.weekday + 6) % 7 + 1))
  | 'U' => some (part.number 2 '0' (c.week 0))
  | 'V' => some (part.number 2 '0' c.weekOfMostDays.2)
  | 'w' => some (part.number 1 '0' c.weekday)
  | 'W' => some (part.number 2 '0' (c.week 1))
  | 'y' => some (part.number 2 '0' (Int.fmod c.year 100))
  | 'Y' => some (part.number 4 '0' c.year)
  | 'z' => some (part.offset zone.ahead)
  | 'Z' => some (if part.turned then { part with upper := false }.text zone.name.toLower
    else part.text zone.name)
  | '%' => some ['%']
  | _ => none

/-- Flags before a part. -/
def readFlags (part : MomentPart) : List Char → MomentPart × List Char
  | '_' :: rest => readFlags { part with pad? := some '_' } rest
  | '-' :: rest => readFlags { part with pad? := some '-' } rest
  | '0' :: rest => readFlags { part with pad? := some '0' } rest
  | '+' :: rest => readFlags { part with pad? := some '0', signed := true } rest
  | '^' :: rest => readFlags { part with upper := true } rest
  | '#' :: rest => readFlags { part with upper := true, turned := true } rest
  | rest => (part, rest)

/-- A moment as a format lays it out. What is no part stands for itself. -/
def format (zone : TimeZone) (moment : Int) (c : Civil) :
    (fuel : Nat) → List Char → List Char
  | 0, _ => []
  | _, [] => []
  | fuel + 1, '%' :: cs =>
    let (part, rest) := readFlags {} cs
    let digits := rest.takeWhile Char.isDigit
    let rest := rest.drop digits.length
    let width? := if digits.isEmpty then none
      else some (digits.foldl (fun n d => 10 * n + (d.toNat - 48)) 0)
    let colons := (rest.takeWhile (· == ':')).length
    let rest := rest.drop colons
    let rest := match rest with
      | 'E' :: rest => rest
      | 'O' :: rest => rest
      | rest => rest
    let part := { part with width?, colons }
    match rest with
    | [] => '%' :: cs
    | letter :: rest =>
      let shown := match compound? letter with
        | some inner =>
          some (part.text (String.ofList (format zone moment c fuel inner.toList)))
        | none => part? zone moment c part letter
      match shown with
      | some shown => shown ++ format zone moment c fuel rest
      | none =>
        '%' :: cs.take (cs.length - rest.length) ++ format zone moment c fuel rest
  | fuel + 1, c' :: rest => c' :: format zone moment c fuel rest

/-- A moment in nanoseconds since 1970 as a format lays it out. -/
def formatted (zone : TimeZone) (moment : Int) (text : String) : String :=
  String.ofList
    (format zone moment (Civil.ofMoment zone moment) (text.length + 40) text.toList)

end Calendar

end Polyglot
