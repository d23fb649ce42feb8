import Polyglot.Sandbox.Calendar
import Polyglot.Sandbox.CharClass

/-!
# Moments in words

Reading moments as people write them: `2024-05-06 07:08`, `1 May`, `next friday`, `3 days ago`,
`@86400`. A text is a row of items in any order, of which each says something about the day, the
time of day, the zone or the distance from now.
-/

namespace Polyglot.MomentText

inductive Token where
  /-- Digits, maybe with a sign and decimals. -/
  | number (sign? : Option Bool) (digits : List Char) (fraction? : Option (List Char))
  | word (text : String)
  | mark (c : Char)
deriving DecidableEq, Repr

def value (digits : List Char) : Nat :=
  digits.foldl (fun n d => 10 * n + (d.toNat - 48)) 0

/-- Skip what stands in parentheses. -/
def afterNote : (depth : Nat) → List Char → List Char
  | _, [] => []
  | depth, '(' :: rest => afterNote (depth + 1) rest
  | 0, cs => cs
  | 1, ')' :: rest => rest
  | depth + 1, ')' :: rest => afterNote depth rest
  | depth, _ :: rest => afterNote depth rest

/-- A number from its first digit on. -/
def readNumber (sign? : Option Bool) (cs : List Char) : Token × List Char :=
  let digits := cs.takeWhile Char.isDigit
  match cs.drop digits.length with
  | c :: d :: rest =>
    if (c == '.' || c == ',') && d.isDigit then
      let fraction := (d :: rest).takeWhile Char.isDigit
      (.number sign? digits (some fraction), (d :: rest).drop fraction.length)
    else (.number sign? digits none, c :: d :: rest)
  | rest => (.number sign? digits none, rest)

/-- The tokens of a text; a sign without a number means nothing. -/
def tokens : (fuel : Nat) → List Char → List Token
  | 0, _ => []
  | _, [] => []
  | fuel + 1, c :: rest =>
    if CharClass.isSpace c then tokens fuel rest
    else if c.isDigit then
      let (token, rest) := readNumber none (c :: rest)
      token :: tokens fuel rest
    else if c == '-' || c == '+' then
      let after := rest.dropWhile CharClass.isSpace
      if after.head?.any Char.isDigit then
        let (token, rest) := readNumber (some (c == '-')) after
        token :: tokens fuel rest
      else tokens fuel rest
    else if c.isAlpha then
      let isLetter (d : Char) := d.isAlpha || d == '.'
      let word := (c :: rest).takeWhile isLetter
      .word (String.ofList ((word.filter (· != '.')).map Char.toLower)) ::
        tokens fuel ((c :: rest).dropWhile isLetter)
    else if c == '(' then tokens fuel (afterNote 1 rest)
    else .mark c :: tokens fuel rest

/-! ## Words -/

/-- The place of a name in a list of names that may be cut to three letters. -/
def placeOf (names : List String) (word : String) : Option Nat :=
  names.findIdx? fun name =>
    name.toLower == word || (name.toLower.take 3).toString == word

def month? (word : String) : Option Nat :=
  if word == "sept" then some 9
  else (placeOf Calendar.monthNames word).map (· + 1)

def weekday? (word : String) : Option Nat :=
  match word with
  | "tues" => some 2
  | "wednes" => some 3
  | "thur" => some 4
  | "thurs" => some 4
  | word => placeOf Calendar.dayNames word

/-- A distance: months, days and seconds that are counted apart. -/
structure Distance where
  months : Int := 0
  days : Int := 0
  nanoseconds : Int := 0
deriving DecidableEq, Repr

def Distance.times (n : Int) (d : Distance) : Distance :=
  ⟨n * d.months, n * d.days, n * d.nanoseconds⟩

def Distance.plus (a b : Distance) : Distance :=
  ⟨a.months + b.months, a.days + b.days, a.nanoseconds + b.nanoseconds⟩

def unit? (word : String) : Option Distance :=
  let single := if word.endsWith "s" && 1 < word.length then (word.dropEnd 1).toString else word
  let seconds (n : Int) : Distance := { nanoseconds := n * Calendar.perSecond }
  match single with
  | "year" => some { months := 12 }
  | "month" => some { months := 1 }
  | "fortnight" => some { days := 14 }
  | "week" => some { days := 7 }
  | "day" => some { days := 1 }
  | "hour" => some (seconds 3600)
  | "minute" => some (seconds 60)
  | "min" => some (seconds 60)
  | "second" => some (seconds 1)
  | "sec" => some (seconds 1)
  | _ => none

/-- Words that count. -/
def ordinal? (word : String) : Option Int :=
  ([("last", -1), ("this", 0), ("next", 1), ("first", 1), ("third", 3), ("fourth", 4),
    ("fifth", 5), ("sixth", 6), ("seventh", 7), ("eighth", 8), ("ninth", 9), ("tenth", 10),
    ("eleventh", 11), ("twelfth", 12)] : List (String × Int)).lookup word

/-- How far a zone is ahead that is named by a letter, in hours. -/
def letterHours? (c : Char) : Option Int :=
  if 'a' ≤ c && c ≤ 'i' then some (c.toNat - 96 : Nat)
  else if 'k' ≤ c && c ≤ 'm' then some (c.toNat - 97 : Nat)
  else if 'n' ≤ c && c ≤ 'y' && c != 't' then some (-(c.toNat - 109 : Nat))
  else if c == 'z' then some 0
  else none

/-- How far a zone is ahead, in hours. -/
def zoneHours? (word : String) : Option Int :=
  match word.toList with
  | [c] => letterHours? c
  | _ =>
    ([("utc", 0), ("gmt", 0), ("ut", 0), ("wet", 0), ("west", 1), ("bst", 1), ("cet", 1),
      ("cest", 2), ("met", 1), ("mest", 2), ("eet", 2), ("eest", 3), ("msk", 3), ("est", -5),
      ("edt", -4), ("cst", -6), ("cdt", -5), ("mst", -7), ("mdt", -6), ("pst", -8), ("pdt", -7),
      ("jst", 9), ("sgt", 8)] : List (String × Int)).lookup word

/-! ## Items -/

/-- What has been read. -/
structure Reading where
  date? : Option (Option Int × Nat × Nat) := none
  dates : Nat := 0
  /-- The time of day, in nanoseconds. -/
  time? : Option Int := none
  times : Nat := 0
  /-- A day of the week, and how many of them to go on. -/
  day? : Option (Int × Nat) := none
  days : Nat := 0
  zone? : Option Int := none
  zones : Nat := 0
  distance? : Option Distance := none

def nanoseconds (fraction? : Option (List Char)) : Nat :=
  match fraction? with
  | none => 0
  | some digits =>
    let digits := digits.take 9
    value digits * Nat.pow 10 (9 - digits.length)

/-- A year that may be short. -/
def yearOf (digits : List Char) : Int :=
  let n := value digits
  if digits.length ≤ 2 then (if n < 69 then n + 2000 else n + 1900) else n

namespace Reading

def withDate (r : Reading) (year? : Option Int) (month day : Nat) : Reading :=
  { r with date? := some (year?, month, day), dates := r.dates + 1 }

def withTime (r : Reading) (hour minute : Nat) (second : Int) : Option Reading :=
  if 23 < hour || 59 < minute || 60 * Calendar.perSecond < second then none
  else
    let seconds : Int := hour * 3600 + minute * 60
    some { r with time? := some (seconds * Calendar.perSecond + second), times := r.times + 1 }

def withZone (r : Reading) (ahead : Int) : Reading :=
  { r with zone? := some ahead, zones := r.zones + 1 }

def move (r : Reading) (distance : Distance) : Reading :=
  { r with distance? := some ((r.distance?.getD {}).plus distance) }

/-- The hour on a clock with twelve of them. -/
def hourOf? (hour : Nat) (isAfternoon : Bool) : Option Nat :=
  if hour = 0 || 12 < hour then none
  else some (hour % 12 + if isAfternoon then 12 else 0)

/-- How far ahead a zone is that is written as digits, with the minutes behind a colon or not. -/
def offset (negative : Bool) (digits : List Char) (minutes? : Option (List Char)) : Int :=
  let n := value digits
  let seconds : Int := match minutes? with
    | some minutes => n * 3600 + value minutes * 60
    | none => if digits.length ≤ 2 then n * 3600 else (n / 100) * 3600 + n % 100 * 60
  if negative then -seconds else seconds

/-- What may follow a time of day: the half of the day, or a zone. -/
def finishTime (r : Reading) (hour minute : Nat) (second : Int) (ts : List Token) :
    Option (Reading × List Token) := do
  match ts with
  | .word "am" :: rest =>
    return (← r.withTime (← hourOf? hour false) minute second, rest)
  | .word "pm" :: rest =>
    return (← r.withTime (← hourOf? hour true) minute second, rest)
  | .number (some negative) digits none :: .mark ':' :: .number none minutes none :: rest =>
    return ((← r.withTime hour minute second).withZone (offset negative digits (some minutes)),
      rest)
  | .number (some negative) digits none :: rest =>
    return ((← r.withTime hour minute second).withZone (offset negative digits none), rest)
  | rest => return (← r.withTime hour minute second, rest)

/-- A number that stands alone. -/
def bare (r : Reading) (digits : List Char) : Option Reading :=
  let n := value digits
  match r.date? with
  | some (none, month, day) =>
    if r.distance?.isNone && (r.times != 0 || 2 < digits.length) then
      some { r with date? := some (some (yearOf digits), month, day) }
    else none
  | _ =>
    if 4 < digits.length then
      some (r.withDate (some (yearOf (digits.take (digits.length - 4)))) (n / 100 % 100) (n % 100))
    else if digits.length ≤ 2 then r.withTime n 0 0
    else r.withTime (n / 100) (n % 100) 0

/-- A distance may be turned back. -/
def relative (r : Reading) (count : Int) (distance : Distance) (ts : List Token) :
    Reading × List Token :=
  match ts with
  | .word "ago" :: rest => (r.move (distance.times (-count)), rest)
  | .word "hence" :: rest => (r.move (distance.times count), rest)
  | rest => (r.move (distance.times count), rest)

/-- A sign as a factor. -/
def signed (negative : Bool) (digits : List Char) : Int :=
  if negative then -(value digits : Int) else value digits

/-- Read an item that begins with a number. -/
def numberItem (r : Reading) (sign? : Option Bool) (digits : List Char)
    (fraction? : Option (List Char)) (ts : List Token) : Option (Reading × List Token) := do
  let n := value digits
  let count := signed (sign?.getD false) digits
  match sign?, fraction?, ts with
  | none, none, .mark ':' :: .number none minute none :: .mark ':' ::
      .number none second fraction? :: rest =>
    r.finishTime n (value minute) (value second * Calendar.perSecond + nanoseconds fraction?) rest
  | none, none, .mark ':' :: .number none minute none :: rest =>
    r.finishTime n (value minute) 0 rest
  | none, none, .word "am" :: _ => r.finishTime n 0 0 ts
  | none, none, .word "pm" :: _ => r.finishTime n 0 0 ts
  | none, none, .number (some true) month none :: .number (some true) day none :: rest =>
    let rest := match rest with
      | .word "t" :: rest => rest
      | rest => rest
    return (r.withDate (some (yearOf digits)) (value month) (value day), rest)
  | none, none, .mark '/' :: .number none b none :: .mark '/' :: .number none c none :: rest =>
    if 4 ≤ digits.length then
      return (r.withDate (some (n : Int)) (value b) (value c), rest)
    else return (r.withDate (some (yearOf c)) n (value b), rest)
  | none, none, .mark '/' :: .number none b none :: rest =>
    return (r.withDate none n (value b), rest)
  | _, none, .word word :: rest =>
    match month? word, unit? word, weekday? word with
    | some month, _, _ =>
      if sign?.isSome then none
      else match rest with
        | .number (some true) year none :: rest =>
          return (r.withDate (some (yearOf year)) month n, rest)
        | .number none year none :: rest =>
          match rest with
          | .mark ':' :: _ => return (r.withDate none month n, .number none year none :: rest)
          | _ => return (r.withDate (some (yearOf year)) month n, rest)
        | rest => return (r.withDate none month n, rest)
    | none, some distance, _ => return r.relative count distance rest
    | none, none, some day =>
      if sign?.isSome then none
      else return ({ r with day? := some (n, day), days := r.days + 1 }, rest)
    | none, none, none => if sign?.isSome then none else return (← r.bare digits, ts)
  | some negative, some fraction, .word word :: rest =>
    match unit? word with
    | some { months := 0, days := 0, nanoseconds := _ } =>
      let part : Int := nanoseconds (some fraction)
      let part := if negative then -part else part
      return r.relative 1 { nanoseconds := count * Calendar.perSecond + part } rest
    | _ => none
  | none, none, _ => return (← r.bare digits, ts)
  | _, _, _ => none

/-- Read an item that begins with a word. -/
def wordItem (r : Reading) (word : String) (ts : List Token) : Option (Reading × List Token) := do
  match word, ts with
  | "now", rest => return (r.move {}, rest)
  | "today", rest => return (r.move {}, rest)
  | "tomorrow", rest => return (r.move { days := 1 }, rest)
  | "yesterday", rest => return (r.move { days := -1 }, rest)
  | word, ts =>
    match month? word, weekday? word, unit? word, ordinal? word, zoneHours? word with
    | some month, _, _, _, _ =>
      match ts with
      | .number none day none :: .mark ',' :: .number none year none :: rest =>
        return (r.withDate (some (yearOf year)) month (value day), rest)
      | .number (some true) day none :: .number (some true) year none :: rest =>
        return (r.withDate (some (yearOf year)) month (value day), rest)
      | .number none day none :: rest => return (r.withDate none month (value day), rest)
      | _ => none
    | _, some day, _, _, _ =>
      let rest := match ts with
        | .mark ',' :: rest => rest
        | rest => rest
      return ({ r with day? := some (0, day), days := r.days + 1 }, rest)
    | _, _, some distance, _, _ => return r.relative 1 distance ts
    | _, _, _, some count, _ =>
      match ts with
      | .word word :: rest =>
        match unit? word, weekday? word with
        | some distance, _ => return r.relative count distance rest
        | none, some day => return ({ r with day? := some (count, day), days := r.days + 1 }, rest)
        | none, none => none
      | _ => none
    | _, _, _, _, some hours => return (r.withZone (hours * 3600), ts)
    | none, none, none, none, none => none

/-- Read all items. -/
def items : (fuel : Nat) → Reading → List Token → Option Reading
  | _, r, [] => some r
  | 0, _, _ => none
  | fuel + 1, r, token :: ts =>
    match token with
    | .number sign? digits fraction? =>
      (r.numberItem sign? digits fraction? ts).bind fun (r, ts) => items fuel r ts
    | .word word => (r.wordItem word ts).bind fun (r, ts) => items fuel r ts
    | .mark ',' => items fuel r ts
    | .mark _ => none

/-- The moment that a reading means, seen from now. -/
def moment? (r : Reading) (zone : TimeZone) (now : Int) : Option Int := do
  if [r.dates, r.times, r.days, r.zones].any (1 < ·) then none
  let zone := { zone with ahead := r.zone?.getD zone.ahead }
  let today := Civil.ofMoment zone now
  let (year, month, day) := match r.date? with
    | some (year?, month, day) => (year?.getD today.year, month, day)
    | none => (today.year, today.month, today.day)
  let keepsTime := r.time?.isNone && r.distance?.isSome && r.dates = 0 && r.days = 0
  let time := match r.time? with
    | some time => time
    | none => if keepsTime then now + zone.ahead * Calendar.perSecond -
        today.number * 86400 * Calendar.perSecond else 0
  let distance := r.distance?.getD {}
  let n := Calendar.dayNumber year month day
  if Calendar.ofDayNumber n != (year, month, day) then none
  let n := Calendar.dayNumber year (month + distance.months) day + distance.days
  let n := match r.day? with
    | some (count, day) =>
      if r.dates != 0 then n
      else
        let today := Calendar.weekday n
        let extra : Int := if 0 < count && today != day then 1 else 0
        n + ((day + 7 - today) % 7 : Nat) + 7 * (count - extra)
    | none => n
  return (n * 86400 - zone.ahead) * Calendar.perSecond + time + distance.nanoseconds

end Reading

/-- A moment as a count of seconds behind an at-sign. -/
def counted? : List Token → Option Int
  | [.mark '@', .number sign? digits fraction?] =>
    let n : Int := value digits * Calendar.perSecond + nanoseconds fraction?
    some (if sign? == some true then -n else n)
  | _ => none

/-- The moment that a text means, in nanoseconds since 1970. -/
def read? (zone : TimeZone) (now : Int) (text : String) : Option Int :=
  let ts := tokens (text.length + 1) text.toList
  match counted? ts with
  | some moment => some moment
  | none => (Reading.items (ts.length + 1) {} ts).bind fun r => r.moment? zone now

end Polyglot.MomentText
