import TwoStep.Text.Basic

/-!
# Instants

A point in time in UTC, kept as the fields of its date and time down to the
nanosecond.  `Instant.display` writes RFC 3339 with the fewest of 0, 3, 6 or 9
fraction digits that lose nothing.  `Instant.read` reads RFC 3339 leniently:
numbers may be short, blanks may stand between the parts, a blank may replace
the `T`, and any offset is converted to UTC.  The calendar ends some 262,000
years before and after the year zero, for a text as written and in UTC.

Offsets are applied through day numbers; a text that is already in UTC keeps
its fields as they are.
-/

namespace TwoStep

/-- A date and time in UTC.  `second` is at most 59; a leap second is a
nanosecond count of a thousand million or more. -/
structure Instant where
  year : Int
  month : Nat
  day : Nat
  hour : Nat
  minute : Nat
  second : Nat
  nano : Nat
  deriving DecidableEq, Repr

namespace Instant

def isLeapYear (y : Int) : Bool :=
  y % 4 == 0 && (y % 100 != 0 || y % 400 == 0)

def daysInMonth (y : Int) (m : Nat) : Nat :=
  if m = 2 then if isLeapYear y then 29 else 28
  else if m = 4 ∨ m = 6 ∨ m = 9 ∨ m = 11 then 30
  else 31

/-- Whether the fields name a day of the calendar and a time of that day. -/
def isValid (t : Instant) : Bool :=
  1 ≤ t.month && t.month ≤ 12 && 1 ≤ t.day && t.day ≤ daysInMonth t.year t.month &&
    t.hour ≤ 23 && t.minute ≤ 59 && t.second ≤ 59 && t.nano < 2000000000

/-- The number of a day, counted from the first of March of the year zero. -/
def dayNumber (y : Int) (m d : Nat) : Int :=
  let y' := if m ≤ 2 then y - 1 else y
  let era := y'.fdiv 400
  let yearOfEra := y' - era * 400
  let dayOfYear : Int := (153 * ((m + 9) % 12) + 2) / 5 + d - 1
  era * 146097 + yearOfEra * 365 + yearOfEra / 4 - yearOfEra / 100 + dayOfYear

def ofDayNumber (n : Int) : Int × Nat × Nat :=
  let era := n.fdiv 146097
  let dayOfEra := n - era * 146097
  let yearOfEra :=
    (dayOfEra - dayOfEra / 1460 + dayOfEra / 36524 - dayOfEra / 146096) / 365
  let dayOfYear := dayOfEra - (365 * yearOfEra + yearOfEra / 4 - yearOfEra / 100)
  let mp := (5 * dayOfYear + 2) / 153
  let d := (dayOfYear - (153 * mp + 2) / 5 + 1).toNat
  let m := (if mp < 10 then mp + 3 else mp - 9).toNat
  let y := yearOfEra + era * 400
  (if m ≤ 2 then y + 1 else y, m, d)

def minusMinutes (t : Instant) (minutes : Int) : Instant :=
  if minutes = 0 then t
  else
    let ofDay : Int := t.hour * 60 + t.minute - minutes
    let (y, m, d) := ofDayNumber (dayNumber t.year t.month t.day + ofDay.fdiv 1440)
    let rest := (ofDay.fmod 1440).toNat
    { t with year := y, month := m, day := d, hour := rest / 60, minute := rest % 60 }

def epochDay : Int := 719468

/-- The instant that many nanoseconds after the start of the year 1970. -/
def ofNanoseconds (n : Int) : Instant :=
  let seconds := n.fdiv 1000000000
  let (year, month, day) := ofDayNumber (epochDay + seconds.fdiv 86400)
  let rest := (seconds.fmod 86400).toNat
  { year, month, day
    hour := rest / 3600
    minute := rest / 60 % 60
    second := rest % 60
    nano := (n.fmod 1000000000).toNat }

/-! ## Writing -/

def padded (width n : Nat) : List Char :=
  let ds := Nat.toDigits 10 n
  List.replicate (width - ds.length) '0' ++ ds

/-- A year has four digits, or a sign and at least five characters outside
the years 0 to 9999. -/
def yearText (y : Int) : List Char :=
  if 0 ≤ y ∧ y ≤ 9999 then padded 4 y.toNat
  else if y < 0 then '-' :: padded 4 y.natAbs
  else '+' :: padded 4 y.natAbs

/-- The fraction of a second with the fewest of 0, 3, 6 or 9 digits. -/
def fractionText (nano : Nat) : List Char :=
  if nano = 0 then []
  else if nano % 1000000 = 0 then '.' :: padded 3 (nano / 1000000)
  else if nano % 1000 = 0 then '.' :: padded 6 (nano / 1000)
  else '.' :: padded 9 nano

/-- The RFC 3339 form. -/
def display (t : Instant) : String :=
  let leap := t.nano / 1000000000
  String.ofList (
    yearText t.year ++ '-' :: padded 2 t.month ++ '-' :: padded 2 t.day ++
    'T' :: padded 2 t.hour ++ ':' :: padded 2 t.minute ++ ':' :: padded 2 (t.second + leap) ++
    fractionText (t.nano % 1000000000) ++ ['Z'])

/-! ## Reading -/

/-- Takes digits off the front, at most `limit` of them, and returns their
value, their count and the rest. -/
def takeDigits : Nat → Nat → Nat → List Char → Nat × Nat × List Char
  | 0, acc, count, cs => (acc, count, cs)
  | limit + 1, acc, count, c :: cs =>
    if '0' ≤ c && c ≤ '9' then takeDigits limit (10 * acc + (c.toNat - 48)) (count + 1) cs
    else (acc, count, c :: cs)
  | _ + 1, acc, count, [] => (acc, count, [])

/-- A number of one to `width` digits, with blanks in front. -/
def readNumber (width : Nat) (cs : List Char) : Option (Nat × List Char) :=
  match takeDigits width 0 0 (Text.trimStart cs) with
  | (_, 0, _) => none
  | (n, _, rest) => some (n, rest)

/-- A year: up to four digits, or a sign and any number of digits. -/
def readYear (cs : List Char) : Option (Int × List Char) :=
  match Text.trimStart cs with
  | '-' :: rest =>
    match takeDigits rest.length 0 0 rest with
    | (_, 0, _) => none
    | (n, _, rest) => some (-n, rest)
  | '+' :: rest =>
    match takeDigits rest.length 0 0 rest with
    | (_, 0, _) => none
    | (n, _, rest) => some (n, rest)
  | rest =>
    match takeDigits 4 0 0 rest with
    | (_, 0, _) => none
    | (n, _, rest) => some (n, rest)

/-- A given character, with blanks in front. -/
def readMark (mark : Char) (cs : List Char) : Option (List Char) :=
  match Text.trimStart cs with
  | c :: rest => if c = mark then some rest else none
  | [] => none

/-- A fraction of a second in nanoseconds; digits beyond the ninth are
dropped. -/
def readFraction : List Char → Option (Nat × List Char)
  | '.' :: cs =>
    match takeDigits 9 0 0 cs with
    | (_, 0, _) => none
    | (n, count, rest) =>
      some (n * Nat.pow 10 (9 - count), rest.dropWhile fun c => '0' ≤ c && c ≤ '9')
  | cs => some (0, cs)

def readTwo : List Char → Option (Nat × List Char)
  | a :: b :: rest =>
    if ('0' ≤ a && a ≤ '9') && ('0' ≤ b && b ≤ '9') then
      some ((a.toNat - 48) * 10 + (b.toNat - 48), rest)
    else none
  | _ => none

/-- An offset from UTC in minutes: `Z`, `UTC`, or a sign, two digits of hours,
an optional colon or blanks, and two digits of minutes. -/
def readOffset (cs : List Char) : Option (Int × List Char) :=
  match Text.trimStart cs with
  | 'Z' :: rest => some (0, rest)
  | 'z' :: rest => some (0, rest)
  | a :: rest =>
    if (String.ofList ((a :: rest).take 3)).toLower = "utc" then some (0, rest.drop 2)
    else
      let sign? : Option Int :=
        if a = '+' then some 1 else if a = '-' ∨ a = '−' then some (-1) else none
      match sign?, readTwo rest with
      | some sign, some (h, rest) =>
        match readTwo (rest.dropWhile fun c => c = ':' || Text.isBlank c) with
        | some (m, rest) =>
          if m ≤ 59 then some (sign * (h * 60 + m), rest) else none
        | none => none
      | _, _ => none
  | [] => none

/-- The first and the last year that a calendar date may have. -/
def firstYear : Int := -262143

@[inherit_doc firstYear]
def lastYear : Int := 262142

def inCalendar (t : Instant) : Bool :=
  firstYear ≤ t.year && t.year ≤ lastYear

def read (s : String) : Option Instant := do
  let (year, cs) ← readYear s.toList
  let cs ← readMark '-' cs
  let (month, cs) ← readNumber 2 cs
  let cs ← readMark '-' cs
  let (day, cs) ← readNumber 2 cs
  let cs ← match cs with
    | c :: rest => if c = 'T' ∨ c = 't' ∨ c = ' ' then some rest else none
    | [] => none
  let (hour, cs) ← readNumber 2 cs
  let cs ← readMark ':' cs
  let (minute, cs) ← readNumber 2 cs
  let cs ← readMark ':' cs
  let (second, cs) ← readNumber 2 cs
  let (nano, cs) ← readFraction cs
  let (offset, cs) ← readOffset cs
  let leap := second == 60
  let t : Instant := {
    year, month, day, hour, minute
    second := if leap then 59 else second
    nano := if leap then nano + 1000000000 else nano }
  let utc := t.minusMinutes offset
  if (Text.trimStart cs).isEmpty && t.isValid && -1440 < offset && offset < 1440 &&
      t.inCalendar && utc.inCalendar then
    some utc
  else none

end Instant

end TwoStep
