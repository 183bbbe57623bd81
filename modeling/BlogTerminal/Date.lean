import BlogTerminal.Text.Basic

/-!
Dates, moments of a day, and their written forms.
-/

namespace BlogTerminal

/-! ## Dates and moments

Dates of the proleptic Gregorian calendar and moments of a day. A moment is compared field by field,
from the year down; a leap second is the last second of its minute with a fraction of one second or
more.
-/

/-- A day of the calendar. -/
structure Date where
  year : Int
  month : Nat
  day : Nat
  deriving DecidableEq

namespace Date

/-- The year has a 29th of February. -/
def isLeap (year : Int) : Bool := year % 4 == 0 && (year % 100 != 0 || year % 400 == 0)

/-- The number of days of a month, and 0 for a month that does not exist. -/
def daysIn (year : Int) (month : Nat) : Nat :=
  match month with
  | 1 | 3 | 5 | 7 | 8 | 10 | 12 => 31
  | 4 | 6 | 9 | 11 => 30
  | 2 => if isLeap year then 29 else 28
  | _ => 0

/-- The day exists. -/
def isValid (date : Date) : Bool := 1 ≤ date.day && date.day ≤ daysIn date.year date.month

/-- The day after. -/
def next (date : Date) : Date :=
  if date.day < daysIn date.year date.month then { date with day := date.day + 1 }
  else if date.month < 12 then ⟨date.year, date.month + 1, 1⟩
  else ⟨date.year + 1, 1, 1⟩

/-- The day before. -/
def previous (date : Date) : Date :=
  if 1 < date.day then { date with day := date.day - 1 }
  else if 1 < date.month then ⟨date.year, date.month - 1, daysIn date.year (date.month - 1)⟩
  else ⟨date.year - 1, 12, 31⟩

/-- The number of days from the start of the year to the first of the month. -/
def daysBefore (year : Int) : (month : Nat) → Nat
  | 0 | 1 => 0
  | month + 2 => daysBefore year (month + 1) + daysIn year (month + 1)

/-- The number of days from the first day of the year 1 to the date. -/
def dayNumber (date : Date) : Int :=
  let years := date.year - 1
  365 * years + years / 4 - years / 100 + years / 400 + daysBefore date.year date.month +
    (date.day - 1 : Int)

end Date

/-- A moment of a day, in no particular time zone. -/
structure Moment where
  date : Date
  /-- Seconds since midnight. -/
  second : Nat
  /-- Nanoseconds since the start of the second, below two seconds. -/
  nano : Nat
  deriving DecidableEq

namespace Moment

/-- The fields by which moments are ordered. -/
def rank (moment : Moment) : List Int :=
  [moment.date.year, moment.date.month, moment.date.day, moment.second, moment.nano]

/-- The moment `minutes` earlier, for less than a day in either direction. The fraction stays. -/
def earlier (moment : Moment) (minutes : Int) : Moment :=
  let second := (moment.second : Int) - 60 * minutes
  if second < 0 then ⟨moment.date.previous, (second + 86400).toNat, moment.nano⟩
  else if second < 86400 then ⟨moment.date, second.toNat, moment.nano⟩
  else ⟨moment.date.next, (second - 86400).toNat, moment.nano⟩

end Moment

/-! ## Written forms

These are the short form of listings, the full form of a moment, and the clock of the `date`
command.
-/

/-- The digits of `n`, filled up with zeros to `width`. -/
def Text.zeroPadded (width n : Nat) : Text := (Text.ofNat n).leftpad width '0'

namespace Date

/-- A year with at least four digits; outside 0 to 9999 it has a sign. -/
def yearText (year : Int) : Text :=
  if year < 0 then '-' :: Text.zeroPadded 4 year.natAbs
  else if year ≤ 9999 then Text.zeroPadded 4 year.toNat
  else '+' :: Text.zeroPadded 4 year.toNat

/-- The English short name of a month. -/
def monthName (month : Nat) : Text :=
  match month with
  | 1 => "Jan" | 2 => "Feb" | 3 => "Mar" | 4 => "Apr" | 5 => "May" | 6 => "Jun"
  | 7 => "Jul" | 8 => "Aug" | 9 => "Sep" | 10 => "Oct" | 11 => "Nov" | _ => "Dec"

/-- The English short name of the day of the week. -/
def weekdayName (date : Date) : Text :=
  match date.dayNumber % 7 with
  | 0 => "Mon" | 1 => "Tue" | 2 => "Wed" | 3 => "Thu" | 4 => "Fri" | 5 => "Sat" | _ => "Sun"

/-- Month, day and year, the day in two places: `Jan  5 2024`. -/
def listed (date : Date) : Text :=
  monthName date.month ++ " " ++ (Text.ofNat date.day).leftpad 2 ' ' ++ " " ++ yearText date.year

/-- Year, month and day with dashes. -/
def dashed (date : Date) : Text :=
  yearText date.year ++ "-" ++ Text.zeroPadded 2 date.month ++ "-" ++ Text.zeroPadded 2 date.day

end Date

namespace Moment

/-- Hours, minutes and seconds with colons; a leap second is second 60. -/
def clockFace (moment : Moment) : Text :=
  Text.zeroPadded 2 (moment.second / 3600) ++ ":" ++
    Text.zeroPadded 2 (moment.second / 60 % 60) ++ ":" ++
    Text.zeroPadded 2 (moment.second % 60 + moment.nano / 1000000000)

/-- The fraction of the second in three, six or nine digits, the fewest that hold it. -/
def fraction (moment : Moment) : Text :=
  let nano := moment.nano % 1000000000
  if nano = 0 then []
  else if nano % 1000000 = 0 then '.' :: Text.zeroPadded 3 (nano / 1000000)
  else if nano % 1000 = 0 then '.' :: Text.zeroPadded 6 (nano / 1000)
  else '.' :: Text.zeroPadded 9 nano

/-- The date, a space, and the time of day. -/
def toText (moment : Moment) : Text :=
  moment.date.dashed ++ " " ++ moment.clockFace ++ moment.fraction

end Moment

/-- The reading of a wall clock. -/
structure Clock where
  /-- The local date and time. -/
  moment : Moment
  /-- The minutes by which the local zone is ahead of UTC. -/
  offset : Int

/-- The wall clock in words: `Fri Jan 05 2024 10:00:00 GMT+0000`. -/
def Clock.toText (clock : Clock) : Text :=
  let date := clock.moment.date
  let ahead := clock.offset.natAbs
  date.weekdayName ++ " " ++ Date.monthName date.month ++ " " ++ Text.zeroPadded 2 date.day ++
    " " ++ Date.yearText date.year ++ " " ++ clock.moment.clockFace ++ " GMT" ++
    (if clock.offset < 0 then ['-'] else ['+']) ++
    Text.zeroPadded 2 (ahead / 60) ++ Text.zeroPadded 2 (ahead % 60)

/-! ## Reading the date of a post

The date of a post is a plain date, an RFC 3339 stamp, which is moved to UTC, or a date and time
without a zone; the first of the three forms that fits decides.
-/

section

/-- A reader takes something from the front of a text and gives the rest. -/
abbrev Reading (α : Type) := StateT Text Option α

namespace Reading

/-- The number spelled by the decimal digits at the front: as many as there are, at most `most`,
and at least `least`. -/
def number (least most : Nat) : Reading Nat := fun text =>
  let digits := (text.take most).takeWhile Char.isDigit
  if digits.length < least then none
  else some ((Text.toNat? digits).getD 0, text.drop digits.length)

/-- A number of exactly two digits. -/
def twoDigits : Reading Nat := number 2 2

/-- A number of one or two digits, behind any blanks. -/
def oneOrTwoDigits : Reading Nat := fun text => number 1 2 text.trimStart

/-- One character of `choices`. -/
def oneOf (choices : Text) : Reading Char
  | c :: rest => if c ∈ choices then some (c, rest) else none
  | [] => none

/-- The value, if it is at most `limit`. -/
def atMost (limit value : Nat) : Reading Nat := if value ≤ limit then pure value else failure

/-- The value of the reader when it takes the whole text. -/
def all? {α : Type} (reader : Reading α) (text : Text) : Option α :=
  match reader text with
  | some (value, []) => some value
  | _ => none

end Reading

open Reading

/-- A year behind any blanks: one to four digits, or any number of digits behind a sign. -/
def Date.readYear : Reading Int := fun text =>
  match text.trimStart with
  | '-' :: rest => (number 1 rest.length rest).map fun (n, rest) => (-(n : Int), rest)
  | '+' :: rest => (number 1 rest.length rest).map fun (n, rest) => ((n : Int), rest)
  | rest => (number 1 4 rest).map fun (n, rest) => ((n : Int), rest)

/-- The years that a date can have. -/
def Date.yearInRange (year : Int) : Bool := -262143 ≤ year && year ≤ 262142

/-- The date, if it exists. -/
def Date.checked (date : Date) : Reading Date :=
  if Date.yearInRange date.year && date.isValid then pure date else failure

/-- A date with dashes between year, month and day. -/
def Date.read : Reading Date := do
  let year ← readYear
  let _ ← oneOf "-"
  let month ← oneOrTwoDigits
  let _ ← oneOf "-"
  let day ← oneOrTwoDigits
  checked ⟨year, month, day⟩

namespace Moment

/-- The moment at a time of day; second 60 is the leap second behind second 59. -/
def atTime (date : Date) (hour minute second nano : Nat) : Moment :=
  if second < 60 then ⟨date, 3600 * hour + 60 * minute + second, nano⟩
  else ⟨date, 3600 * hour + 60 * minute + 59, nano + 1000000000⟩

/-- The start of a day. -/
def midnight (date : Date) : Moment := ⟨date, 0, 0⟩

/-- A date, the letter `T` and a time of day without a fraction. -/
def readLocal : Reading Moment := do
  let date ← Date.read
  let _ ← oneOf "T"
  let hour ← oneOrTwoDigits >>= atMost 23
  let _ ← oneOf ":"
  let minute ← oneOrTwoDigits >>= atMost 59
  let _ ← oneOf ":"
  let second ← oneOrTwoDigits >>= atMost 60
  pure (atTime date hour minute second 0)

/-- The nanoseconds behind a point, where there is one. Digits behind the ninth are ignored. -/
def readFraction : Reading Nat := fun text =>
  match text with
  | '.' :: rest =>
    let digits := rest.takeWhile Char.isDigit
    if digits.isEmpty then none
    else some ((Text.toNat? ((digits ++ List.replicate 9 '0').take 9)).getD 0,
      rest.drop digits.length)
  | _ => some (0, text)

/-- The minutes by which a zone is ahead of UTC: `Z`, or a sign with hours and minutes. -/
def readOffset : Reading Int := do
  let sign ← oneOf "Zz+-−"
  if sign = 'Z' ∨ sign = 'z' then pure 0
  else
    let hours ← twoDigits >>= atMost 23
    let _ ← oneOf ":"
    let minutes ← twoDigits >>= atMost 59
    let offset : Int := 60 * hours + minutes
    pure (if sign = '+' then offset else -offset)

/-- An RFC 3339 stamp, as the moment in UTC. -/
def readStamp : Reading Moment := do
  let year ← number 4 4
  let _ ← oneOf "-"
  let month ← twoDigits
  let _ ← oneOf "-"
  let day ← twoDigits
  let _ ← oneOf "Tt "
  let hour ← twoDigits >>= atMost 23
  let _ ← oneOf ":"
  let minute ← twoDigits >>= atMost 59
  let _ ← oneOf ":"
  let second ← twoDigits >>= atMost 60
  let nano ← readFraction
  let offset ← readOffset
  let date ← Date.checked ⟨year, month, day⟩
  pure ((atTime date hour minute second nano).earlier offset)

/-- The moment that the date of a post denotes. Blanks around it do not matter. -/
def ofText? (text : Text) : Option Moment :=
  let text := text.trim
  (Date.read.all? text).map midnight <|> readStamp.all? text <|> readLocal.all? text

end Moment

end

end BlogTerminal
