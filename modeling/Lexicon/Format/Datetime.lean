import Lexicon.Text.Ascii
import Lexicon.Text.Utf8

/-!
# Lexicon.Format.Datetime

Timestamps with an explicit offset, as RFC 3339 writes them.

Date and time are divided by `T`, `t` or one space. The offset is `Z`, `z`, or
a signed `hh:mm`, where the sign may be U+2212 as well. A second 60 is a leap
second and is kept. Digits of the fraction beyond the ninth are read and
dropped.

## Main definitions

- `Datetime.parse`: reads a timestamp or says what is wrong with it first.
- `Datetime.toUtc`: the same instant with offset zero.
- `Datetime.text`: writes a timestamp in UTC.
-/

namespace Lexicon

/-- A local date and time, and its offset from UTC in minutes. -/
structure Datetime where
  year : Int
  month : Nat
  day : Nat
  hour : Nat
  minute : Nat
  /-- The second; 60 is a leap second. -/
  second : Nat
  nanosecond : Nat
  offset : Int
deriving DecidableEq, Repr

/-- Why a text is no timestamp. -/
inductive DatetimeError where
  | outOfRange
  | invalid
  | tooShort
  | tooLong
deriving DecidableEq, Repr

namespace DatetimeError

/-- The error in words. -/
def message : DatetimeError → String
  | outOfRange => "input is out of range"
  | invalid => "input contains invalid characters"
  | tooShort => "premature end of input"
  | tooLong => "trailing input"

end DatetimeError

namespace Datetime

/-! ### The calendar -/

/-- Whether the year has a leap day. -/
def isLeapYear (year : Int) : Bool :=
  year % 4 == 0 && (year % 100 != 0 || year % 400 == 0)

/-- The number of days of a month. -/
def daysInMonth (year : Int) (month : Nat) : Nat :=
  if month = 2 then (if isLeapYear year then 29 else 28)
  else if month = 4 ∨ month = 6 ∨ month = 9 ∨ month = 11 then 30
  else 31

/-- The number of days from 1 March of the year 0 to a date. The year is taken to start in
March, so that the leap day comes last. -/
def dayNumber (year : Int) (month day : Nat) : Int :=
  let year := if month ≤ 2 then year - 1 else year
  let month := if month ≤ 2 then month + 9 else month - 3
  365 * year + year / 4 - year / 100 + year / 400 + ((153 * month + 2) / 5 + day - 1 : Nat)

/-- The date of a day number. -/
def dateOfDayNumber (n : Int) : Int × Nat × Nat :=
  -- The calendar repeats after 400 years, which are one era.
  let era := n / 146097
  let dayOfEra := (n % 146097).toNat
  let yearOfEra := (dayOfEra - dayOfEra / 1460 + dayOfEra / 36524 - dayOfEra / 146096) / 365
  let dayOfYear := dayOfEra - (365 * yearOfEra + yearOfEra / 4 - yearOfEra / 100)
  let month := (5 * dayOfYear + 2) / 153
  let day := dayOfYear - (153 * month + 2) / 5 + 1
  let year := era * 400 + yearOfEra
  if month < 10 then (year, month + 3, day) else (year + 1, month - 9, day)

/-! ### Reading -/

/-- Exactly `count` digits within the given bounds. The text has to be long enough before its
characters are looked at. -/
def readDigits (count low high : Nat) (s : List Char) : Except DatetimeError (Nat × List Char) :=
  let digits := s.take count
  if Text.encodedLength s < count then .error .tooShort
  else if !(digits.all Text.isAsciiDigit) then .error .invalid
  else
    let n := digits.foldl (fun n c => n * 10 + (c.toNat - '0'.toNat)) 0
    if low ≤ n ∧ n ≤ high then .ok (n, s.drop count) else .error .outOfRange

/-- One of the given characters. -/
def readOneOf (allowed : List Char) (s : List Char) : Except DatetimeError (List Char) :=
  match s with
  | [] => .error .tooShort
  | c :: rest => if allowed.contains c then .ok rest else .error .invalid

/-- The fraction of a second in nanoseconds, when there is one. -/
def readFraction (s : List Char) : Except DatetimeError (Nat × List Char) :=
  match s with
  | '.' :: rest =>
    let digits := rest.takeWhile Text.isAsciiDigit
    if digits.isEmpty then
      .error (if rest.isEmpty then .tooShort else .invalid)
    else
      let nine := (digits ++ List.replicate 9 '0').take 9
      .ok (nine.foldl (fun n c => n * 10 + (c.toNat - '0'.toNat)) 0,
        rest.dropWhile Text.isAsciiDigit)
  | _ => .ok (0, s)

/-- The sign of an offset: whether it is negative. -/
def readSign (s : List Char) : Except DatetimeError (Bool × List Char) :=
  match s with
  | '+' :: rest => .ok (false, rest)
  | '-' :: rest => .ok (true, rest)
  | c :: rest => if c.toNat = 0x2212 then .ok (true, rest) else .error .invalid
  | [] => .error .tooShort

/-- The offset in minutes. Its hours are bounded last of all. -/
def readOffset (s : List Char) : Except DatetimeError (Int × List Char) :=
  match s with
  | 'Z' :: rest | 'z' :: rest => .ok (0, rest)
  | s => do
    let (negative, s) ← readSign s
    let (hours, s) ← readDigits 2 0 99 s
    let s ← readOneOf [':'] s
    let (minutes, s) ← readDigits 2 0 59 s
    if 23 < hours then .error .outOfRange
    else
      let offset : Int := hours * 60 + minutes
      return (if negative then -offset else offset, s)

/-- Reads a timestamp. The text is checked from the left; whether the month has the day is
checked last. -/
def parse (text : String) : Except DatetimeError Datetime := do
  let (year, s) ← readDigits 4 0 9999 text.toList
  let s ← readOneOf ['-'] s
  let (month, s) ← readDigits 2 1 12 s
  let s ← readOneOf ['-'] s
  let (day, s) ← readDigits 2 1 31 s
  let s ← readOneOf ['T', 't', ' '] s
  let (hour, s) ← readDigits 2 0 23 s
  let s ← readOneOf [':'] s
  let (minute, s) ← readDigits 2 0 59 s
  let s ← readOneOf [':'] s
  let (second, s) ← readDigits 2 0 60 s
  let (nanosecond, s) ← readFraction s
  let (offset, s) ← readOffset s
  if !s.isEmpty then .error .tooLong
  else if daysInMonth year month < day then .error .outOfRange
  else return { year, month, day, hour, minute, second, nanosecond, offset }

/-- Whether a text is a timestamp. -/
def isDatetime (text : String) : Bool := (parse text).isOk

/-! ### Writing -/

/-- The same instant with offset zero. Seconds stay as they are, since offsets are whole
minutes. -/
def toUtc (t : Datetime) : Datetime :=
  let minutes := dayNumber t.year t.month t.day * 1440 + t.hour * 60 + t.minute - t.offset
  let (year, month, day) := dateOfDayNumber (minutes / 1440)
  let minuteOfDay := (minutes % 1440).toNat
  { t with year, month, day, hour := minuteOfDay / 60, minute := minuteOfDay % 60, offset := 0 }

/-- A number with at least `width` digits. -/
def padded (width n : Nat) : String :=
  let digits := Nat.repr n
  String.ofList (List.replicate (width - digits.length) '0') ++ digits

/-- A year with four digits, and with its sign outside of the four-digit range. -/
def yearText (year : Int) : String :=
  if year < 0 then "-" ++ padded 4 (-year).toNat
  else if 9999 < year then "+" ++ padded 4 year.toNat
  else padded 4 year.toNat

/-- A fraction with no, three, six or nine digits, as many as it needs. -/
def fractionText (nanosecond : Nat) : String :=
  if nanosecond = 0 then ""
  else if nanosecond % 1000000 = 0 then "." ++ padded 3 (nanosecond / 1000000)
  else if nanosecond % 1000 = 0 then "." ++ padded 6 (nanosecond / 1000)
  else "." ++ padded 9 nanosecond

/-- The instant in UTC. -/
def text (t : Datetime) : String :=
  let u := t.toUtc
  yearText u.year ++ "-" ++ padded 2 u.month ++ "-" ++ padded 2 u.day ++ "T" ++
    padded 2 u.hour ++ ":" ++ padded 2 u.minute ++ ":" ++ padded 2 u.second ++
    fractionText u.nanosecond ++ "+00:00"

end Datetime

end Lexicon
