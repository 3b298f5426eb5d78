import ImportBoundary.Text.Basic

/-!
# Timestamps

A timestamp is a point in time to the nanosecond, with the distance of the local clock to universal
time. It is written and read in the format of the internet: date, the letter `T`, time, and `Z` or the
distance in hours and minutes. Reading is more generous than writing: any character may stand between
date and time, the fraction may have any number of digits, of which nine count, and a leap second is
taken for the last nanosecond before it.
-/

namespace ImportBoundary

/-! ### The calendar

The rules of the calendar are applied to all years alike, also to those before they were made.
-/

namespace Calendar

def isLeapYear (year : Nat) : Bool := year % 4 = 0 && (year % 100 ≠ 0 || year % 400 = 0)

/-- The number of days of a month; none if there is no such month. -/
def daysOfMonth (year month : Nat) : Nat :=
  if month = 0 ∨ 12 < month then 0
  else if month = 2 then if isLeapYear year then 29 else 28
  else if month = 4 ∨ month = 6 ∨ month = 9 ∨ month = 11 then 30
  else 31

def daysOfYear (year : Nat) : Nat := if isLeapYear year then 366 else 365

def isDate (year month day : Nat) : Bool := 1 ≤ day && day ≤ daysOfMonth year month

end Calendar

/-! ### Points in time

A timestamp carries the proofs that its parts are in bounds, so a date which is none cannot be written
down. Two timestamps are equal if their parts are, also if others stand for the same point in time.
-/

structure Timestamp where
  year : Nat
  month : Nat
  day : Nat
  hour : Nat
  minute : Nat
  second : Nat
  nanosecond : Nat
  /-- The minutes by which the local clock is ahead of universal time. -/
  offset : Int
  year_lt : year < 10000
  isDate : Calendar.isDate year month day
  hour_lt : hour < 24
  minute_lt : minute < 60
  second_lt : second < 60
  nanosecond_lt : nanosecond < 1000000000
  offset_lt : offset.natAbs < 24 * 60
deriving DecidableEq, Repr

namespace Timestamp

def epoch : Timestamp where
  year := 1970
  month := 1
  day := 1
  hour := 0
  minute := 0
  second := 0
  nanosecond := 0
  offset := 0
  year_lt := by decide
  isDate := by decide
  hour_lt := by decide
  minute_lt := by decide
  second_lt := by decide
  nanosecond_lt := by decide
  offset_lt := by decide

/-- The timestamp with the given parts, if there is one. -/
def ofParts? (date : Nat × Nat × Nat) (time : Nat × Nat × Nat) (nanosecond : Nat) (offset : Int) :
    Option Timestamp :=
  let (year, month, day) := date
  let (hour, minute, second) := time
  if h : year < 10000 ∧ Calendar.isDate year month day ∧ hour < 24 ∧ minute < 60 ∧ second < 60 ∧
      nanosecond < 1000000000 ∧ offset.natAbs < 24 * 60 then
    some {
      year, month, day, hour, minute, second, nanosecond, offset
      year_lt := h.1
      isDate := h.2.1
      hour_lt := h.2.2.1
      minute_lt := h.2.2.2.1
      second_lt := h.2.2.2.2.1
      nanosecond_lt := h.2.2.2.2.2.1
      offset_lt := h.2.2.2.2.2.2 }
  else none

/-! ### Points in time by their distance to the epoch

Days are counted off year by year and then month by month. Both counts are bounded by a number of steps
that reaches the last date there is.
-/

/-- The year of a day, and its place in the year, counted from the beginning of `year`. The days of
`years` years are looked at. -/
def yearOf (years year day : Nat) : Nat × Nat :=
  match years with
  | 0 => (year, day)
  | years + 1 =>
    if day < Calendar.daysOfYear year then (year, day)
    else yearOf years (year + 1) (day - Calendar.daysOfYear year)

/-- The month of a day of a year, and its place in the month, counted from the beginning of
`month`. -/
def monthOf (months year month day : Nat) : Nat × Nat :=
  match months with
  | 0 => (month, day)
  | months + 1 =>
    if day < Calendar.daysOfMonth year month then (month, day)
    else monthOf months year (month + 1) (day - Calendar.daysOfMonth year month)

/-- The point in time some seconds and nanoseconds behind the epoch, in universal time. -/
def ofEpoch? (seconds nanoseconds : Nat) : Option Timestamp :=
  let days := seconds / 86400
  let (year, dayOfYear) := yearOf 8030 1970 days
  let (month, day) := monthOf 11 year 1 dayOfYear
  let time := seconds % 86400
  ofParts? (year, month, day + 1) (time / 3600, time / 60 % 60, time % 60) nanoseconds 0

/-! ### Writing

Nothing is lost in writing a timestamp: the distance to universal time is written, and every digit of
the fraction that counts.
-/

/-- The digits of a fraction behind its point, without zeros at the end. -/
def fractionChars (nanosecond : Nat) : List Char :=
  if nanosecond = 0 then []
  else '.' :: ((Text.padded 9 nanosecond).reverse.dropWhile (· = '0')).reverse

def offsetChars (offset : Int) : List Char :=
  if offset = 0 then ['Z']
  else
    (if offset < 0 then '-' else '+') ::
      Text.padded 2 (offset.natAbs / 60) ++ ':' :: Text.padded 2 (offset.natAbs % 60)

def chars (t : Timestamp) : List Char :=
  Text.padded 4 t.year ++ '-' :: Text.padded 2 t.month ++ '-' :: Text.padded 2 t.day ++
    'T' :: Text.padded 2 t.hour ++ ':' :: Text.padded 2 t.minute ++ ':' :: Text.padded 2 t.second ++
    fractionChars t.nanosecond ++ offsetChars t.offset

def text (t : Timestamp) : String := String.ofList t.chars

/-! ### Reading

Each reader takes one part off a text. The whole has to be read, and its parts have to make a
timestamp.
-/

def readDate? (s : List Char) : Option ((Nat × Nat × Nat) × List Char) := do
  let (year, s) ← Text.readDigits? 4 s
  let s ← Text.expect? '-' s
  let (month, s) ← Text.readDigits? 2 s
  let s ← Text.expect? '-' s
  let (day, s) ← Text.readDigits? 2 s
  return ((year, month, day), s)

def readTime? (s : List Char) : Option ((Nat × Nat × Nat) × List Char) := do
  let (hour, s) ← Text.readDigits? 2 s
  let s ← Text.expect? ':' s
  let (minute, s) ← Text.readDigits? 2 s
  let s ← Text.expect? ':' s
  let (second, s) ← Text.readDigits? 2 s
  return ((hour, minute, second), s)

/-- The nanoseconds that the digits of a fraction stand for. -/
def nanosecondsOf (digits : List Char) : Nat :=
  let counted := digits.take 9
  counted.foldl (fun n c => n * 10 + Text.digitValue c) 0 * Nat.pow 10 (9 - counted.length)

def readFraction? : List Char → Option (Nat × List Char)
  | '.' :: s =>
    match s.takeWhile Char.isDigit with
    | [] => none
    | digits => some (nanosecondsOf digits, s.dropWhile Char.isDigit)
  | s => some (0, s)

def readOffset? : List Char → Option (Int × List Char)
  | [] => none
  | sign :: s =>
    if sign = 'Z' ∨ sign = 'z' then some (0, s)
    else if sign = '+' ∨ sign = '-' then do
      let (hour, s) ← Text.readDigits? 2 s
      let s ← Text.expect? ':' s
      let (minute, s) ← Text.readDigits? 2 s
      if 23 < hour ∨ 59 < minute then none
      let distance : Int := hour * 60 + minute
      return (if sign = '-' then -distance else distance, s)
    else none

/-- Whether a timestamp is in the last minute of a month in universal time, where a leap second may
be. -/
def mayLeap (t : Timestamp) : Bool :=
  let minutes : Int := t.hour * 60 + t.minute - t.offset
  -- The last minute of a day in universal time, which may be the day before or behind the local one.
  if minutes = -1 then t.day = 1
  else if minutes = 1439 then t.day = Calendar.daysOfMonth t.year t.month
  else minutes = 2879 && t.day + 1 = Calendar.daysOfMonth t.year t.month

def lastNanosecond : Nat := 999999999

def ofChars? (s : List Char) : Option Timestamp := do
  let (date, s) ← readDate? s
  let s ← match s with
    | separator :: s => if separator.toNat < 0x80 then some s else none
    | [] => none
  let ((hour, minute, second), s) ← readTime? s
  let (nanosecond, s) ← readFraction? s
  let (offset, s) ← readOffset? s
  if !s.isEmpty then none
  if second = 60 then
    (ofParts? date (hour, minute, 59) lastNanosecond offset).filter mayLeap
  else ofParts? date (hour, minute, second) nanosecond offset

def parse? (text : String) : Option Timestamp := ofChars? text.toList

end Timestamp

end ImportBoundary
