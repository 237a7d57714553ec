import OneTable.Number.Integer

/-!
# Dates, times of day and instants

The calendar is the proleptic Gregorian one with a year zero, over the years
`-262143` to `262142`. A time of day has nanoseconds and admits the second `60`, a
leap second, in every minute. Both types carry the proof that their fields are in
range, so that a value of the type is always a day of the calendar.

* `OneTable.Date`, `OneTable.Time`, `OneTable.DateTime` – the types;
* `OneTable.Date.of?`, `OneTable.Time.of?` – the checked constructors;
* `OneTable.Date.text`, `OneTable.DateTime.text` – their texts.
-/

namespace OneTable

/-! ### Days of the calendar -/

/-- A year with a 29th of February. -/
def isLeapYear (year : Int) : Bool :=
  year % 4 == 0 && (year % 100 != 0 || year % 400 == 0)

/-- The number of days of a month, which is zero when there is no such month. -/
def daysInMonth (year : Int) (month : Nat) : Nat :=
  match month with
  | 1 | 3 | 5 | 7 | 8 | 10 | 12 => 31
  | 4 | 6 | 9 | 11 => 30
  | 2 => if isLeapYear year then 29 else 28
  | _ => 0

/-- The three numbers name a day of the calendar. -/
abbrev IsDay (year : Int) (month day : Nat) : Prop :=
  -262143 ≤ year ∧ year ≤ 262142 ∧ 1 ≤ day ∧ day ≤ daysInMonth year month

/-- A day of the calendar. -/
structure Date where
  year : Int
  month : Nat
  day : Nat
  isDay : IsDay year month day
deriving DecidableEq

/-- The day that three numbers name, if they name one. -/
def Date.of? (year : Int) (month day : Nat) : Option Date :=
  if h : IsDay year month day then some ⟨year, month, day, h⟩ else none

@[simp]
theorem Date.of?_self (d : Date) : Date.of? d.year d.month d.day = some d := by
  exact dif_pos d.isDay

/-! ### Times of day -/

/-- The four numbers name a time of day. -/
abbrev IsTime (hour minute second nanosecond : Nat) : Prop :=
  hour < 24 ∧ minute < 60 ∧ second ≤ 60 ∧ nanosecond < Nat.pow 10 9

/-- A time of day. The second `60` is a leap second. -/
structure Time where
  hour : Nat
  minute : Nat
  second : Nat
  nanosecond : Nat
  isTime : IsTime hour minute second nanosecond
deriving DecidableEq

/-- The time that four numbers name, if they name one. -/
def Time.of? (hour minute second nanosecond : Nat) : Option Time :=
  if h : IsTime hour minute second nanosecond then some ⟨hour, minute, second, nanosecond, h⟩
  else none

@[simp]
theorem Time.of?_self (t : Time) : Time.of? t.hour t.minute t.second t.nanosecond = some t := by
  exact dif_pos t.isTime

/-- The first instant of a day. -/
def Time.midnight : Time := ⟨0, 0, 0, 0, by decide⟩

/-- A time on a day. -/
structure DateTime where
  date : Date
  time : Time
deriving DecidableEq

/-- The first instant of a day. -/
def Date.atMidnight (d : Date) : DateTime := ⟨d, Time.midnight⟩

/-! ### Texts -/

/-- A number with zeros in front up to a width. -/
def padded (width n : Nat) : List Char :=
  let ds := decimalDigits n
  List.replicate (width - ds.length) '0' ++ ds

/-- A year in four digits; outside `0` to `9999` it has its sign in front. -/
def yearText (year : Int) : List Char :=
  if year < 0 then '-' :: padded 4 year.natAbs
  else if 9999 < year then '+' :: padded 4 year.natAbs
  else padded 4 year.natAbs

/-- A day as year, month and day with dashes. -/
def Date.text (d : Date) : List Char :=
  yearText d.year ++ '-' :: (padded 2 d.month ++ '-' :: padded 2 d.day)

/-- A time as hour, minute and second with colons. -/
def Time.text (t : Time) : List Char :=
  padded 2 t.hour ++ ':' :: (padded 2 t.minute ++ ':' :: padded 2 t.second)

/-- An instant as its day, a blank and its time, without the fraction of a second. -/
def DateTime.text (t : DateTime) : List Char :=
  t.date.text ++ ' ' :: t.time.text

/-- The fraction of a second after a point, in three, six or nine digits as it needs,
and nothing when it is zero. -/
def Time.fractionText (t : Time) : List Char :=
  let n := t.nanosecond
  if n = 0 then []
  else if n % Nat.pow 10 6 = 0 then '.' :: padded 3 (n / Nat.pow 10 6)
  else if n % Nat.pow 10 3 = 0 then '.' :: padded 6 (n / Nat.pow 10 3)
  else '.' :: padded 9 n

/-- An instant with the letter `T` before its time, and with the fraction. -/
def DateTime.exactText (t : DateTime) : List Char :=
  t.date.text ++ 'T' :: (t.time.text ++ t.time.fractionText)

end OneTable
