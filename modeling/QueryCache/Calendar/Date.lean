/-! Days of the proleptic Gregorian calendar, years 1 to 9999. -/

set_option autoImplicit false

namespace QueryCache

structure Date where
  year : Nat
  month : Nat
  day : Nat
  deriving DecidableEq, Repr

namespace Date

def isLeap (year : Nat) : Bool :=
  year % 4 == 0 && (year % 100 != 0 || year % 400 == 0)

def daysInMonth (year month : Nat) : Nat :=
  if month = 2 then (if isLeap year then 29 else 28)
  else if month ∈ [4, 6, 9, 11] then 30
  else 31

/-- Whether the fields name a day of the calendar. -/
def isValid (d : Date) : Bool :=
  1 ≤ d.year && d.year ≤ 9999 && 1 ≤ d.month && d.month ≤ 12 &&
    1 ≤ d.day && d.day ≤ daysInMonth d.year d.month

def of? (year month day : Nat) : Option Date :=
  let d : Date := ⟨year, month, day⟩
  if d.isValid then some d else none

/-- The number of days before the first of January. -/
def daysBeforeYear (year : Nat) : Nat :=
  let past := year - 1
  past * 365 + past / 4 - past / 100 + past / 400

/-- The number of days of the year before the month. -/
def daysBeforeMonth (year month : Nat) : Nat :=
  (List.range (month - 1)).foldl (fun days index => days + daysInMonth year (index + 1)) 0

/-- The count of days from the first of January of year one, which has the number one. -/
def ordinal (d : Date) : Nat :=
  daysBeforeYear d.year + daysBeforeMonth d.year d.month + d.day

def daysInYear (year : Nat) : Nat := if isLeap year then 366 else 365

/-- The day of a year, counted from zero, found by walking the months from `month` on. -/
def ofYearDayFrom? (year day : Nat) : Nat → Nat → Option Date
  | _, 0 => none
  | month, months + 1 =>
    if day < daysBeforeMonth year (month + 1) then
      of? year month (day - daysBeforeMonth year month + 1)
    else ofYearDayFrom? year day (month + 1) months

def ofYearDay? (year day : Nat) : Option Date :=
  ofYearDayFrom? year day 1 12

/-- The day of the week, Monday being zero. -/
def weekday (d : Date) : Nat :=
  (d.ordinal + 6) % 7

/-- The number of weeks of a year of the week calendar. -/
def weeksInYear (year : Nat) : Nat :=
  let first := weekday ⟨year, 1, 1⟩
  if first = 3 ∨ (first = 2 ∧ isLeap year) then 53 else 52

/-- The day of a week, Monday being day one of a week and week one the one that holds the
fourth of January. -/
def ofWeek? (year week day : Nat) : Option Date :=
  if year = 0 ∨ week = 0 ∨ weeksInYear year < week ∨ day = 0 ∨ 7 < day then none
  else
    let first := weekday ⟨year, 1, 1⟩
    let monday : Int := if first ≤ 3 then -(first : Int) else 7 - (first : Int)
    let offset : Int := monday + ((week - 1) * 7 + (day - 1) : Nat)
    if offset < 0 then
      ofYearDay? (year - 1) (offset + daysInYear (year - 1)).toNat
    else if offset < daysInYear year then ofYearDay? year offset.toNat
    else ofYearDay? (year + 1) (offset - daysInYear year).toNat

/-- A number with leading zeros up to `width` digits. -/
def padded (width n : Nat) : String :=
  let digits := Nat.toDigits 10 n
  String.ofList (List.replicate (width - digits.length) '0' ++ digits)

/-- Year, month and day with hyphens between them. -/
def text (d : Date) : String :=
  padded 4 d.year ++ "-" ++ padded 2 d.month ++ "-" ++ padded 2 d.day

end Date

end QueryCache
