import QueryCache.Calendar.Date

/-! A day with a time of day, to the microsecond, and perhaps an offset from universal time.
Two times with an offset compare by the instant they name; a time without one compares with
none that has one. -/

set_option autoImplicit false

namespace QueryCache

structure DateTime where
  date : Date
  hour : Nat
  minute : Nat
  second : Nat
  micro : Nat
  /-- Microseconds east of universal time. -/
  offset : Option Int
  deriving DecidableEq, Repr

namespace DateTime

def microsPerSecond : Int := 1000000

def microsPerDay : Int := 86400 * microsPerSecond

/-- Whether the fields name a time of the calendar, its offset under a day. -/
def isValid (t : DateTime) : Bool :=
  t.date.isValid && t.hour < 24 && t.minute < 60 && t.second < 60 && t.micro < 1000000 &&
    t.offset.all fun offset => -microsPerDay < offset && offset < microsPerDay

/-- Microseconds on the clock's own scale. -/
def localMicros (t : DateTime) : Int :=
  (((t.date.ordinal * 24 + t.hour) * 60 + t.minute) * 60 + t.second : Nat) * microsPerSecond +
    t.micro

/-- Microseconds on the scale of universal time; a missing offset counts as zero. -/
def instant (t : DateTime) : Int :=
  t.localMicros - t.offset.getD 0

/-- Hours, minutes and, where needed, seconds and microseconds of an offset. -/
def offsetText (offset : Int) : String :=
  let size := offset.natAbs
  let seconds := size / 1000000
  let micro := size % 1000000
  (if offset < 0 then "-" else "+") ++ Date.padded 2 (seconds / 3600) ++ ":" ++
    Date.padded 2 (seconds / 60 % 60) ++
    (if seconds % 60 = 0 ∧ micro = 0 then "" else ":" ++ Date.padded 2 (seconds % 60)) ++
    (if micro = 0 then "" else "." ++ Date.padded 6 micro)

/-- The time of day, microseconds only when there are any. -/
def clockText (t : DateTime) : String :=
  Date.padded 2 t.hour ++ ":" ++ Date.padded 2 t.minute ++ ":" ++ Date.padded 2 t.second ++
    (if t.micro = 0 then "" else "." ++ Date.padded 6 t.micro)

/-- Date, separator, time of day and offset. -/
def textWith (separator : String) (t : DateTime) : String :=
  t.date.text ++ separator ++ t.clockText ++ (t.offset.map offsetText).getD ""

def text (t : DateTime) : String := t.textWith "T"

end DateTime

end QueryCache
