import QueryCache.Calendar.DateTime
import QueryCache.Decimal.Power

/-! Reading dates and times in the standard formats: basic or extended, calendar days or
weeks, any one character between date and time, fractions of any length, `Z` or a signed
offset.

Lengths and positions are counted in bytes of the encoded text. A text that has an offset may
carry one stray character, or digits of a fraction beyond the sixth, before it. -/

set_option autoImplicit false

namespace QueryCache.Iso

/-- The bytes of a text, each as the character of that code. -/
def bytesOf (text : String) : List Char :=
  text.toUTF8.toList.map fun byte => Char.ofNat byte.toNat

/-- Reads exactly `count` digits. -/
def readDigits? : Nat → List Char → Option (Nat × List Char)
  | count, text =>
    let digits := text.take count
    if digits.length = count ∧ digits.all Char.isDigit then
      some (digits.foldl (fun total c => 10 * total + (c.toNat - 48)) 0, text.drop count)
    else none

/-- Drops the separator of an extended format. -/
def dropHyphen? (extended : Bool) (text : List Char) : Option (List Char) :=
  if extended then
    match text with
    | '-' :: rest => some rest
    | _ => none
  else some text

/-- Reads the date that the first `length` bytes of a text write. -/
def readDatePart? (length : Nat) (text : List Char) : Option Date := do
  let (year, rest) ← readDigits? 4 text
  let extended := rest.head? == some '-'
  let rest := if extended then rest.drop 1 else rest
  match rest with
  | 'W' :: rest =>
    let (week, rest) ← readDigits? 2 rest
    if (if extended then 8 else 7) < length then
      let (day, _) ← readDigits? 1 (← dropHyphen? extended rest)
      Date.ofWeek? year week day
    else Date.ofWeek? year week 1
  | _ =>
    let (month, rest) ← readDigits? 2 rest
    let (day, _) ← readDigits? 2 (← dropHyphen? extended rest)
    Date.of? year month day

/-- Reads a date. -/
def date? (text : String) : Option Date :=
  let bytes := bytesOf text
  if bytes.length ∈ [7, 8, 10] then readDatePart? bytes.length bytes else none

/-- Where the date of a date and time ends. A week date is told from one with a weekday by
the digits that follow it. -/
def dateLength? (text : List Char) : Option Nat :=
  let length := text.length
  if length = 7 then some 7
  else if text[4]? = some '-' then
    if text[5]? = some 'W' then
      if length < 8 then none
      else if text[8]? = some '-' then
        if length = 9 then none
        else if (text[10]?).any Char.isDigit then some 8
        else some 10
      else some 8
    else some 10
  else if text[4]? = some 'W' then
    let finish := 7 + ((text.drop 7).takeWhile Char.isDigit).length
    if finish < 9 then some finish else if finish % 2 = 0 then some 7 else some 8
  else some 8

/-- A time of day, or the size of an offset. -/
structure Clock where
  hour : Nat := 0
  minute : Nat := 0
  second : Nat := 0
  micro : Nat := 0

/-- Whether nothing is left to read. -/
def atEnd : List Char → Bool
  | [] => true
  | c :: _ => c.toNat == 0

/-- Reads a fraction of a second, the digits beyond the sixth dropped, and says whether
nothing follows. -/
def readFraction? (clock : Clock) (text : List Char) : Option (Clock × Bool) := do
  let places := min text.length 6
  let (digits, rest) ← readDigits? places text
  return ({ clock with micro := digits * power 10 (6 - places) },
    atEnd (rest.dropWhile Char.isDigit))

/-- What follows a field of a clock. -/
inductive Next where
  | done (clean : Bool)
  | field (rest : List Char)
  | fraction (rest : List Char)

/-- Tells what follows a field; `colons` says whether the fields are separated. -/
def next? (colons : Bool) : List Char → Option Next
  | [] => some (.done true)
  | c :: rest =>
    if rest.isEmpty then some (.done (atEnd [c]))
    else if colons && c == ':' then some (.field rest)
    else if c == '.' || c == ',' then some (.fraction rest)
    else if colons then none
    else some (.field (c :: rest))

/-- Reads hours, minutes, seconds and a fraction, and says whether nothing follows. -/
def readClock? (text : List Char) : Option (Clock × Bool) := do
  let (hour, rest) ← readDigits? 2 text
  let colons := rest.head? == some ':'
  let clock : Clock := ⟨hour, 0, 0, 0⟩
  match ← next? colons rest with
  | .done clean => return (clock, clean)
  | .fraction rest => readFraction? clock rest
  | .field rest =>
    let (minute, rest) ← readDigits? 2 rest
    let clock := { clock with minute := minute }
    match ← next? colons rest with
    | .done clean => return (clock, clean)
    | .fraction rest => readFraction? clock rest
    | .field rest =>
      let (second, rest) ← readDigits? 2 rest
      let clock := { clock with second := second }
      match ← next? colons rest with
      | .done clean => return (clock, clean)
      | .fraction rest => readFraction? clock rest
      | .field rest => readFraction? clock rest

/-- Whether a character begins an offset. -/
def isOffsetMark (c : Char) : Bool :=
  c == '+' || c == '-' || c == 'Z'

/-- Reads a time of day and its offset. -/
def readTime? (text : List Char) : Option (Clock × Option Int) := do
  let (clock, clean) ← readClock? (text.takeWhile fun c => !isOffsetMark c)
  match text.dropWhile fun c => !isOffsetMark c with
  | [] => if clean then return (clock, none) else none
  | 'Z' :: rest => if atEnd rest then return (clock, some 0) else none
  | mark :: rest =>
    let (size, clean) ← readClock? rest
    if !clean then none
    else
      let seconds : Int := (size.hour * 60 + size.minute) * 60 + size.second
      if seconds = 0 then return (clock, some 0)
      else
        let micros := seconds * 1000000 + size.micro
        return (clock, some (if mark = '-' then -micros else micros))

/-- The number of bytes of the character that the byte begins. -/
def characterLength (lead : Char) : Nat :=
  if lead.toNat < 0x80 then 1
  else if lead.toNat / 16 = 0xE then 3
  else if lead.toNat / 16 = 0xF then 4
  else 2

/-- Reads a date and time; a date alone stands for midnight. -/
def dateTime? (text : String) : Option DateTime := do
  let bytes := bytesOf text
  let length ← dateLength? bytes
  let date ← readDatePart? length bytes
  match bytes.drop length with
  | [] => return ⟨date, 0, 0, 0, 0, none⟩
  | lead :: rest =>
    let (clock, offset) ← readTime? (rest.drop (characterLength lead - 1))
    let t : DateTime := ⟨date, clock.hour, clock.minute, clock.second, clock.micro, offset⟩
    if t.isValid then return t else none

end QueryCache.Iso
