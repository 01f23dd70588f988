import QueryCache.Calendar.Iso
import QueryCache.Decimal.Reading
import QueryCache.Text.Split
import QueryCache.Text.Case
import QueryCache.Value.Basic

/-! Reading a dotted field of a record, and reading a request value as the stored one. -/

set_option autoImplicit false

namespace QueryCache.Value

/-- One step of a dotted field: an entry of a mapping or an attribute of an object; `null`
where there is none. -/
def child (value : Value) (name : String) : Value :=
  match value with
  | .dict entries => (entries.lookup name).getD .null
  | .object attributes => (attributes.lookup name).getD .null
  | .names given => (given.fields.lookup name).elim .null .str
  | .operator op =>
    if name = "value" then .str op.code
    else if name = "name" then .str op.constant
    else .null
  | _ => .null

/-- The segments of a dotted field. -/
def segments (field : String) : List String :=
  (Text.split '.' field.toList).map String.ofList

/-- The value of a dotted field. -/
def field (record : Value) (name : String) : Value :=
  (segments name).foldl child record

/-- The words that stand for truth. -/
def truthWords : List String := ["1", "true", "yes", "on"]

/-- Whether a text stands for truth, blanks and case aside. -/
def isTruthText (text : String) : Bool :=
  truthWords.contains (String.ofList (Text.lower (Text.trim text.toList)))

/-- A request text as the type of the stored value; unreadable text stays as it is. -/
def readAs? (sample : Value) (text : String) : Option Value :=
  match sample with
  | .bool _ => some (.bool (isTruthText text))
  | .int _ =>
    match Text.readInteger text.toList with
    | .ok n => some (.int n)
    | .error _ => none
  | .float _ | .nan _ => (Binary64.ofText? text.toList).map .float
  | .dateTime _ => (Iso.dateTime? text).map .dateTime
  | .date _ => (Iso.date? text).map .date
  | _ => none

/-- A request value converted to the type of the stored value. -/
def coercedLike (sample value : Value) : Value :=
  match value with
  | .str text => (readAs? sample text).getD value
  | _ => value

/-- The day that a value names. -/
def day? : Value → Option Date
  | .dateTime t => some t.date
  | .date d => some d
  | .str s => (Iso.dateTime? s).map (·.date)
  | _ => none

end QueryCache.Value
