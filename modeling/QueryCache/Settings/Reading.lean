import QueryCache.Decimal.Reading
import QueryCache.Failure
import QueryCache.Text.Encoding
import QueryCache.Text.Split

/-! The types of settings, and reading given values as them.

Texts that write a number or a truth value are read as it, and bytes of UTF-8 are read as the
text they hold; every part that is not of its type is reported by the path to it. -/

set_option autoImplicit false

namespace QueryCache

inductive SettingType where
  | flag
  /-- An integer no less than `least` and no more than `most`. -/
  | whole (least most : Option Int)
  /-- A number with a fraction, perhaps not less than zero. -/
  | number (nonNegative : Bool)
  | text
  /-- A text that is not shown. -/
  | secret
  | choice (options : List String)
  | texts
  | textMap
  | paramNames
  | optional (type : SettingType)
  deriving Repr

namespace SettingType

/-- Where a given value is not of its type, as paths from the value down. -/
abbrev Faults := List (List String)

/-- The words for the two truth values, in lower case. -/
def falseWords : List String := ["0", "off", "f", "false", "n", "no"]

def trueWords : List String := ["1", "on", "t", "true", "y", "yes"]

/-- The truth value that a zero or a one is. -/
def flagOf? (n : Int) : Option Bool :=
  if n = 0 then some false else if n = 1 then some true else none

/-- The integer that a number without fraction is. -/
def integral? (x : Binary64) : Option Int :=
  match x.truncate? with
  | some n => if (Number.whole n).equal (.binary x) then some n else none
  | none => none

/-- The text that a value holds: its own, or that of its bytes. -/
def readText? : Value → Option String
  | .str s => some s
  | .bytes b => (Text.Utf8.decode b).toOption.map String.ofList
  | .operator op => some op.code
  | _ => none

/-- The truth value that a text says. -/
def flagOfText? (text : String) : Option Bool :=
  let word := text.map Char.toLower
  if falseWords.contains word then some false
  else if trueWords.contains word then some true
  else none

def readFlag? : Value → Option Bool
  | .bool b => some b
  | .int n => flagOf? n
  | .float x => (integral? x).bind flagOf?
  | v => (readText? v).bind flagOfText?

/-- A text of decimal digits with a sign, single low lines and a fraction of zeros. -/
def wholeOfText? (text : List Char) : Option Int :=
  let body := Text.trim text
  let body :=
    match Text.cut? '.' body with
    | some (units, zeros) => if zeros.all (· = '0') then units else body
    | none => body
  if body.all fun c => c.toNat < 128 && !Text.isBlank c then (Text.readInteger body).toOption
  else none

def readWhole? : Value → Option Int
  | .bool b => some (if b then 1 else 0)
  | .int n => some n
  | .float x => integral? x
  | v => (readText? v).bind fun text => wholeOfText? text.toList

def readNumber? : Value → Option Binary64
  | .bool b => some (Binary64.ofInt (if b then 1 else 0))
  | .int n => (Number.whole n).toBinary?
  | .float x => some x
  | .nan _ => some .nan
  | v => (readText? v).bind fun text =>
    if text.toList.all (·.toNat < 128) then Binary64.ofText? text.toList else none

/-- The texts among the items, as values. -/
def textItems (items : List Value) : List Value :=
  items.filterMap fun item => (readText? item).map .str

/-- The entries that are texts, as values. -/
def textEntries (entries : List (String × Value)) : List (String × Value) :=
  entries.filterMap fun (name, value) => (readText? value).map fun text => (name, .str text)

/-- The items that are no texts, by their positions. -/
def textFaults (items : List Value) : Faults :=
  items.zipIdx.filterMap fun (item, index) =>
    if (readText? item).isSome then none else some [toString index]

/-- The entries that are no texts, by their names. -/
def entryFaults (entries : List (String × Value)) : Faults :=
  entries.filterMap fun (name, value) =>
    if (readText? value).isSome then none else some [name]

/-- A value if the condition holds of it, else a fault of the whole. -/
def accept {α : Type} (found : Option α) (holds : α → Bool) (wrap : α → Value) :
    Except Faults Value :=
  match found with
  | some x => if holds x then .ok (wrap x) else .error [[]]
  | none => .error [[]]

/-- A value if there are no faults. -/
def acceptUnless (faults : Faults) (value : Value) : Except Faults Value :=
  if faults.isEmpty then .ok value else .error faults

/-- The names with some of them given. -/
def namesOf (given : List (String × Value)) : ParamNames :=
  let name (field default : String) : String :=
    ((given.lookup field).bind readText?).getD default
  { search := name "search" "search"
    searchFields := name "search_fields" "searchFields"
    searchJoin := name "search_join" "searchJoin"
    filter := name "filter" "filter"
    filterJoin := name "filter_join" "filterJoin"
    orderBy := name "order_by" "orderBy"
    sortedBy := name "sorted_by" "sortedBy"
    includes := name "include" "include"
    includesAlias := name "include_alias" "with"
    compare := name "compare" "compare"
    having := name "having" "having"
    havingJoin := name "having_join" "havingJoin"
    groupBy := name "group_by" "groupBy" }

/-- Reads a given value as a setting of the type. -/
def read : SettingType → Value → Except Faults Value
  | .flag, v => accept (readFlag? v) (fun _ => true) .bool
  | .whole least most, v =>
    accept (readWhole? v) (fun n => least.all (· ≤ n) && most.all (n ≤ ·)) .int
  | .number nonNegative, v =>
    accept (readNumber? v) (fun x => !nonNegative ||
      ((x.extent?).map fun place => (Extent.at 0).le place).getD true) .float
  | .text, v => accept (readText? v) (fun _ => true) .str
  | .secret, v => accept (readText? v) (fun _ => true) .str
  | .choice options, .str s => accept (some s) options.contains .str
  | .texts, .list items => acceptUnless (textFaults items) (.list (textItems items))
  | .texts, .tuple items => acceptUnless (textFaults items) (.list (textItems items))
  | .texts, .set items => acceptUnless (textFaults items) (.list (textItems items))
  | .textMap, .dict entries => acceptUnless (entryFaults entries) (.dict (textEntries entries))
  | .paramNames, .names given => .ok (.names given)
  | .paramNames, .dict entries =>
    let known := entries.filter fun (name, _) =>
      (ParamNames.fields {}).any fun field => field.1 == name
    acceptUnless (entryFaults known) (.names (namesOf known))
  | .optional _, .null => .ok .null
  | .optional type, v => type.read v
  | _, _ => .error [[]]

/-- Whether a value of the type is written as JSON in the environment. -/
def isComposite : SettingType → Bool
  | .texts | .textMap | .paramNames => true
  | .optional type => type.isComposite
  | _ => false

/-- A value as it is shown. -/
def shown : SettingType → Value → Value
  | .secret, .str s => .str (if s.isEmpty then "" else "**********")
  | .optional type, v => type.shown v
  | _, .names given => .dict (given.fields.map fun field => (field.1, .str field.2))
  | _, v => v

end SettingType

end QueryCache
