import QueryCache.Text.Quoted
import QueryCache.Value.Basic

/-! Texts of values: `text` is a value on its own, `literal` its form inside a container or a
message, where strings stand in quotes. -/

set_option autoImplicit false

namespace QueryCache

/-- Words with commas between them. -/
def commaSeparated (words : List String) : String :=
  ", ".intercalate words

namespace DateTime

/-- The offset as a constructor call. -/
def offsetLiteral (offset : Int) : String :=
  if offset = 0 then "datetime.timezone.utc"
  else
    let day : Int := 86400000000
    let days := Int.fdiv offset day
    let rest := Int.fmod offset day
    let seconds := rest / 1000000
    let micro := rest % 1000000
    let parts :=
      (if days = 0 then [] else ["days=" ++ toString days]) ++
      (if seconds = 0 then [] else ["seconds=" ++ toString seconds]) ++
      (if micro = 0 then [] else ["microseconds=" ++ toString micro])
    "datetime.timezone(datetime.timedelta(" ++ commaSeparated parts ++ "))"

/-- The fields of a time as a constructor call, trailing zeros dropped. -/
def literal (t : DateTime) : String :=
  let fields := [t.date.year, t.date.month, t.date.day, t.hour, t.minute] ++
    (if t.second = 0 ∧ t.micro = 0 then [] else [t.second]) ++
    (if t.micro = 0 then [] else [t.micro])
  let zone := t.offset.toList.map fun offset => "tzinfo=" ++ offsetLiteral offset
  "datetime.datetime(" ++ commaSeparated (fields.map toString ++ zone) ++ ")"

end DateTime

namespace ParamNames

def literals (names : ParamNames) : List String :=
  names.fields.map fun field => field.1 ++ "=" ++ Text.quote field.2

end ParamNames

namespace Pagination

def literal (p : Pagination) : String :=
  let count : Option Int → String := fun n => (n.map toString).getD "None"
  "PaginationInfo(page=" ++ toString p.page ++ ", page_size=" ++ toString p.pageSize ++
    ", total_items=" ++ count p.totalItems ++ ", total_pages=" ++ count p.totalPages ++ ")"

end Pagination

namespace Value

/-- The items of a tuple; one alone is followed by a comma. -/
def tupleText : List String → String
  | [item] => "(" ++ item ++ ",)"
  | items => "(" ++ commaSeparated items ++ ")"

mutual

/-- The form of a value inside a container or a message. -/
def literal : Value → String
  | .null => "None"
  | .bool b => if b then "True" else "False"
  | .int n => toString n
  | .float x => x.text
  | .nan _ => Binary64.nan.text
  | .str s => Text.quote s
  | .bytes b => String.ofList (Text.quotedBytes b)
  | .date d =>
    "datetime.date(" ++ commaSeparated ([d.year, d.month, d.day].map toString) ++ ")"
  | .dateTime t => t.literal
  | .list items => "[" ++ commaSeparated (literals items) ++ "]"
  | .tuple items => tupleText (literals items)
  | .set [] => "set()"
  | .set (item :: rest) =>
    "\x7b" ++ commaSeparated (item.literal :: literals rest) ++ "\x7d"
  | .dict entries => "\x7b" ++ commaSeparated (entryLiterals ": " entries) ++ "\x7d"
  | .object attributes =>
    "namespace(" ++ commaSeparated (attributeLiterals attributes) ++ ")"
  | .page items pagination =>
    "Page(items=[" ++ commaSeparated (literals items) ++ "], pagination=" ++
      pagination.literal ++ ")"
  | .operator op => "<Operator." ++ op.constant ++ ": " ++ Text.quote op.code ++ ">"
  | .names given => "CriteriaParams(" ++ commaSeparated given.literals ++ ")"
  | .function path => "<function " ++ path ++ ">"
  | .foreign type _ => "<" ++ type ++ " object>"

def literals : List Value → List String
  | [] => []
  | item :: rest => item.literal :: literals rest

def entryLiterals (mark : String) : List (String × Value) → List String
  | [] => []
  | (name, value) :: rest =>
    (Text.quote name ++ mark ++ value.literal) :: entryLiterals mark rest

def attributeLiterals : List (String × Value) → List String
  | [] => []
  | (name, value) :: rest => (name ++ "=" ++ value.literal) :: attributeLiterals rest

end

/-- The text of a value on its own. -/
def text : Value → String
  | .str s => s
  | .date d => d.text
  | .dateTime t => t.textWith " "
  | .operator op => "Operator." ++ op.constant
  | .names given => " ".intercalate given.literals
  | value => value.literal

end Value

end QueryCache
