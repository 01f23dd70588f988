import QueryCache.Calendar.DateTime
import QueryCache.Decimal.Number
import QueryCache.Operator

/-! The dynamic values of records, requests and cached results. -/

set_option autoImplicit false

namespace QueryCache

/-- The request parameters that criteria are read from, by the names a service gives them. -/
structure ParamNames where
  search : String := "search"
  searchFields : String := "searchFields"
  searchJoin : String := "searchJoin"
  filter : String := "filter"
  filterJoin : String := "filterJoin"
  orderBy : String := "orderBy"
  sortedBy : String := "sortedBy"
  includes : String := "include"
  includesAlias : String := "with"
  compare : String := "compare"
  having : String := "having"
  havingJoin : String := "havingJoin"
  groupBy : String := "groupBy"
  deriving DecidableEq, Repr

/-- The names with the setting each stands for, in declaration order. -/
def ParamNames.fields (names : ParamNames) : List (String × String) := [
  ("search", names.search), ("search_fields", names.searchFields),
  ("search_join", names.searchJoin), ("filter", names.filter),
  ("filter_join", names.filterJoin), ("order_by", names.orderBy),
  ("sorted_by", names.sortedBy), ("include", names.includes),
  ("include_alias", names.includesAlias), ("compare", names.compare),
  ("having", names.having), ("having_join", names.havingJoin), ("group_by", names.groupBy)]

/-- Where a page stands in a result. -/
structure Pagination where
  page : Int := 1
  pageSize : Int := 15
  totalItems : Option Int := none
  totalPages : Option Int := none
  deriving DecidableEq, Repr

inductive Value where
  | null
  | bool (b : Bool)
  | int (n : Int)
  | float (x : Binary64)
  /-- A binary64 number that is none, of a record or a request; `serial` tells one from another. -/
  | nan (serial : Nat)
  | str (s : String)
  | bytes (b : List UInt8)
  | date (d : Date)
  | dateTime (t : DateTime)
  | list (items : List Value)
  | tuple (items : List Value)
  | set (items : List Value)
  /-- A mapping in insertion order, its keys distinct. -/
  | dict (entries : List (String × Value))
  /-- An object with attributes, which is no mapping. -/
  | object (attributes : List (String × Value))
  | page (items : List Value) (pagination : Pagination)
  | operator (op : Operator)
  | names (names : ParamNames)
  /-- A function, known by its path. -/
  | function (path : String)
  /-- An instance of a class nothing is known about; `serial` tells instances apart. -/
  | foreign (type : String) (serial : Nat)
  deriving Repr, Inhabited

/-- A row of the entity store. -/
abbrev Record := List (String × Value)

namespace Value

/-- The most levels of lists and mappings inside one another that are read. -/
def deepest : Nat := 490

def isNull : Value → Bool
  | .null => true
  | _ => false

/-- A value, or null in its place. -/
def ofOption {α : Type} (f : α → Value) (x : Option α) : Value := (x.map f).getD .null

def ofTexts (texts : List String) : Value := .list (texts.map .str)

/-- The number that a value is; truth values count as zero and one. -/
def number? : Value → Option Number
  | .bool b => some (.whole (if b then 1 else 0))
  | .int n => some (.whole n)
  | .float x => some (.binary x)
  | .nan _ => some (.binary .nan)
  | _ => none

/-- The name of a value's type. -/
def typeName : Value → String
  | .null => "NoneType"
  | .bool _ => "bool"
  | .int _ => "int"
  | .float _ | .nan _ => "float"
  | .str _ => "str"
  | .bytes _ => "bytes"
  | .date _ => "date"
  | .dateTime _ => "datetime"
  | .list _ => "list"
  | .tuple _ => "tuple"
  | .set _ => "set"
  | .dict _ => "dict"
  | .object _ => "SimpleNamespace"
  | .page _ _ => "Page"
  | .operator _ => "Operator"
  | .names _ => "CriteriaParams"
  | .function _ => "function"
  | .foreign type _ => type

mutual

/-- Whether a value can be the key of a mapping. -/
def hashable : Value → Bool
  | .list _ | .set _ | .dict _ | .object _ | .page _ _ => false
  | .tuple items => hashableAll items
  | _ => true

def hashableAll : List Value → Bool
  | [] => true
  | item :: rest => item.hashable && hashableAll rest

end

end Value

/-! ## Size and parts -/

namespace Value

/-- The number of parts of a value that has parts. -/
def length? : Value → Option Nat
  | .str s => some s.length
  | .bytes b => some b.length
  | .list items | .tuple items | .set items | .page items _ => some items.length
  | .dict entries => some entries.length
  | _ => none

/-- Whether a value is neither null, nor zero, nor without parts. -/
def isPresent (value : Value) : Bool :=
  match value with
  | .null => false
  | _ =>
    match value.number?, value.length? with
    | some n, _ => !n.isZero
    | none, some size => size != 0
    | none, none => true

/-- The parts of a value that has parts: items, the names of entries, characters or bytes. -/
def parts? : Value → Option (List Value)
  | .list items | .tuple items | .set items | .page items _ => some items
  | .dict entries => some (entries.map fun entry => .str entry.1)
  | .str s => some (s.toList.map fun c => .str (String.singleton c))
  | .bytes b => some (b.map fun byte => .int byte.toNat)
  | _ => none

end Value

namespace Record

def get? (record : Record) (name : String) : Option Value :=
  List.lookup name record

/-- Sets a field in place, or adds it at the end. -/
def set : Record → String → Value → Record
  | [], name, value => [(name, value)]
  | (other, old) :: rest, name, value =>
    if other = name then (other, value) :: rest else (other, old) :: set rest name value

def setAll (record : Record) (changes : Record) : Record :=
  changes.foldl (fun record change => set record change.1 change.2) record

end Record

end QueryCache
