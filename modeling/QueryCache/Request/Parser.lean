import QueryCache.Request.Basic
import QueryCache.Request.ParseError
import QueryCache.Text.Split

/-! Reading a request from its parameters.

Conditions stand between semicolons, the parts of a condition between colons, the items of a
list between commas; blanks around each are dropped. Reading gives the whole request or the
first malformed parameter; every parameter is malformed or not on its own. -/

set_option autoImplicit false

namespace QueryCache

/-- The parameters of a request, as they came in. -/
abbrev RequestParams := List (String × Value)

/-- Parts of a request, or the parameter that is malformed. -/
abbrev Parsed (α : Type) := Except ParseError α

namespace Request

open Text

def fail {α : Type} (param : String) (reason : ParseReason) (token : List Char) : Parsed α :=
  .error ⟨param, reason, some (String.ofList token)⟩

/-- A dotted name: each segment starts with an ASCII letter or a low line. -/
def isFieldName (name : List Char) : Bool :=
  (split '.' name).all fun
    | [] => false
    | c :: rest => isIdentifierStart c && rest.all isWord

/-- Reads a field name that stands in `token`. -/
def readField (param : String) (name token : List Char) : Parsed String :=
  let name := trim name
  if name.isEmpty then fail param .emptyField token
  else if (Operator.ofWord? name).isSome then
    fail param (.operatorAsField (String.ofList name)) token
  else if !isFieldName name then fail param (.invalidField (String.ofList name)) token
  else .ok (String.ofList name)

/-- Reads the values that an operator takes. -/
def readValues (param : String) (op : Operator) (raw token : List Char) :
    Parsed (List String) :=
  let value := trim raw
  if op.isNullary then
    if value.isEmpty then .ok [] else fail param (.takesNoValue op) token
  else if op.isMultiValue then
    let items := (split ',' value).map trim
    if value.isEmpty || items.any List.isEmpty then fail param (.unterminatedList op) token
    else if op.isRange && items.length != 2 then fail param (.notTwoValues op) token
    else .ok (items.map String.ofList)
  else if value.isEmpty then fail param .missingValue token
  else .ok [String.ofList value]

/-- Reads a condition: a field and a value, or a field, an operator and its values. A word
that names an operator without values may stand in place of the value. -/
def readCondition (param : String) (default : Operator) (join : Join) (chunk : List Char) :
    Parsed Condition :=
  match cut? ':' chunk with
  | none => fail param .missingColon chunk
  | some (name, rest) => do
    let field ← readField param name chunk
    match cut? ':' rest with
    | some (head, tail) =>
      match Operator.ofToken? head with
      | none => fail param (.unknownOperator (String.ofList (trim head))) chunk
      | some op => return ⟨field, op, ← readValues param op tail chunk, join, true⟩
    | none =>
      match (Operator.ofToken? rest).filter Operator.isNullary with
      | some op => return ⟨field, op, [], join, true⟩
      | none => return ⟨field, default, ← readValues param default rest chunk, join, false⟩

/-- The pieces between semicolons that are not blank. -/
def chunks (raw : List Char) : List (List Char) :=
  (split ';' raw).filter fun chunk => !isBlankText chunk

def readConditions (param : String) (default : Operator) (join : Join) (raw : List Char) :
    Parsed (List Condition) :=
  (chunks raw).mapM (readCondition param default join)

/-- The text of a parameter; an absent, null or blank one has none. -/
def textOf? (params : RequestParams) (param : String) : Parsed (Option (List Char)) :=
  match params.lookup param with
  | none | some .null => .ok none
  | some (.str text) =>
    .ok (if isBlankText text.toList then none else some text.toList)
  | some value => .error ⟨param, .notText value.typeName, none⟩

def readJoin (params : RequestParams) (param : String) (default : Join) : Parsed Join := do
  match ← textOf? params param with
  | none => return default
  | some text =>
    match Join.ofCode? (String.ofList (lower (trim text))) with
    | some join => return join
    | none => fail param .badJoin text

/-- The trimmed items between commas. -/
def commaList : Option (List Char) → List (List Char)
  | none => []
  | some raw => (split ',' raw).map trim

def readSearchField (param : String) (chunk : List Char) : Parsed SearchField :=
  match cut? ':' chunk with
  | none => return ⟨← readField param chunk chunk, none⟩
  | some (name, word) =>
    match (Operator.ofToken? word).filter fun op => !op.isMultiValue && !op.isNullary with
    | none => fail param (.unusableSearchOperator (String.ofList (trim word))) chunk
    | some op => return ⟨← readField param name chunk, some op⟩

def readSearchFields (param : String) : Option (List Char) → Parsed (List SearchField)
  | none => .ok []
  | some raw => (chunks raw).mapM (readSearchField param)

/-- Reads the search section: conditions when there is a colon, else a term. -/
def readSearch (params : RequestParams) (names : ParamNames) (enhanced : Bool) :
    Parsed (Option Section) := do
  let raw ← textOf? params names.search
  let join ← readJoin params names.searchJoin .or
  let fields ← readSearchFields names.searchFields (← textOf? params names.searchFields)
  match raw with
  | none => return none
  | some raw =>
    if raw.contains ':' then
      let conditions ← readConditions names.search .like join raw
      return some { conditions, join, fields, enhanced }
    else return some { join, term := some (String.ofList (trim raw)), fields, enhanced }

/-- Reads the filter section or the section of conditions on groups. -/
def readSection (params : RequestParams) (param joinParam : String) :
    Parsed (Option Section) := do
  let raw ← textOf? params param
  let join ← readJoin params joinParam .and
  match raw with
  | none => return none
  | some raw =>
    let conditions ← readConditions param .eq join raw
    return if conditions.isEmpty then none else some { conditions, join }

/-- Reads a sort direction; an empty item stands for the ascending one. -/
def readDirection (param : String) (item : List Char) : Parsed Direction :=
  if item.isEmpty then .ok .asc
  else
    match Direction.ofCode? (String.ofList (lower item)) with
    | some direction => .ok direction
    | none => fail param .badDirection item

/-- Pairs fields with directions; fields beyond them ascend. -/
def pairDirections : List String → List Direction → List SortField
  | [], _ => []
  | field :: fields, [] => ⟨field, .asc⟩ :: pairDirections fields []
  | field :: fields, direction :: directions =>
    ⟨field, direction⟩ :: pairDirections fields directions

def readSort (params : RequestParams) (names : ParamNames) :
    Parsed (Option (List SortField)) := do
  let order ← textOf? params names.orderBy
  let directions ←
    (commaList (← textOf? params names.sortedBy)).mapM (readDirection names.sortedBy)
  match order with
  | none => return none
  | some raw =>
    let fields ← (commaList (some raw)).mapM fun item => readField names.orderBy item raw
    return some (pairDirections fields directions)

/-- The ending that marks a relation count. -/
def countMark : List Char := ['_', 'c', 'o', 'u', 'n', 't']

/-- What a relation path asks for. -/
inductive Inclusion where
  | relation (name : String)
  | count (name : String)
  deriving DecidableEq, Repr

def readInclusion (param : String) (path : List Char) : Parsed Inclusion :=
  if countMark.length < path.length && countMark.isSuffixOf path then
    return .count (← readField param (path.take (path.length - countMark.length)) path)
  else return .relation (← readField param path path)

def readIncludes (params : RequestParams) (names : ParamNames) :
    Parsed (Option Includes) := do
  let read (param : String) : Parsed (List Inclusion) := do
    let items := commaList (← textOf? params param)
    (items.filter fun item => !item.isEmpty).mapM (readInclusion param)
  let direct ← read names.includes
  let found := direct ++ (← read names.includesAlias)
  let relations := distinct <| found.filterMap fun
    | .relation name => some name
    | .count _ => none
  let counts := distinct <| found.filterMap fun
    | .count name => some name
    | .relation _ => none
  return if relations.isEmpty && counts.isEmpty then none else some ⟨relations, counts⟩

def readGroupBy (params : RequestParams) (names : ParamNames) : Parsed (List String) := do
  let raw ← textOf? params names.groupBy
  let items := (commaList raw).filter fun item => !item.isEmpty
  items.mapM fun item => readField names.groupBy item (raw.getD [])

/-- Reads a comparison of two fields. -/
def readComparison (param : String) (chunk : List Char) : Parsed Comparison :=
  match split ':' chunk with
  | [left, word, right] =>
    match (Operator.ofToken? word).filter fun op => op.comparator?.isSome with
    | none => fail param (.unknownComparison (String.ofList (trim word))) chunk
    | some op => return ⟨← readField param left chunk, op, ← readField param right chunk⟩
  | _ => fail param .notAComparison chunk

def readCompare (params : RequestParams) (names : ParamNames) : Parsed (List Comparison) := do
  match ← textOf? params names.compare with
  | none => return []
  | some raw => (chunks raw).mapM (readComparison names.compare)

/-- Reads a request; parameters under other names are ignored. -/
def parse (params : RequestParams) (names : ParamNames := {}) (enhanced : Bool := true) :
    Parsed Request := do
  let search ← readSearch params names enhanced
  let filter ← readSection params names.filter names.filterJoin
  let sort ← readSort params names
  let includes ← readIncludes params names
  let groupBy ← readGroupBy params names
  let having ← readSection params names.having names.havingJoin
  let compare ← readCompare params names
  return { search, filter, sort, includes, groupBy, having, compare }

end Request

end QueryCache
