import QueryCache.Request.Term
import QueryCache.Text.Word
import QueryCache.Value.Basic

/-! The structured form of a request: sections of conditions, a sort order, relations to
attach, grouping and comparisons of fields. Requests compare structurally. -/

set_option autoImplicit false

namespace QueryCache

/-- How the conditions of a section combine. -/
inductive Join where
  | and
  | or
  deriving DecidableEq, Repr

def Join.code : Join → String
  | .and => "and"
  | .or => "or"

def Join.ofCode? (code : String) : Option Join :=
  if code = "and" then some .and else if code = "or" then some .or else none

inductive Direction where
  | asc
  | desc
  deriving DecidableEq, Repr

def Direction.code : Direction → String
  | .asc => "asc"
  | .desc => "desc"

def Direction.ofCode? (code : String) : Option Direction :=
  if code = "asc" then some .asc else if code = "desc" then some .desc else none

/-- Whether a field carries an identifier: its name ends in a segment `id` or one that ends
in `_id` after another word character. One line feed at the very end is overlooked. -/
def isIdField (name : String) : Bool :=
  let text := name.toList
  ends text || (text.getLast? == some '\n' && ends text.dropLast)
where
  ends (text : List Char) : Bool :=
    match text.reverse with
    | 'd' :: 'i' :: before =>
      match before with
      | [] => true
      | '.' :: _ => true
      | '_' :: c :: rest =>
        let run := (c :: rest).takeWhile Text.isWord
        let beyond := (c :: rest).dropWhile Text.isWord
        !run.isEmpty && (beyond.isEmpty || beyond.head? == some '.')
      | _ => false
    | _ => false

/-- A condition of a section. `explicit` says that the request named the operator. -/
structure Condition where
  field : String
  operator : Operator
  values : List String := []
  join : Join := .and
  explicit : Bool := true
  deriving DecidableEq, Repr

namespace Condition

def maybeEncodedId (c : Condition) : Bool :=
  isIdField c.field

/-- The first value. -/
def value? (c : Condition) : Option String :=
  c.values.head?

end Condition

/-- A field that a search term is looked for in, with an operator of its own or none. -/
structure SearchField where
  field : String
  operator : Option Operator := none
  deriving DecidableEq, Repr

/-- The conditions of one part of a request. A search section holds conditions or a bare
term that is spread over fields. -/
structure Section where
  conditions : List Condition := []
  join : Join := .and
  term : Option String := none
  fields : List SearchField := []
  enhanced : Bool := true
  deriving DecidableEq, Repr

/-- The items of a list without repetitions, in the order of their first occurrence. -/
def distinct (names : List String) : List String :=
  names.foldl (fun seen name => if seen.contains name then seen else seen ++ [name]) []

namespace Section

/-- The tokens of the term; without enhanced reading the term is one token. -/
def tokens (s : Section) : Except Text.IntegerFault (List SearchToken) :=
  match s.term with
  | none => .ok []
  | some term => if s.enhanced then Term.tokens term else .ok [{ text := term }]

def fieldNames (s : Section) : List String :=
  distinct (s.conditions.map (·.field) ++
    if s.term.isSome then s.fields.map (·.field) else [])

end Section

structure SortField where
  field : String
  direction : Direction := .asc
  deriving DecidableEq, Repr

/-- The relations and relation counts to attach to each result. -/
structure Includes where
  relations : List String := []
  counts : List String := []
  deriving DecidableEq, Repr

/-- A comparison of two fields. -/
structure Comparison where
  left : String
  operator : Operator
  right : String
  deriving DecidableEq, Repr

structure Request where
  search : Option Section := none
  filter : Option Section := none
  sort : Option (List SortField) := none
  includes : Option Includes := none
  groupBy : List String := []
  having : Option Section := none
  compare : List Comparison := []
  deriving DecidableEq, Repr

namespace Request

def isEmpty (r : Request) : Bool :=
  r == {}

/-- Every entity field that the request reads, in the order of first mention. -/
def referencedFields (r : Request) : List String :=
  let sections := [r.search, r.filter, r.having].filterMap id
  distinct (sections.flatMap (·.fieldNames) ++ (r.sort.getD []).map (·.field) ++ r.groupBy ++
    r.compare.flatMap fun c => [c.left, c.right])

end Request

end QueryCache
