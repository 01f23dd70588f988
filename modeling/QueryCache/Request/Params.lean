import QueryCache.Request.Basic

/-! Writing a request as parameters, the inverse of reading it. -/

set_option autoImplicit false

namespace QueryCache

namespace Condition

/-- A condition as it stands in a parameter. -/
def token (c : Condition) : String :=
  if c.operator.isNullary then c.field ++ ":" ++ c.operator.code
  else
    let values := ",".intercalate c.values
    if !c.explicit && !values.toList.contains ':' then c.field ++ ":" ++ values
    else c.field ++ ":" ++ c.operator.code ++ ":" ++ values

end Condition

def SearchField.token (f : SearchField) : String :=
  match f.operator with
  | none => f.field
  | some op => f.field ++ ":" ++ op.code

def Comparison.token (c : Comparison) : String :=
  c.left ++ ":" ++ c.operator.code ++ ":" ++ c.right

/-- Parameters in the order they were first set. -/
abbrev ParamTexts := List (String × String)

namespace ParamTexts

/-- Sets a parameter in place, or adds it at the end. -/
def set : ParamTexts → String → String → ParamTexts
  | [], name, text => [(name, text)]
  | (other, old) :: rest, name, text =>
    if other = name then (other, text) :: rest else (other, old) :: set rest name text

end ParamTexts

namespace Section

def conditionsText (s : Section) : String :=
  ";".intercalate (s.conditions.map Condition.token)

/-- The parameters of a search section. -/
def searchParams (s : Section) (names : ParamNames) : ParamTexts :=
  [(names.search, s.term.getD s.conditionsText), (names.searchJoin, s.join.code)] ++
    (if s.fields.isEmpty then []
     else [(names.searchFields, ";".intercalate (s.fields.map SearchField.token))])

def filterParams (s : Section) (param joinParam : String) : ParamTexts :=
  [(param, s.conditionsText), (joinParam, s.join.code)]

end Section

namespace Request

/-- The parameters in the order they are written. -/
def paramList (r : Request) (names : ParamNames) : ParamTexts :=
  (r.search.map (·.searchParams names)).getD [] ++
  (r.filter.map (·.filterParams names.filter names.filterJoin)).getD [] ++
  (match r.sort with
    | some (first :: rest) =>
      [(names.orderBy, ",".intercalate ((first :: rest).map (·.field))),
        (names.sortedBy, ",".intercalate ((first :: rest).map (·.direction.code)))]
    | _ => []) ++
  (match r.includes with
    | some i =>
      let paths := i.relations ++ i.counts.map (· ++ "_count")
      if paths.isEmpty then [] else [(names.includes, ",".intercalate paths)]
    | none => []) ++
  (if r.groupBy.isEmpty then [] else [(names.groupBy, ",".intercalate r.groupBy)]) ++
  (r.having.map (·.filterParams names.having names.havingJoin)).getD [] ++
  (if r.compare.isEmpty then []
   else [(names.compare, ";".intercalate (r.compare.map Comparison.token))])

/-- The request as parameters; of two under one name the later text stays. -/
def toParams (r : Request) (names : ParamNames := {}) : ParamTexts :=
  (r.paramList names).foldl (fun params entry => params.set entry.1 entry.2) []

end Request

end QueryCache
