import QueryCache.Criteria.Criterion

/-! Applying a request to a query.

The operator of a condition is its own if the request named it, else the one of its search
field, else the one of the searchable field, else the default of the section. -/

set_option autoImplicit false

namespace QueryCache

/-- The operator that the last entry of a field gives it. -/
def operatorOfField? (fields : List SearchField) (name : String) : Option Operator :=
  (fields.reverse.find? fun f => f.field == name).bind (·.operator)

/-- A text that is looked for anywhere, unless it has a wildcard of its own. -/
def containsPattern (text : String) : String :=
  if text.toList.contains '%' then text else "%" ++ text ++ "%"

def containsValue : Value → Value
  | .str text => .str (containsPattern text)
  | value => value

namespace RequestCriterion

/-- Whether a request may use a field; without a whitelist it may use any. -/
def isAllowed (c : RequestCriterion) (field : String) : Bool :=
  c.searchable.isEmpty || c.searchable.any fun f => f.field == field

def check (c : RequestCriterion) (field : String) : Except Failure Unit :=
  if c.isAllowed field then .ok () else .error (.notSearchable field c.entity)

/-- The operator that a condition is compared with. -/
def operatorFor (c : RequestCriterion) (condition : Condition) (part : Section) : Operator :=
  if condition.explicit then condition.operator
  else
    ((operatorOfField? part.fields condition.field).or
      (operatorOfField? c.searchable condition.field)).getD condition.operator

/-- The leaf of a condition; decoded identifiers match exactly. -/
def leaf (c : RequestCriterion) (condition : Condition) (op : Operator) (decode : Bool) :
    Except Failure Predicate := do
  let values := condition.values.map Value.str
  let wrap (op : Operator) (values : List Value) : Predicate :=
    .field condition.field op (if op = .like then values.map containsValue else values)
  if decode && c.transcoder.isSome && condition.maybeEncodedId then
    match ← decodeValues condition.field values c.transcoder c.policy c.entity with
    | none => return .never
    | some values => return wrap (if op = .like then .eq else op) values
  else return wrap op values

/-- The predicates of the conditions of a section. -/
def leaves (c : RequestCriterion) (part : Section) (decode : Bool) :
    Except Failure (List Predicate) :=
  part.conditions.mapM fun condition => do
    c.check condition.field
    c.leaf condition (c.operatorFor condition part) decode

def applySection (c : RequestCriterion) (part : Section) (decode : Bool) (q : QueryState) :
    Except Failure QueryState := do
  let parts ← c.leaves part decode
  return if parts.isEmpty then q else q.addPredicate (Predicate.combine parts part.join)

/-- The fields that a search term is looked for in, each with its operator. -/
def termFields (c : RequestCriterion) (part : Section) :
    Except Failure (List (String × Operator)) :=
  let fields := if part.fields.isEmpty then c.searchable else part.fields
  if fields.isEmpty then .error (.termWithoutFields c.entity)
  else fields.mapM fun f => do
    c.check f.field
    return (f.field, (f.operator.or (operatorOfField? c.searchable f.field)).getD .like)

/-- A text looked for in fields. -/
def across (fields : List (String × Operator)) (join : Join) (text : String) : Predicate :=
  Predicate.combine
    (fields.map fun (name, op) =>
      .field name op [.str (if op = .like then containsPattern text else text)])
    join

/-- The predicates of search tokens: some optional one, every required one, no excluded
one. -/
def termParts (fields : List (String × Operator)) (join : Join) (tokens : List SearchToken) :
    List Predicate :=
  let ofMode (mode : TokenMode) := (tokens.filter fun t => t.mode == mode).map (·.text)
  let optional := (ofMode .optional).map (across fields join)
  (if optional.isEmpty then [] else [Predicate.combine optional .or]) ++
    (ofMode .required).map (across fields join) ++
    (ofMode .excluded).map fun text => .not (across fields .or text)

def applyTerm (c : RequestCriterion) (part : Section) (q : QueryState) :
    Except Failure QueryState := do
  let fields ← c.termFields part
  let tokens ← part.tokens.mapError Failure.ofInteger
  let parts := termParts fields part.join tokens
  return if parts.isEmpty then q else q.addPredicate (Predicate.combine parts .and)

def applySearch (c : RequestCriterion) (part : Section) (q : QueryState) :
    Except Failure QueryState :=
  if part.term.isSome then c.applyTerm part q else c.applySection part c.decodeSearch q

def applyComparison (c : RequestCriterion) (q : QueryState) (comparison : Comparison) :
    Except Failure QueryState := do
  c.check comparison.left
  c.check comparison.right
  q.addColumn comparison.left comparison.operator comparison.right

/-- The conditions on groups; they are neither checked nor decoded. -/
def applyHaving (part : Section) (q : QueryState) : QueryState :=
  let parts : List Predicate :=
    part.conditions.map fun c => .field c.field c.operator (c.values.map Value.str)
  if parts.isEmpty then q else q.addHaving (Predicate.combine parts part.join)

/-- Adds what does not fail: sort order, relations, groups and conditions on groups. -/
def applyShape (request : Request) (q : QueryState) : QueryState :=
  let q := (request.sort.getD []).foldl (fun q f => q.orderBy f.field f.direction) q
  let includes := request.includes.getD {}
  let q := includes.relations.foldl QueryState.addRelation q
  let q := includes.counts.foldl QueryState.addCount q
  let q := q.addGroups request.groupBy
  match request.having with
  | some part => applyHaving part q
  | none => q

/-- Adds a request to a query. -/
def apply (c : RequestCriterion) (q : QueryState) : Except Failure QueryState := do
  let q ← match c.request.search with
    | some part => c.applySearch part q
    | none => pure q
  let q ← match c.request.filter with
    | some part => c.applySection part c.decodeFilters q
    | none => pure q
  let q ← c.request.compare.foldlM c.applyComparison q
  return applyShape c.request q

/-- The entity fields that the request reads; a term without fields of its own reads the
searchable ones. -/
def fields (c : RequestCriterion) : List String :=
  let termFields :=
    match c.request.search with
    | some part =>
      if part.term.isSome && part.fields.isEmpty then c.searchable.map (·.field) else []
    | none => []
  distinct (c.request.referencedFields ++ termFields)

/-- The conditions of a section that pin a field to a value. -/
def pinned (c : RequestCriterion) (part : Section) : Except Failure (List (String × Value)) :=
  (part.conditions.filter fun condition => c.operatorFor condition part == .eq).mapM
    fun condition =>
      match condition.values with
      | value :: _ => .ok (condition.field, .str value)
      | [] => .error .missingValue

def equalities (c : RequestCriterion) : Except Failure (List (String × Value)) := do
  let parts ← ([c.request.filter, c.request.search].filterMap id).mapM c.pinned
  return parts.flatten

end RequestCriterion

namespace Criterion

/-- Adds a criterion to a query. -/
def apply (c : Criterion) (q : QueryState) : Except Failure QueryState :=
  match c with
  | .field name op values => .ok (q.addField name op values)
  | .column left op right => q.addColumn left op right
  | .orderBy name direction => .ok (q.orderBy name direction)
  | .relation path => .ok (q.addRelation path)
  | .relationCount path => .ok (q.addCount path)
  | .scope s => s.run s.args q
  | .request r => r.apply q

/-- The entity fields that a criterion reads. -/
def fields : Criterion → List String
  | .field name _ _ => [name]
  | .column left _ right => [left, right]
  | .orderBy name _ => [name]
  | .relation _ => []
  | .relationCount _ => []
  | .scope s => s.reads
  | .request r => r.fields

/-- The fields that a criterion pins to one value. -/
def equalities : Criterion → Except Failure (List (String × Value))
  | .field name .eq values =>
    match values with
    | value :: _ => .ok [(name, value)]
    | [] => .error .missingValue
  | .request r => r.equalities
  | _ => .ok []

end Criterion

end QueryCache
