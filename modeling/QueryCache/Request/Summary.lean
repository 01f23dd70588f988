import QueryCache.Request.Params

/-! Requests as values, each part with what follows from it: the token of an operator, the
tokens of a term, the fields that are read. -/

set_option autoImplicit false

namespace QueryCache

def SearchToken.describe (t : SearchToken) : Value :=
  .dict [("text", .str t.text), ("mode", .str t.mode.code), ("phrase", .bool t.phrase),
    ("fuzziness", .ofOption (fun distance : Nat => .int distance) t.fuzziness)]

def Condition.describe (c : Condition) : Value :=
  .dict [("field", .str c.field), ("operator", .str c.operator.code),
    ("values", .ofTexts c.values), ("join", .str c.join.code), ("explicit", .bool c.explicit),
    ("maybe_encoded_id", .bool c.maybeEncodedId), ("value", .ofOption .str c.value?),
    ("token", .str c.token)]

def SearchField.describe (f : SearchField) : List Value :=
  [.str f.field, .ofOption (fun op => .str op.code) f.operator]

namespace Section

def describe (s : Section) : Except Text.IntegerFault Value := do
  let tokens ← s.tokens
  return .dict [
    ("filters", .list (s.conditions.map Condition.describe)),
    ("join", .str s.join.code),
    ("term", .ofOption .str s.term),
    ("enhanced", .bool s.enhanced),
    ("fields", .list (s.fields.map fun f => .list (f.describe ++ [.str f.token]))),
    ("tokens", .list (tokens.map SearchToken.describe)),
    ("field_names", .ofTexts s.fieldNames)]

def describe? (part : Option Section) : Except Text.IntegerFault Value :=
  match part with
  | some s => s.describe
  | none => .ok .null

end Section

namespace Request

def describe (r : Request) : Except Text.IntegerFault Value := do
  let sort (fields : List SortField) : Value :=
    .list (fields.map fun f => .ofTexts [f.field, f.direction.code])
  let includes (i : Includes) : Value :=
    .dict [("relations", .ofTexts i.relations), ("counts", .ofTexts i.counts)]
  return .dict [
    ("search", ← Section.describe? r.search),
    ("filter", ← Section.describe? r.filter),
    ("having", ← Section.describe? r.having),
    ("sort", .ofOption sort r.sort),
    ("include", .ofOption includes r.includes),
    ("group_by", .ofTexts r.groupBy),
    ("compare", .ofTexts (r.compare.map (·.token))),
    ("is_empty", .bool r.isEmpty),
    ("referenced", .ofTexts r.referencedFields)]

end Request

end QueryCache
