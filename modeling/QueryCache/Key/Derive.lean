import QueryCache.Criteria.Pipeline
import QueryCache.Key.Sha256

/-! Keys of cached reads. -/

set_option autoImplicit false

namespace QueryCache.Key

/-- The number of digits kept of a hash. -/
def digestLength : Nat := 32

/-- The hash of a text, shortened. -/
def textHash (text : String) : String :=
  String.ofList ((Sha256.hexDigest text.toUTF8.toList).take digestLength)

/-- The hash of the canonical JSON of a value. -/
def contentHash (value : Value) : Except Failure String := do
  return textHash (← value.canonical).text

/-- The text that the arguments of a read are hashed by. -/
def argsText (args : List Value) : Except Failure String := do
  return (← (Value.list args).canonical).text

/-- The text that criteria are hashed by, in their order. -/
def criteriaText (criteria : List Identity) : Except Failure String := do
  return (JsonTree.array (← criteria.mapM Identity.json)).text

/-- The key of a read: a lead, the entity type, the operation, and the hashes of the texts of
its arguments and criteria. -/
def compose (lead entity operation argsText criteriaText : String) : String :=
  ":".intercalate [lead, entity, operation, textHash argsText, textHash criteriaText]

/-- The key of a read of these arguments under these criteria. -/
def derive (entity operation : String) (args : List Value) (criteria : List Identity)
    (lead : String := "repo") : Except Failure String := do
  return compose lead entity operation (← argsText args) (← criteriaText criteria)

end QueryCache.Key
