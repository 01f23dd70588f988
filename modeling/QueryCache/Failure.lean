import QueryCache.Request.ParseError
import QueryCache.Text.Digit
import QueryCache.Text.Encoding
import QueryCache.Value.Text

/-! Everything that can go wrong, by cause, and the text that reports it. -/

set_option autoImplicit false

namespace QueryCache

inductive Failure where
  /-- A request parameter is malformed. -/
  | parse (error : ParseError)
  /-- No entity has the identifier. -/
  | notFound (entity : String) (id : Value)
  /-- An identifier token cannot be decoded. -/
  | undecodable (field token : String) (entity : Option String)
  /-- A request names a field outside the searchable ones. -/
  | notSearchable (field : String) (entity : Option String)
  /-- A search term has no field to be looked for in. -/
  | termWithoutFields (entity : Option String)
  | unknownRelation (name entity : String)
  /-- The cache failed in some other way than being away. -/
  | cache (text : String)
  | cacheUnavailable (operation : String) (reason : Option String)
  | invalidation (tags : List String) (attempts : Int)
  /-- An operator with a number of values it does not take. -/
  | arity (op : Operator) (count : Nat)
  /-- An operator that does not compare fields. -/
  | notAComparator (op : Operator)
  | betweenArity
  /-- A word, in its literal form, that names no operator. -/
  | unknownOperator (literal : String)
  | searchableOperator (field : String) (op : Operator)
  | untagged (key : String)
  | unknownHeader (header : List UInt8)
  /-- Settings that are not of their types, by the paths to the faults. -/
  | invalidSettings (fields : List String)
  /-- A variable of the environment that is no JSON text. -/
  | unreadableSetting (field : String)
  /-- A value error with a text of its own. -/
  | invalid (text : String)
  /-- A run-time error with a text of its own. -/
  | runtime (text : String)
  | unboundBuilder
  /-- A value that no key can be derived from. -/
  | unkeyable (type : String)
  /-- A number with more digits than can be read. -/
  | tooManyDigits (count : Nat)
  /-- A reply with another number of parts than expected, or a part that is no number. -/
  | malformedReply
  /-- A payload that is no encoded value. -/
  | malformedPayload (text : String)
  /-- A payload whose parts stand for no value, though its form is right. -/
  | invalidPayload (text : String)
  /-- A payload without a body. -/
  | emptyPayload
  /-- A payload that another program wrote. -/
  | foreignPayload (text : String)
  /-- A payload that is no JSON text. -/
  | malformedJson (text : String)
  /-- Bytes that are no text. -/
  | undecodableText (fault : Text.EncodingFault)
  /-- A value with more levels of nesting than can be read. -/
  | tooDeep (text : String)
  /-- A payload that is not compressed as its header says. -/
  | malformedCompression
  /-- A level of compression that there is none of. -/
  | compressionLevel
  /-- An operation on values of types it is not defined for. -/
  | wrongType (text : String)
  /-- A condition with too few values. -/
  | missingValue
  | missingKey (key : String)
  | missingAttribute
  /-- A number or a time out of a range. -/
  | overflow (text : String)
  | divisionByZero
  | cancelled
  deriving Repr

namespace Failure

/-- What is there unless an integer was out of the range of binary64. -/
def inRange {α : Type} (found : Option α) : Except Failure α :=
  found.elim (.error (.overflow "int too large to convert to float")) .ok

/-- Why a text that has to be an integer is none. -/
def ofInteger : Text.IntegerFault → Failure
  | .tooManyDigits count => .tooManyDigits count
  | .malformed => .malformedReply

/-- The report of a failure; the kinds that only their type tells have none of their own. -/
def text : Failure → String
  | .parse error => error.message
  | .notFound entity id => entity ++ " with ID " ++ id.text ++ " not found"
  | .undecodable field token _ =>
    "Could not decode identifier " ++ Text.quote token ++ " for field " ++ Text.quote field
  | .notSearchable field _ => "Field " ++ Text.quote field ++ " is not searchable"
  | .termWithoutFields _ => "A search term needs searchFields or searchable fields"
  | .unknownRelation name _ => "Unknown relation " ++ Text.quote name
  | .cache text => text
  | .cacheUnavailable operation reason =>
    "Cache backend unavailable during " ++ operation ++
      (match reason with
        | some reason => if reason.isEmpty then "" else ": " ++ reason
        | none => "")
  | .invalidation tags attempts =>
    "Invalidation of [" ++ commaSeparated (tags.map Text.quote) ++ "] failed after " ++
      toString attempts ++ " attempt(s)"
  | .arity op count => op.code ++ " cannot take " ++ toString count ++ " value(s)"
  | .notAComparator op =>
    "Unsupported column comparison operator: Operator." ++ op.constant
  | .betweenArity => "BETWEEN operator requires exactly 2 values"
  | .unknownOperator literal => "Unknown operator " ++ literal
  | .searchableOperator field op =>
    "Searchable field " ++ Text.quote field ++ " cannot default to " ++ op.code
  | .untagged key => "Cache entry " ++ Text.quote key ++ " must carry at least one tag"
  | .unknownHeader header =>
    "Unknown payload header " ++ String.ofList (Text.quotedBytes header)
  | .invalid text => text
  | .runtime text => text
  | .unboundBuilder => "QueryBuilder is not bound to an entity store"
  | .unkeyable type => "Cannot derive a cache key from " ++ type
  | .tooManyDigits count =>
    "Exceeds the limit (" ++ toString Text.maxDigits ++
      " digits) for integer string conversion: value has " ++ toString count ++
      " digits; use sys.set_int_max_str_digits() to increase the limit"
  | .malformedPayload text | .invalidPayload text | .malformedJson text => text
  | .foreignPayload text => text
  | .emptyPayload => "Ran out of input"
  | .undecodableText fault => fault.message
  | .tooDeep text => "maximum recursion depth exceeded while " ++ text
  | .overflow text => text
  | .malformedCompression => "brotli: decoder failed"
  | .compressionLevel => "brotli: invalid quality; range is 0 to 11"
  | .wrongType text => text
  | .missingKey key => Text.quote key
  | _ => ""

/-- What a failure tells apart from its text. -/
def attributes : Failure → Record
  | .parse e => [("entity_type", .null), ("operation", .str "parse"), ("param", .str e.param),
    ("reason", .str e.reason.text), ("token", .ofOption .str e.token)]
  | .notFound entity _ => [("entity_type", .str entity), ("operation", .str "find")]
  | .undecodable field token entity => [("entity_type", .ofOption .str entity),
    ("operation", .str "decode"), ("field", .str field), ("token", .str token)]
  | .notSearchable field entity =>
    [("entity_type", .ofOption .str entity), ("operation", .str "search"), ("field", .str field)]
  | .termWithoutFields entity =>
    [("entity_type", .ofOption .str entity), ("operation", .str "search")]
  | .unknownRelation _ entity => [("entity_type", .str entity), ("operation", .str "with")]
  | .cacheUnavailable operation reason =>
    [("operation", .str operation), ("reason", .ofOption .str reason)]
  | .invalidation _ attempts => [("attempts", .int attempts)]
  | .invalidSettings fields => [("fields", .ofTexts fields)]
  | _ => []

/-- Whether the text of a failure is its own, and not that of a library or of a type. -/
def hasText : Failure → Bool
  | .malformedPayload _ | .invalidPayload _ | .malformedJson _ | .undecodableText _ | .tooDeep _
  | .emptyPayload | .foreignPayload _
  | .malformedCompression | .compressionLevel | .unreadableSetting _ | .invalidSettings _
  | .wrongType _ | .missingValue | .missingKey _ | .missingAttribute | .overflow _
  | .divisionByZero | .cancelled | .tooManyDigits _ | .malformedReply => false
  | _ => true

end Failure

end QueryCache
