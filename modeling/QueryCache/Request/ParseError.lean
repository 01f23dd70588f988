import QueryCache.Text.Quoted
import QueryCache.Operator

/-! Why a request parameter is malformed. -/

set_option autoImplicit false

namespace QueryCache

inductive ParseReason where
  | notText (type : String)
  | badJoin
  | badDirection
  | emptyField
  | operatorAsField (name : String)
  | invalidField (name : String)
  | missingColon
  | unknownOperator (word : String)
  | takesNoValue (op : Operator)
  | unterminatedList (op : Operator)
  | notTwoValues (op : Operator)
  | missingValue
  | unusableSearchOperator (word : String)
  | notAComparison
  | unknownComparison (word : String)
  deriving DecidableEq, Repr

def ParseReason.text : ParseReason → String
  | .notText type => "expected a string, got " ++ type
  | .badJoin => "join must be 'and' or 'or'"
  | .badDirection => "direction must be 'asc' or 'desc'"
  | .emptyField => "empty field name"
  | .operatorAsField name => "operator " ++ Text.quote name ++ " where a field was expected"
  | .invalidField name => "invalid field name " ++ Text.quote name
  | .missingColon => "expected field:value"
  | .unknownOperator word => "unknown operator " ++ Text.quote word
  | .takesNoValue op => op.code ++ " takes no value"
  | .unterminatedList op => "unterminated " ++ op.code ++ " value list"
  | .notTwoValues op => op.code ++ " takes exactly two values"
  | .missingValue => "missing value"
  | .unusableSearchOperator word => "unusable search operator " ++ Text.quote word
  | .notAComparison => "expected fieldA:operator:fieldB"
  | .unknownComparison word => "unknown comparison operator " ++ Text.quote word

/-- A malformed parameter, why, and the fragment that could not be read. -/
structure ParseError where
  param : String
  reason : ParseReason
  token : Option String
  deriving DecidableEq, Repr

def ParseError.message (e : ParseError) : String :=
  "Invalid " ++ Text.quote e.param ++ " parameter: " ++ e.reason.text ++
    (match e.token with
      | some token => " in " ++ Text.quote token
      | none => "")

end QueryCache
