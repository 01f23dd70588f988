import QueryCache.Failure
import QueryCache.Text.Digit

/-! Opaque identifiers: public tokens in place of the numbers that identify entities. -/

set_option autoImplicit false

namespace QueryCache

/-- Maps public tokens to identifiers and back. A token that stands for none decodes to
none. -/
structure Transcoder where
  decode : String → Except Failure (Option Int)
  encode : Int → String

/-- What becomes of a token that stands for no identifier. -/
inductive DecodePolicy where
  /-- The condition never holds. -/
  | noMatch
  /-- The token stays as it is. -/
  | literal
  /-- The request fails. -/
  | error
  deriving DecidableEq, Repr

def DecodePolicy.code : DecodePolicy → String
  | .noMatch => "no_match"
  | .literal => "literal"
  | .error => "error"

def DecodePolicy.ofCode? (code : String) : Option DecodePolicy :=
  if code = "no_match" then some .noMatch
  else if code = "literal" then some .literal
  else if code = "error" then some .error
  else none

/-- Reads a text of decimal digits as an integer. -/
def decimalInt (text : List Char) : Except Failure Int :=
  (Text.readInteger text).mapError Failure.ofInteger

namespace Transcoder

/-- Tokens that are the decimal numbers themselves. -/
def plain : Transcoder where
  decode token :=
    let digits := Text.trim token.toList
    if Text.isDecimalText digits then (decimalInt digits).map some else .ok none
  encode n := toString n

/-- Tokens that are a mark followed by decimal digits. -/
def marked (mark : String) : Transcoder where
  decode token :=
    let text := token.toList
    let digits := text.drop mark.toList.length
    if mark.toList.isPrefixOf text && !digits.isEmpty && digits.all Char.isDigit then
      (decimalInt digits).map some
    else .ok none
  encode n := mark ++ toString n

end Transcoder

/-- The outcome of decoding one value of a field that carries identifiers. -/
inductive Decoded where
  | value (v : Value)
  /-- The condition never holds. -/
  | impossible

/-- Decodes one value: numbers and decimal texts are identifiers already. -/
def decodeValue (field : String) (transcoder : Option Transcoder) (policy : DecodePolicy)
    (entity : Option String) (value : Value) : Except Failure Decoded :=
  match value with
  | .str token => do
    if Text.isDecimalText token.toList then
      return .value (.int (← decimalInt token.toList))
    else
      let found ← match transcoder with
        | some t => t.decode token
        | none => pure none
      match found, policy with
      | some id, _ => return .value (.int id)
      | none, .noMatch => return .impossible
      | none, .literal => return .value value
      | none, .error => throw (.undecodable field token entity)
  | _ => return .value value

/-- Decodes the values of a condition; none when the condition never holds. -/
def decodeValues (field : String) (values : List Value) (transcoder : Option Transcoder)
    (policy : DecodePolicy) (entity : Option String) : Except Failure (Option (List Value)) :=
  match values with
  | [] => .ok (some [])
  | value :: rest => do
    match ← decodeValue field transcoder policy entity value with
    | .impossible => return none
    | .value v => return (← decodeValues field rest transcoder policy entity).map (v :: ·)

end QueryCache
