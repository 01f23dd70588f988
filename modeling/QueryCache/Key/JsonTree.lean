import QueryCache.Decimal.Notation
import QueryCache.Text.Quoted

/-! Compact JSON texts: no blanks, strings raw except for quotes, backslashes and control
characters, floats in the fewest digits, numbers that JSON lacks as null. -/

set_option autoImplicit false

namespace QueryCache

inductive JsonTree where
  | null
  | bool (b : Bool)
  | int (n : Int)
  | float (x : Binary64)
  | str (s : String)
  | array (items : List JsonTree)
  | object (fields : List (String × JsonTree))
  deriving Repr, Inhabited

namespace JsonTree

/-- One character inside a JSON string. -/
def escapedChar (c : Char) : List Char :=
  if c = '\"' then ['\\', '\"']
  else if c = '\\' then ['\\', '\\']
  else if c = '\n' then ['\\', 'n']
  else if c = '\r' then ['\\', 'r']
  else if c = '\t' then ['\\', 't']
  else if c.toNat = 8 then ['\\', 'b']
  else if c.toNat = 12 then ['\\', 'f']
  else if c.toNat < 32 then '\\' :: 'u' :: Text.hex 4 c.toNat
  else [c]

def stringText (s : String) : List Char :=
  '\"' :: s.toList.flatMap escapedChar ++ ['\"']

/-- A float; those that JSON cannot write become null. -/
def floatText (x : Binary64) : List Char :=
  match x with
  | .finite _ _ => x.textIn .compact
  | _ => ['n', 'u', 'l', 'l']

mutual

def chars : JsonTree → List Char
  | .null => ['n', 'u', 'l', 'l']
  | .bool true => ['t', 'r', 'u', 'e']
  | .bool false => ['f', 'a', 'l', 's', 'e']
  | .int n => (toString n).toList
  | .float x => floatText x
  | .str s => stringText s
  | .array [] => ['[', ']']
  | .array (item :: rest) => '[' :: item.chars ++ itemChars rest
  | .object [] => ['\x7b', '\x7d']
  | .object ((name, value) :: rest) =>
    '\x7b' :: stringText name ++ ':' :: value.chars ++ fieldChars rest

/-- The further items of an array and its end. -/
def itemChars : List JsonTree → List Char
  | [] => [']']
  | item :: rest => ',' :: item.chars ++ itemChars rest

/-- The further fields of an object and its end. -/
def fieldChars : List (String × JsonTree) → List Char
  | [] => ['\x7d']
  | (name, value) :: rest => ',' :: stringText name ++ ':' :: value.chars ++ fieldChars rest

end

def text (t : JsonTree) : String := String.ofList t.chars

end JsonTree

end QueryCache
