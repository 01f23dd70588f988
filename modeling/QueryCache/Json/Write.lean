import QueryCache.Failure
import QueryCache.Text.Quoted

/-! JSON texts with a blank after each comma and colon, in ASCII alone. -/

set_option autoImplicit false

namespace QueryCache.Json

/-- A code unit of sixteen bits as an escape. -/
def unitEscape (unit : Nat) : List Char := '\\' :: 'u' :: Text.hex 4 unit

/-- One character inside a string; beyond sixteen bits it takes two code units. -/
def escaped (c : Char) : List Char :=
  if c = '"' then ['\\', '"']
  else if c = '\\' then ['\\', '\\']
  else if c = '\n' then ['\\', 'n']
  else if c = '\r' then ['\\', 'r']
  else if c = '\t' then ['\\', 't']
  else if c.toNat = 8 then ['\\', 'b']
  else if c.toNat = 12 then ['\\', 'f']
  else if 32 ≤ c.toNat ∧ c.toNat < 127 then [c]
  else if c.toNat < 0x10000 then unitEscape c.toNat
  else
    let n := c.toNat - 0x10000
    unitEscape (0xD800 + n / 0x400) ++ unitEscape (0xDC00 + n % 0x400)

def string (s : String) : List Char := '"' :: s.toList.flatMap escaped ++ ['"']

def number (x : Binary64) : List Char :=
  match x with
  | .nan => "NaN".toList
  | .infinite true => "-Infinity".toList
  | .infinite false => "Infinity".toList
  | x => x.text.toList

/-- The parts with a comma and a blank between them. -/
def separated : List (List Char) → List Char
  | [] => []
  | [part] => part
  | part :: rest => part ++ ',' :: ' ' :: separated rest

mutual

def write : Value → Except Failure (List Char)
  | .null => .ok "null".toList
  | .bool b => .ok (if b then "true" else "false").toList
  | .int n => .ok (toString n).toList
  | .float x => .ok (number x)
  | .nan _ => .ok (number .nan)
  | .str s => .ok (string s)
  | .list items => (writeAll items).map fun parts => '[' :: separated parts ++ [']']
  | .tuple items => (writeAll items).map fun parts => '[' :: separated parts ++ [']']
  | .dict entries => (writeFields entries).map fun parts => '\x7b' :: separated parts ++ ['\x7d']
  | other => .error (.wrongType
      ("Object of type " ++ other.typeName ++ " is not JSON serializable"))

def writeAll : List Value → Except Failure (List (List Char))
  | [] => .ok []
  | item :: rest => do return (← write item) :: (← writeAll rest)

def writeFields : List (String × Value) → Except Failure (List (List Char))
  | [] => .ok []
  | (name, value) :: rest => do
    let part := string name ++ ':' :: ' ' :: (← write value)
    return part :: (← writeFields rest)

end

end QueryCache.Json
