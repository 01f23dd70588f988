import QueryCache.Decimal.Reading
import QueryCache.Value.Basic

/-! Reading JSON texts.

Besides what the format has, the words for the numbers it lacks are read. Of two entries with
one name the later counts. A number without fraction and exponent is an integer. A text that
cannot be read has a fault, with the place where reading stopped. -/

set_option autoImplicit false

namespace QueryCache.Json

/-- Why a text is no JSON, and how many of its characters are left from the place on. -/
inductive Fault where
  | malformed (reason : String) (left : Nat)
  /-- Lists or mappings, as the word says, are nested too deep. -/
  | tooDeep (container : String)
  | tooManyDigits (count : Nat)
  deriving DecidableEq, Repr

/-- A fault at the start of a text. -/
def fault {α : Type} (reason : String) (text : List Char) : Except Fault α :=
  .error (.malformed reason text.length)

/-- The blanks of the format. -/
def isBlank (c : Char) : Bool := c = ' ' || c = '\t' || c = '\n' || c = '\r'

def skip (text : List Char) : List Char := text.dropWhile isBlank

def hexDigit? (c : Char) : Option Nat :=
  if c.isDigit then some (c.toNat - 48)
  else if 'a' ≤ c ∧ c ≤ 'f' then some (c.toNat - 87)
  else if 'A' ≤ c ∧ c ≤ 'F' then some (c.toNat - 55)
  else none

/-- The code unit that four hexadecimal digits write; a character has to follow them. -/
def unit? : List Char → Option (Nat × List Char)
  | a :: b :: c :: d :: next :: rest => do
    let high := (← hexDigit? a) * 16 + (← hexDigit? b)
    let low := (← hexDigit? c) * 16 + (← hexDigit? d)
    return (high * 256 + low, next :: rest)
  | _ => none

/-- The code unit of an escape, from the letter after the backslash on. -/
def unit (text : List Char) : Except Fault (Nat × List Char) :=
  match unit? (text.drop 1) with
  | some found => .ok found
  | none => fault "Invalid \\uXXXX escape" text

/-- The character that a letter after a backslash stands for. -/
def escape? (c : Char) : Option Char :=
  match c with
  | '"' => some '"'
  | '\\' => some '\\'
  | '/' => some '/'
  | 'b' => some (Char.ofNat 8)
  | 'f' => some (Char.ofNat 12)
  | 'n' => some '\n'
  | 'r' => some '\r'
  | 't' => some '\t'
  | _ => none

/-- The character with a number; the half of one is replaced. -/
def charOf (code : Nat) : Char := if code.isValidChar then Char.ofNat code else Char.ofNat 0xFFFD

/-- A character of one code unit, or of two that belong together, from the letter after the
backslash on. The second one is looked at where enough characters are left for it. -/
def unitChar (text : List Char) : Except Fault (Char × List Char) := do
  let (high, rest) ← unit text
  match rest with
  | '\\' :: 'u' :: more =>
    if 0xD800 ≤ high ∧ high < 0xDC00 ∧ !(more.drop 4).isEmpty then
      let (low, after) ← unit ('u' :: more)
      if 0xDC00 ≤ low ∧ low < 0xE000 then
        return (charOf (0x10000 + (high - 0xD800) * 0x400 + (low - 0xDC00)), after)
      return (charOf high, rest)
    return (charOf high, rest)
  | _ => return (charOf high, rest)

/-- The rest of a string after the characters read, the last of them first; no fault stands for
the end of the text. The fuel bounds the characters. -/
def stringBody : Nat → List Char → List Char → Except (Option Fault) (String × List Char)
  | 0, _, _ | _, _, [] | _, _, ['\\'] => .error none
  | fuel + 1, read, c :: rest =>
    if c = '"' then .ok (String.ofList read.reverse, rest)
    else if c.toNat < 32 then (fault "Invalid control character at" (c :: rest)).mapError some
    else if c = '\\' then
      match rest with
      | 'u' :: _ =>
        match unitChar rest with
        | .ok (c, rest) => stringBody fuel (c :: read) rest
        | .error e => .error (some e)
      | mark :: rest =>
        match escape? mark with
        | some c => stringBody fuel (c :: read) rest
        | none => (fault "Invalid \\escape" (c :: mark :: rest)).mapError some
      | [] => .error none
    else stringBody fuel (c :: read) rest

/-- A string from its first quote on. -/
def readString (fuel : Nat) (text : List Char) : Except Fault (String × List Char) :=
  match stringBody fuel [] (text.drop 1) with
  | .ok found => .ok found
  | .error (some e) => .error e
  | .error none => fault "Unterminated string starting at" text

/-- Digits in a row. -/
def digits (text : List Char) : List Char × List Char := text.span Char.isDigit

/-- The part of a number after its whole digits: a fraction and an exponent. -/
def fraction (text : List Char) : List Char × List Char :=
  let (point, text) :=
    match text with
    | '.' :: rest =>
      match digits rest with
      | ([], _) => ([], text)
      | (ds, after) => ('.' :: ds, after)
    | _ => ([], text)
  match text with
  | mark :: rest =>
    if mark = 'e' ∨ mark = 'E' then
      let (sign, body) := rest.span fun c => c = '+' || c = '-'
      match digits body with
      | ([], _) => (point, text)
      | (ds, after) =>
        if sign.length ≤ 1 then (point ++ mark :: sign ++ ds, after) else (point, text)
    else (point, text)
  | [] => (point, [])

def expectingValue : String := "Expecting value"

/-- A number; one that starts with zero has no further whole digits. -/
def readNumber (text : List Char) : Except Fault (Value × List Char) := do
  let (sign, body) :=
    match text with
    | '-' :: rest => (['-'], rest)
    | _ => ([], text)
  let (whole, rest) :=
    match body with
    | '0' :: rest => (['0'], rest)
    | _ => digits body
  if whole.isEmpty then fault expectingValue text
  else
    match fraction rest with
    | ([], rest) =>
      match Text.readInteger (sign ++ whole) with
      | .ok n => return (.int n, rest)
      | .error (.tooManyDigits count) => throw (.tooManyDigits count)
      | .error .malformed => fault expectingValue text
    | (part, rest) =>
      match Binary64.ofText? (sign ++ whole ++ part) with
      | some x => return (.float x, rest)
      | none => fault expectingValue text

/-- Drops a word from the front. -/
def word? (word : String) (text : List Char) : Option (List Char) :=
  let word := word.toList
  if text.take word.length = word then some (text.drop word.length) else none

/-- The words that are values. -/
def words : List (String × Value) := [("null", .null), ("true", .bool true),
  ("false", .bool false), ("NaN", .float .nan), ("Infinity", .float (.infinite false)),
  ("-Infinity", .float (.infinite true))]

mutual

/-- One value, nested no deeper than `depth` says; the fuel bounds the characters. -/
def readValue : Nat → Nat → List Char → Except Fault (Value × List Char)
  | 0, _, text => fault expectingValue text
  | fuel + 1, depth, text =>
    match text with
    | '"' :: _ => do
      let (s, rest) ← readString (fuel + 1) text
      return (.str s, rest)
    | '[' :: rest =>
      match depth, skip rest with
      | 0, _ => throw (.tooDeep "array")
      | _, ']' :: rest => .ok (.list [], rest)
      | depth + 1, rest => do
        let (found, rest) ← readItems fuel depth [] rest
        return (.list found, rest)
    | '\x7b' :: rest =>
      match depth, skip rest with
      | 0, _ => throw (.tooDeep "object")
      | _, '\x7d' :: rest => .ok (.dict [], rest)
      | depth + 1, rest => do
        let (found, rest) ← readFields fuel depth [] rest
        return (.dict found, rest)
    | _ =>
      match words.findSome? fun (word, value) => (word? word text).map ((value, ·)) with
      | some found => .ok found
      | none => readNumber text

/-- The items of a list after those read, the last of them first. -/
def readItems : Nat → Nat → List Value → List Char → Except Fault (List Value × List Char)
  | 0, _, _, text => fault expectingValue text
  | fuel + 1, depth, read, text => do
    let (item, rest) ← readValue fuel depth text
    match skip rest with
    | ',' :: rest => readItems fuel depth (item :: read) (skip rest)
    | ']' :: rest => return ((item :: read).reverse, rest)
    | rest => fault "Expecting ',' delimiter" rest

/-- The entries of a mapping after those read. -/
def readFields : Nat → Nat → Record → List Char → Except Fault (Record × List Char)
  | 0, _, _, text => fault expectingValue text
  | fuel + 1, depth, read, text => do
    match text with
    | '"' :: _ =>
      let (name, rest) ← readString (fuel + 1) text
      match skip rest with
      | ':' :: rest =>
        let (value, rest) ← readValue fuel depth (skip rest)
        let read := Record.set read name value
        match skip rest with
        | ',' :: rest => readFields fuel depth read (skip rest)
        | '\x7d' :: rest => return (read, rest)
        | rest => fault "Expecting ',' delimiter" rest
      | rest => fault "Expecting ':' delimiter" rest
    | _ => fault "Expecting property name enclosed in double quotes" text

end

/-- The value that a whole text writes. -/
def read (text : List Char) : Except Fault Value := do
  let (value, rest) ← readValue (2 * text.length + 2) Value.deepest (skip text)
  match skip rest with
  | [] => return value
  | rest => fault "Extra data" rest

def read? (text : List Char) : Option Value := (read text).toOption

/-- A place in a text: the line, the column in it, and the characters before. -/
def place (text : List Char) (index : Nat) : String :=
  let before := text.take index
  let column := (before.reverse.takeWhile (· ≠ '\n')).length + 1
  "line " ++ toString (before.count '\n' + 1) ++ " column " ++ toString column ++
    " (char " ++ toString index ++ ")"

end QueryCache.Json
