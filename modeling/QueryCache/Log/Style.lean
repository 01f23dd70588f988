import QueryCache.Text.Split

/-! Colours and styles of a terminal by the names they have in a format.

A small letter or word colours the text, a capital one what is behind it. A colour may also be
a number of a palette, six or three digits of base sixteen, or three numbers. -/

set_option autoImplicit false

namespace QueryCache.Style

/-- The sequence that sets what some numbers stand for. -/
def sequence (codes : String) : String := "\x1b[" ++ codes ++ "m"

/-- The sequence that takes every style back. -/
def reset : String := sequence "0"

def styles : List (String × Nat) := [
  ("b", 1), ("d", 2), ("n", 22), ("h", 8), ("i", 3), ("l", 5), ("s", 9), ("u", 4), ("v", 7),
  ("bold", 1), ("dim", 2), ("normal", 22), ("hide", 8), ("italic", 3), ("blink", 5),
  ("strike", 9), ("underline", 4), ("reverse", 7)]

/-- The colours in the order of their numbers, by letter and by word. -/
def colors : List (String × String) := [("k", "black"), ("r", "red"), ("g", "green"),
  ("y", "yellow"), ("e", "blue"), ("m", "magenta"), ("c", "cyan"), ("w", "white")]

/-- The number of a colour by its letter or its word; light ones are numbered from sixty on. -/
def colorNumber? (name : String) : Option Nat :=
  colors.zipIdx.findSome? fun ((letter, word), index) =>
    if name = letter || name = word then some index
    else if name = "l" ++ letter || name = "light-" ++ word then some (60 + index)
    else none

/-- A colour of the text. -/
def foreground? (name : String) : Option String :=
  (colorNumber? name).map fun n => sequence (toString (30 + n))

/-- A colour of what is behind the text, in capitals. -/
def background? (name : String) : Option String :=
  if name.any Char.isLower then none
  else (colorNumber? (name.map Char.toLower)).map fun n => sequence (toString (40 + n))

/-- A number of at most 255. -/
def isByte (digits : List Char) : Bool :=
  !digits.isEmpty && digits.all Char.isDigit &&
    (digits.filterMap fun c => if c.isDigit then some (c.toNat - 48) else none).foldl
      (10 * · + ·) 0 ≤ 255

def hexDigit? (c : Char) : Option Nat :=
  if c.isDigit then some (c.toNat - 48)
  else if 'a' ≤ c ∧ c ≤ 'f' then some (c.toNat - 87)
  else if 'A' ≤ c ∧ c ≤ 'F' then some (c.toNat - 55)
  else none

/-- The three parts of a colour of six digits, or of three digits that stand twice. -/
def hexParts? (digits : List Char) : Option (List Nat) := do
  match ← digits.mapM hexDigit? with
  | [a, b, c] =>
    let twice := [a, b, c, a, b, c]
    return parts twice
  | [a, b, c, d, e, f] => return parts [a, b, c, d, e, f]
  | _ => failure
where
  parts : List Nat → List Nat
    | high :: low :: rest => (16 * high + low) :: parts rest
    | _ => []

/-- A colour that is told by numbers; `code` says what it is for. -/
def numbered? (code : String) (color : List Char) : Option String :=
  let told (kind : String) (parts : List String) : String :=
    sequence (";".intercalate (code :: kind :: parts))
  if isByte color then some (told "5" [String.ofList color])
  else
    match color with
    | '#' :: digits => (hexParts? digits).map fun parts => told "2" (parts.map toString)
    | _ =>
      let parts := Text.split ',' color
      if parts.length = 3 && parts.all isByte then some (told "2" (parts.map String.ofList))
      else none

/-- The sequence of a name. -/
def ofName? (name : List Char) : Option String :=
  let text := String.ofList name
  (((styles.lookup text).map fun n => sequence (toString n)).or (foreground? text)).or
    ((background? text).or
      (match name with
        | 'f' :: 'g' :: ' ' :: color =>
          (foreground? ((String.ofList color).map Char.toLower)).or (numbered? "38" color)
        | 'b' :: 'g' :: ' ' :: color =>
          (background? ((String.ofList color).map Char.toUpper)).or (numbered? "48" color)
        | _ => none))

end QueryCache.Style
