import QueryCache.Text.Case

/-! Patterns with two wildcards, compared without regard to case.

A percent sign stands for any text, a low line for any one character, every other character
for one that equals it when case is ignored. A line feed at the very end of the text may be
left over. -/

set_option autoImplicit false

namespace QueryCache.Like

/-- The endings of a text, the text itself first. -/
def endings : List Char → List (List Char)
  | [] => [[]]
  | c :: rest => (c :: rest) :: endings rest

/-- The rest of a text that starts with a character like `c`. -/
def dropLike? (c : Char) : List Char → Option (List Char)
  | [] => none
  | d :: rest => if Text.sameLetter c d then some rest else none

def dropAny? : List Char → Option (List Char)
  | [] => none
  | _ :: rest => some rest

/-- What one more pattern character leaves of a text. The texts that the pattern so far can
leave are endings of one text, the longest first, so a percent sign leaves the endings of the
first. -/
def advance (left : List (List Char)) (c : Char) : List (List Char) :=
  if c = '%' then
    match left with
    | [] => []
    | longest :: _ => endings longest
  else if c = '_' then left.filterMap dropAny?
  else left.filterMap (dropLike? c)

/-- What a pattern can leave of a text, the longest first. -/
def leftOver (pattern text : List Char) : List (List Char) :=
  pattern.foldl advance [text]

/-- Whether a pattern covers a text. -/
def matchesText (pattern text : List Char) : Bool :=
  (leftOver pattern text).any fun rest => rest == [] || rest == ['\n']

end QueryCache.Like
