import QueryCache.Text.Digit

/-! Free-text search terms.

A term is read as phrases in double quotes and words up to the next blank, each with an
optional sign for required or excluded; a word may end in a fuzzy distance. Characters that
start no token are skipped. -/

set_option autoImplicit false

namespace QueryCache

inductive TokenMode where
  | optional
  | required
  | excluded
  deriving DecidableEq, Repr

def TokenMode.code : TokenMode → String
  | .optional => "optional"
  | .required => "required"
  | .excluded => "excluded"

/-- One element of a search term. -/
structure SearchToken where
  text : String
  mode : TokenMode := .optional
  phrase : Bool := false
  fuzziness : Option Nat := none
  deriving DecidableEq, Repr

namespace Term

/-- A lexeme of a term, before phrases are trimmed and distances read. -/
inductive Lexeme where
  | phrase (mode : TokenMode) (text : List Char)
  | word (mode : TokenMode) (text : List Char)
  deriving DecidableEq, Repr

/-- The mode that a sign stands for. -/
def signMode? : Char → Option TokenMode
  | '+' => some .required
  | '-' => some .excluded
  | _ => none

/-- Reads a phrase or a word at the start of a text; the rest follows it. -/
def body? (mode : TokenMode) (text : List Char) : Option (Lexeme × List Char) :=
  match text with
  | '\"' :: rest =>
    let phrase := rest.takeWhile (· ≠ '\"')
    match rest.dropWhile (· ≠ '\"') with
    | _ :: after => some (.phrase mode phrase, after)
    | [] => word mode text
  | _ => word mode text
where
  word (mode : TokenMode) (text : List Char) : Option (Lexeme × List Char) :=
    match text.takeWhile (fun c => !Text.isBlank c) with
    | [] => none
    | found => some (.word mode found, text.dropWhile fun c => !Text.isBlank c)

/-- Reads a token at the start of a text. A sign that nothing follows is a word itself. -/
def lexeme? (text : List Char) : Option (Lexeme × List Char) :=
  match text with
  | [] => none
  | c :: rest =>
    match (signMode? c).bind fun mode => body? mode rest with
    | some found => some found
    | none => body? .optional text

theorem word_length {mode : TokenMode} {text after : List Char} {found : Lexeme}
    (h : body?.word mode text = some (found, after)) : after.length < text.length := by
  unfold body?.word at h
  split at h
  · cases h
  · next word nonempty =>
    simp only [Option.some.injEq, Prod.mk.injEq] at h
    obtain ⟨_, rfl⟩ := h
    cases text with
    | nil => simp_all
    | cons c rest =>
      rw [List.dropWhile_cons]
      split
      · have := (List.dropWhile_sublist (l := rest) fun c => !Text.isBlank c).length_le
        simp; omega
      · simp_all

theorem body_length {mode : TokenMode} {text after : List Char} {found : Lexeme}
    (h : body? mode text = some (found, after)) : after.length < text.length := by
  unfold body? at h
  split at h
  · next rest =>
    split at h
    · next head tail rest_eq =>
      simp only [Option.some.injEq, Prod.mk.injEq] at h
      obtain ⟨_, rfl⟩ := h
      have := (List.dropWhile_sublist (l := rest) (· ≠ '\"')).length_le
      rw [rest_eq] at this
      simp at this ⊢
      omega
    · exact word_length h
  · exact word_length h

/-- A token takes at least one character. -/
theorem lexeme_length {text after : List Char} {found : Lexeme}
    (h : lexeme? text = some (found, after)) : after.length < text.length := by
  cases text with
  | nil => simp [lexeme?] at h
  | cons c rest =>
    simp only [lexeme?] at h
    split at h
    · next other signed =>
      cases h
      cases mode : signMode? c with
      | none => simp [mode] at signed
      | some m =>
        simp only [mode, Option.bind_some] at signed
        have := body_length signed
        simp; omega
    · exact body_length h

/-- The lexemes of a text, from left to right. -/
def lexemes (text : List Char) : List Lexeme :=
  match text with
  | [] => []
  | c :: rest =>
    match _taken : lexeme? (c :: rest) with
    | none => lexemes rest
    | some (found, after) => found :: lexemes after
termination_by text.length
decreasing_by
  · simp
  · exact lexeme_length (by assumption)

/-- Splits a fuzzy word at the first mark with characters before it and only digits after. -/
def splitFuzzy? : List Char → Option (List Char × List Char)
  | [] => none
  | c :: rest => fuzzyAfter c rest
where
  /-- Looks for the mark beyond the character `c`. -/
  fuzzyAfter (c : Char) : List Char → Option (List Char × List Char)
    | [] => none
    | d :: rest =>
      if d = '~' ∧ rest.all Text.isDecimal then some ([c], rest)
      else (fuzzyAfter d rest).map fun (word, digits) => (c :: word, digits)

/-- The token of a lexeme: blank phrases give none, a distance may be too long to read. -/
def token? : Lexeme → Except Text.IntegerFault (Option SearchToken)
  | .phrase mode text =>
    let text := Text.trim text
    .ok (if text.isEmpty then none else some ⟨String.ofList text, mode, true, none⟩)
  | .word mode text =>
    match splitFuzzy? text with
    | none => .ok (some ⟨String.ofList text, mode, false, none⟩)
    | some (word, digits) =>
      if digits.length > Text.maxDigits then .error (.tooManyDigits digits.length)
      else
        let distance :=
          if digits.isEmpty then 1 else Text.digitsValue (digits.filterMap Text.digit?)
        .ok (some ⟨String.ofList word, mode, false, some distance⟩)

/-- The tokens of a term. -/
def tokens (term : String) : Except Text.IntegerFault (List SearchToken) := do
  return (← (lexemes term.toList).mapM token?).filterMap id

end Term

end QueryCache
