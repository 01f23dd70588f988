import QueryCache.Proofs.Outcome
import QueryCache.Proofs.Text.Digits
import QueryCache.Proofs.Text.Pieces

/-! Search terms written from tokens.

A token is written as its sign and then its phrase in quotes, its word, or its word with a tilde and a
distance; tokens stand one blank apart. Words may hold quotes, signs and tildes anywhere but where they
would be taken for something else, and what is written is read as the tokens it was written from. -/

set_option autoImplicit false

namespace QueryCache

open Text

def TokenMode.sign : TokenMode → List Char
  | .optional => []
  | .required => ['+']
  | .excluded => ['-']

namespace SearchToken

/-- A token without its sign. -/
def body (t : SearchToken) : List Char :=
  if t.phrase then '\"' :: t.text.toList ++ ['\"']
  else
    match t.fuzziness with
    | some distance => t.text.toList ++ '~' :: Text.ofNat distance
    | none => t.text.toList

def written (t : SearchToken) : List Char := t.mode.sign ++ t.body

/-- A phrase that has a form in quotes. -/
structure IsPhrase (t : SearchToken) : Prop where
  quoted : t.phrase = true
  visible : isBlankText t.text.toList = false
  trimmed : trim t.text.toList = t.text.toList
  closed : '\"' ∉ t.text.toList
  exact : t.fuzziness = none

/-- A word that is not taken for a phrase, for a sign before another word, or for a word with a distance. -/
structure IsWord (t : SearchToken) : Prop where
  bare : t.phrase = false
  filled : t.text.toList ≠ []
  solid : ∀ c ∈ t.text.toList, isBlank c = false
  unquoted : t.text.toList.head? ≠ some '\"'
  unsigned : t.mode = .optional → t.text.toList.head? ≠ some '+' ∧ t.text.toList.head? ≠ some '-'
  plain : t.fuzziness = none → ∀ word digits, word ≠ [] → (∀ c ∈ digits, isDecimal c = true) →
    t.text.toList ≠ word ++ '~' :: digits
  short : ∀ distance, t.fuzziness = some distance → (Text.ofNat distance).length ≤ maxDigits

end SearchToken

namespace Term

/-- The term that tokens are written to. -/
def written (tokens : List SearchToken) : String := String.ofList (Text.join ' ' (tokens.map SearchToken.written))

/-! ## Distances -/

/-- The mark of a distance is followed by digits only, and something stands before it. -/
theorem of_splitFuzzy {text word digits : List Char} (fuzzy : splitFuzzy? text = some (word, digits)) :
    word ≠ [] ∧ (∀ c ∈ digits, isDecimal c = true) ∧ text = word ++ '~' :: digits := by
  have after {c : Char} {rest word : List Char} (found : splitFuzzy?.fuzzyAfter c rest = some (word, digits)) :
      word ≠ [] ∧ (∀ c ∈ digits, isDecimal c = true) ∧ c :: rest = word ++ '~' :: digits := by
    induction rest generalizing c word with
    | nil => cases found
    | cons d rest ih =>
      rw [splitFuzzy?.fuzzyAfter] at found
      split at found
      · next mark =>
        cases found
        obtain ⟨rfl, decimal⟩ := mark
        exact ⟨by simp, List.all_eq_true.1 decimal, rfl⟩
      · obtain ⟨⟨before, beyond⟩, later, same⟩ := Option.map_eq_some_iff.1 found
        cases same
        obtain ⟨-, decimal, whole⟩ := ih later
        exact ⟨by simp, decimal, by rw [whole]; rfl⟩
  cases text with
  | nil => cases fuzzy
  | cons c rest => exact after fuzzy

/-- A word may have tildes of its own: digits follow only the last one, and no tilde is a digit. -/
theorem splitFuzzy_append {word digits : List Char} (filled : word ≠ []) (decimal : ∀ c ∈ digits, isDecimal c = true) :
    splitFuzzy? (word ++ '~' :: digits) = some (word, digits) := by
  have after (c : Char) (rest : List Char) :
      splitFuzzy?.fuzzyAfter c (rest ++ '~' :: digits) = some (c :: rest, digits) := by
    induction rest generalizing c with
    | nil => rw [List.nil_append, splitFuzzy?.fuzzyAfter, if_pos ⟨rfl, List.all_eq_true.2 decimal⟩]
    | cons d rest ih =>
      have more : (rest ++ '~' :: digits).all isDecimal = false := by
        rw [List.all_eq_false]
        exact ⟨'~', by simp, by decide⟩
      rw [List.cons_append, splitFuzzy?.fuzzyAfter, if_neg (by simp [more]), ih]
      rfl
  cases word with
  | nil => exact absurd rfl filled
  | cons c rest => exact after c rest

theorem splitFuzzy_eq_none_iff {text : List Char} : splitFuzzy? text = none ↔
    ∀ word digits, word ≠ [] → (∀ c ∈ digits, isDecimal c = true) → text ≠ word ++ '~' :: digits := by
  constructor
  · rintro none word digits filled decimal rfl
    cases none.symm.trans (splitFuzzy_append filled decimal)
  · intro plain
    rw [Option.eq_none_iff_forall_ne_some]
    rintro ⟨word, digits⟩ fuzzy
    obtain ⟨filled, decimal, same⟩ := of_splitFuzzy fuzzy
    exact plain word digits filled decimal same

/-! ## One token -/

/-- No word goes on in a text. -/
def Ends (text : List Char) : Prop := ∀ c ∈ text.head?, isBlank c = true

theorem ends_nil : Ends [] := by simp [Ends]

theorem body_phrase {text : List Char} (closed : '\"' ∉ text) (mode : TokenMode) (rest : List Char) :
    body? mode ('\"' :: text ++ '\"' :: rest) = some (.phrase mode text, rest) := by
  have inside : ∀ c ∈ text, decide (c ≠ '\"') = true := by
    intro c member
    exact decide_eq_true fun same => closed (same ▸ member)
  have first : (text ++ '\"' :: rest).takeWhile (· ≠ '\"') = text := by
    rw [List.takeWhile_append_of_pos inside, List.takeWhile_cons_of_neg (by simp), List.append_nil]
  have last : (text ++ '\"' :: rest).dropWhile (· ≠ '\"') = '\"' :: rest := by
    rw [List.dropWhile_append_of_pos inside, List.dropWhile_cons_of_neg (by simp)]
  rw [List.cons_append, body?]
  simp only [first, last]

theorem body_word {text rest : List Char} (filled : text ≠ []) (solid : ∀ c ∈ text, isBlank c = false)
    (bare : text.head? ≠ some '\"') (ends : Ends rest) (mode : TokenMode) :
    body? mode (text ++ rest) = some (.word mode text, rest) := by
  have inside : ∀ c ∈ text, (!isBlank c) = true := fun c member => by simp [solid c member]
  have first : (text ++ rest).takeWhile (fun c => !isBlank c) = text := by
    rw [List.takeWhile_append_of_pos inside]
    cases rest with
    | nil => simp
    | cons c rest => simp [ends c rfl]
  have last : (text ++ rest).dropWhile (fun c => !isBlank c) = rest := by
    rw [List.dropWhile_append_of_pos inside]
    cases rest with
    | nil => rfl
    | cons c rest => simp [ends c rfl]
  unfold body?
  split
  · next rest' same =>
    -- A quote would be the first character of the word.
    cases text with
    | nil => exact absurd rfl filled
    | cons c text =>
      cases same
      exact absurd rfl bare
  · unfold body?.word
    rw [first, last]
    split
    · contradiction
    · rfl

/-- What a token is read as before its distance is. -/
def lexemeOf (t : SearchToken) : Lexeme :=
  if t.phrase then .phrase t.mode t.text.toList else .word t.mode t.body

variable {t : SearchToken}

theorem solid_body (word : t.IsWord) : ∀ c ∈ t.body, isBlank c = false := by
  unfold SearchToken.body
  rw [if_neg (by simp [word.bare])]
  split
  · next distance fuzzy =>
    have numeral : Numeral (Text.ofNat distance) := numeral_toDigits (word.short distance fuzzy)
    have decimal : ∀ c ∈ Text.ofNat distance, isDecimal c = true := by
      have all := numeral.decimal
      rw [isDecimalText, Bool.and_eq_true, List.all_eq_true] at all
      exact all.2
    intro c member
    rcases List.mem_append.1 member with member | member
    · exact word.solid c member
    · rcases List.mem_cons.1 member with rfl | member
      · decide
      · exact not_isBlank_of_isDecimal (decimal c member)
  · exact word.solid

/-- A word and its body start alike. -/
theorem head_body (word : t.IsWord) : t.body.head? = t.text.toList.head? := by
  unfold SearchToken.body
  rw [if_neg (by simp [word.bare])]
  split
  · rw [List.head?_append, Option.or_of_isSome (by simpa using word.filled)]
  · rfl

theorem body_legible (legible : t.IsPhrase ∨ t.IsWord) {rest : List Char} (ends : Ends rest) :
    body? t.mode (t.body ++ rest) = some (lexemeOf t, rest) := by
  rcases legible with phrase | word
  · rw [SearchToken.body, lexemeOf, if_pos phrase.quoted, if_pos phrase.quoted]
    simpa using body_phrase phrase.closed t.mode rest
  · have filled : t.body ≠ [] := by
      intro empty
      have same := head_body word
      rw [empty, List.head?_nil, eq_comm, List.head?_eq_none_iff] at same
      exact word.filled same
    rw [lexemeOf, if_neg (by simp [word.bare])]
    exact body_word filled (solid_body word) (head_body word ▸ word.unquoted) ends t.mode

/-- A sign is taken for a sign, and nothing else is. -/
theorem lexeme_written (legible : t.IsPhrase ∨ t.IsWord) {rest : List Char} (ends : Ends rest) :
    lexeme? (t.written ++ rest) = some (lexemeOf t, rest) := by
  have read := body_legible legible ends
  rw [SearchToken.written]
  cases mode : t.mode with
  | required =>
    rw [mode] at read
    simp [TokenMode.sign, lexeme?, signMode?, read]
  | excluded =>
    rw [mode] at read
    simp [TokenMode.sign, lexeme?, signMode?, read]
  | optional =>
    -- Without a sign of its own, a token must not begin with something that reads as one: a phrase begins with a
    -- quote, and a word was required to begin otherwise.
    have unsigned : ∀ c ∈ t.body.head?, signMode? c = none := by
      intro c first
      rcases legible with phrase | word
      · rw [SearchToken.body, if_pos phrase.quoted] at first
        cases first
        rfl
      · rw [head_body word] at first
        obtain ⟨noPlus, noMinus⟩ := word.unsigned mode
        unfold signMode?
        split
        · exact absurd first noPlus
        · exact absurd first noMinus
        · rfl
    rw [mode] at read
    cases body : t.body with
    | nil =>
      rw [body] at read
      exact absurd (body_length read) (Nat.lt_irrefl _)
    | cons c body' =>
      rw [body] at read unsigned
      have none := unsigned c rfl
      rw [List.cons_append] at read
      simp [TokenMode.sign, lexeme?, none, read]

theorem token_lexeme (legible : t.IsPhrase ∨ t.IsWord) : token? (lexemeOf t) = .ok (some t) := by
  obtain ⟨text, mode, phrase, fuzziness⟩ := t
  rcases legible with ⟨quoted, visible, trimmed, -, exact⟩ | word
  · dsimp only at quoted visible trimmed exact
    subst quoted exact
    have filled : text.toList.isEmpty = false := by
      rw [List.isEmpty_eq_false_iff]
      intro empty
      simp [empty, isBlankText] at visible
    simp [lexemeOf, token?, trimmed, filled]
  · obtain ⟨bare, filled, -, -, -, plain, short⟩ := word
    dsimp only at bare filled plain short
    subst bare
    cases fuzziness with
    | none =>
      have whole := splitFuzzy_eq_none_iff.2 (plain rfl)
      simp [lexemeOf, SearchToken.body, token?, whole]
    | some distance =>
      have numeral : Numeral (Text.ofNat distance) := numeral_toDigits (short distance rfl)
      have decimal := numeral.decimal
      rw [isDecimalText, Bool.and_eq_true, List.all_eq_true, Bool.not_eq_true'] at decimal
      have value : digitsValue ((Text.ofNat distance).filterMap digit?) = distance := number_toDigits distance
      simp [lexemeOf, SearchToken.body, token?, splitFuzzy_append filled decimal.2, Nat.not_lt.2 numeral.short,
        decimal.1, value]

/-! ## Terms -/

theorem lexemes_of_lexeme {text rest : List Char} {found : Lexeme} (read : lexeme? text = some (found, rest)) :
    lexemes text = found :: lexemes rest := by
  cases text with
  | nil => cases read
  | cons c text =>
    rw [lexemes]
    split
    · next none => cases none.symm.trans read
    · next found' after same =>
      cases same.symm.trans read
      rfl

/-- A blank starts no token. -/
theorem lexemes_blank (rest : List Char) : lexemes (' ' :: rest) = lexemes rest := by
  have none : lexeme? (' ' :: rest) = none := by
    have blank : isBlank ' ' = true := by decide
    simp [lexeme?, signMode?, body?, body?.word, blank]
  rw [lexemes]
  split
  · rfl
  · next found after same => cases none.symm.trans same

theorem lexemes_written {tokens : List SearchToken} (legible : ∀ t ∈ tokens, t.IsPhrase ∨ t.IsWord) :
    lexemes (Text.join ' ' (tokens.map SearchToken.written)) = tokens.map lexemeOf := by
  induction tokens with
  | nil => rw [List.map_nil, Text.join, lexemes]; rfl
  | cons t rest ih =>
    obtain ⟨first, others⟩ := List.forall_mem_cons.1 legible
    cases rest with
    | nil =>
      have read := lexeme_written first ends_nil
      rw [List.append_nil] at read
      rw [List.map_singleton, Text.join, lexemes_of_lexeme read, lexemes]
      rfl
    | cons next rest =>
      have ends : Ends (' ' :: Text.join ' ' ((next :: rest).map SearchToken.written)) := by
        intro c start
        cases start
        decide
      have apart : Text.join ' ' ((t :: next :: rest).map SearchToken.written) =
          t.written ++ ' ' :: Text.join ' ' ((next :: rest).map SearchToken.written) := rfl
      rw [apart, lexemes_of_lexeme (lexeme_written first ends), lexemes_blank, ih others]
      rfl

/-- What tokens are written to is read as these tokens. -/
theorem tokens_written (tokens : List SearchToken) (legible : ∀ t ∈ tokens, t.IsPhrase ∨ t.IsWord) :
    Term.tokens (written tokens) = .ok tokens := by
  have each : (tokens.map lexemeOf).mapM token? = .ok (tokens.map some) := by
    rw [Outcome.mapM_eq_ok, List.forall₂_map_left_iff, List.forall₂_map_right_iff, List.forall₂_same]
    exact fun t member => token_lexeme (legible t member)
  rw [Term.tokens, written, String.toList_ofList, lexemes_written legible, each]
  simp [bind, Except.bind, pure, Except.pure]

/-- Signs, quotes and tildes where they stand for themselves, beside those that do not. -/
theorem tokens_written_marked :
    let tokens : List SearchToken := [{ text := "+ ~2", mode := .excluded, phrase := true },
      { text := "-a\"b\"", mode := .required }, { text := "x~3", fuzziness := some 0 }, { text := "~7" }]
    (∀ t ∈ tokens, t.IsPhrase ∨ t.IsWord) ∧ written tokens = "-\"+ ~2\" +-a\"b\" x~3~0 ~7" ∧
      Term.tokens (written tokens) = .ok tokens := by
  intro tokens
  have solid {text : List Char} (all : text.all (fun c => !isBlank c) = true) : ∀ c ∈ text, isBlank c = false := by
    simpa using all
  have legible : ∀ t ∈ tokens, t.IsPhrase ∨ t.IsWord := by
    simp only [tokens, List.forall_mem_cons]
    refine ⟨.inl ⟨rfl, by decide, by decide, by decide, rfl⟩, .inr ⟨rfl, by decide, solid (by decide), by decide, nofun,
      fun _ => splitFuzzy_eq_none_iff.1 (by decide), nofun⟩, .inr ⟨rfl, by decide, solid (by decide), by decide,
      fun _ => by decide, nofun, ?_⟩, .inr ⟨rfl, by decide, solid (by decide), by decide, fun _ => by decide,
      fun _ => splitFuzzy_eq_none_iff.1 (by decide), nofun⟩, nofun⟩
    rintro distance same
    cases same
    decide
  exact ⟨legible, by decide, tokens_written tokens legible⟩

end Term

end QueryCache
