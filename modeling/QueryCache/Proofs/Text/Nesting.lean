import QueryCache.Proofs.Text.Digits
import QueryCache.Value.Text
import Mathlib.Data.List.Basic

/-! Texts that close the brackets and quotes they open.

A reader who counts brackets and minds quotes knows where such a text ends: at the first comma or closing
bracket that stands in neither. So the words of a list between brackets can be told apart. -/

set_option autoImplicit false

namespace QueryCache.Text

/-- Where a reader is: inside some brackets, and perhaps in quotes, or after a backslash in quotes. -/
inductive Place where
  | bare (depth : Nat)
  | quoted (depth : Nat) (quote : Char)
  | escaped (depth : Nat) (quote : Char)
  deriving DecidableEq

def marks : List Char := ['\'', '"']

def openers : List Char := ['(', '[', '\x7b']

def closers : List Char := [')', ']', '\x7d']

theorem of_mem_marks {c : Char} (mark : c ∈ marks) : c = '\'' ∨ c = '"' := by
  simpa [marks] using mark

theorem of_mem_openers {c : Char} (opens : c ∈ openers) : c = '(' ∨ c = '[' ∨ c = '\x7b' := by
  simpa [openers] using opens

theorem of_mem_closers {c : Char} (closes : c ∈ closers) : c = ')' ∨ c = ']' ∨ c = '\x7d' := by
  simpa [closers] using closes

namespace Place

/-- The place after a character. A comma or closing bracket outside of everything ends a text. -/
def next? : Place → Char → Option Place
  | .bare depth, c =>
    if c ∈ marks then some (.quoted depth c)
    else if c ∈ openers then some (.bare (depth + 1))
    else if c ∈ closers then
      match depth with
      | 0 => none
      | outer + 1 => some (.bare outer)
    else if c = ',' ∧ depth = 0 then none
    else some (.bare depth)
  | .quoted depth quote, c =>
    some (if c = quote then .bare depth else if c = '\\' then .escaped depth quote else .quoted depth quote)
  | .escaped depth quote, _ => some (.quoted depth quote)

def after? (place : Place) : List Char → Option Place
  | [] => some place
  | c :: rest => (place.next? c).bind fun next => next.after? rest

def deeper (more : Nat) : Place → Place
  | .bare depth => .bare (depth + more)
  | .quoted depth quote => .quoted (depth + more) quote
  | .escaped depth quote => .escaped (depth + more) quote

variable {place next : Place} {c : Char} {text : List Char}

theorem after?_append (first last : List Char) :
    place.after? (first ++ last) = (place.after? first).bind fun next => next.after? last := by
  induction first generalizing place with
  | nil => rfl
  | cons c rest ih =>
    rw [List.cons_append, after?, after?, Option.bind_assoc]
    exact congrArg _ (funext fun _ => ih)

/-- Brackets further out make no difference to what goes on inside them. -/
theorem next?_deeper (more : Nat) (goes : place.next? c = some next) :
    (place.deeper more).next? c = some (next.deeper more) := by
  cases place with
  | bare depth =>
    simp only [deeper, next?] at goes ⊢
    by_cases mark : c ∈ marks
    · rw [if_pos mark] at goes ⊢
      cases goes
      rfl
    rw [if_neg mark] at goes ⊢
    by_cases opener : c ∈ openers
    · rw [if_pos opener] at goes ⊢
      cases goes
      rw [Nat.add_right_comm]
    rw [if_neg opener] at goes ⊢
    -- A closing bracket that ends the outermost pair has no next place, so the depth is positive where there is
    -- one.
    by_cases closer : c ∈ closers
    · rw [if_pos closer] at goes ⊢
      cases depth with
      | zero => cases goes
      | succ outer =>
        cases goes
        rw [Nat.add_right_comm]
    rw [if_neg closer] at goes ⊢
    split at goes
    · cases goes
    · next inner =>
      cases goes
      rw [if_neg fun separates => inner ⟨separates.1, (Nat.add_eq_zero_iff.1 separates.2).1⟩]
  | quoted depth quote =>
    cases goes
    simp only [deeper, next?]
    split
    · rfl
    · split <;> rfl
  | escaped depth quote =>
    cases goes
    rfl

theorem after?_deeper (more : Nat) (goes : place.after? text = some next) :
    (place.deeper more).after? text = some (next.deeper more) := by
  induction text generalizing place with
  | nil =>
    cases goes
    rfl
  | cons c rest ih =>
    obtain ⟨first, here, there⟩ := Option.bind_eq_some_iff.1 goes
    rw [after?, next?_deeper more here]
    exact ih there

end Place

/-- A text that closes what it opens, and has no comma outside of everything. -/
def Closed (text : List Char) : Prop := (Place.bare 0).after? text = some (.bare 0)

instance (text : List Char) : Decidable (Closed text) := inferInstanceAs (Decidable (_ = _))

/-- What ends a text. -/
def Ends (c : Char) : Prop := (Place.bare 0).next? c = none

instance (c : Char) : Decidable (Ends c) := inferInstanceAs (Decidable (_ = _))

section

variable {first last text text' : List Char}

theorem Closed.after (closed : Closed text) (depth : Nat) :
    (Place.bare depth).after? text = some (.bare depth) := by
  simpa [Place.deeper] using Place.after?_deeper depth closed

theorem Closed.append (closed : Closed first) (closed' : Closed last) : Closed (first ++ last) := by
  rw [Closed, Place.after?_append, closed.after]
  exact closed'

/-- A character that opens, closes and separates nothing. -/
def isNeutral (c : Char) : Bool := !(marks ++ openers ++ closers ++ [',']).contains c

theorem closed_of_neutral (plain : ∀ c ∈ text, isNeutral c = true) : Closed text := by
  induction text with
  | nil => rfl
  | cons c rest ih =>
    obtain ⟨here, plain⟩ := List.forall_mem_cons.1 plain
    simp only [isNeutral, Bool.not_eq_true', List.contains_eq_mem, List.mem_append, decide_eq_false_iff_not, not_or,
      List.mem_singleton] at here
    obtain ⟨⟨⟨mark, opener⟩, closer⟩, comma⟩ := here
    rw [Closed, Place.after?]
    simp only [Place.next?, mark, opener, closer, comma, if_false, false_and, Option.bind_some]
    exact ih plain

/-- A text is told by what comes before the character that ends it. -/
theorem Closed.eq_of_append {c c' : Char} (closed : Closed text) (closed' : Closed text') (ends : Ends c)
    (ends' : Ends c') (same : text ++ c :: first = text' ++ c' :: last) : text = text' := by
  -- The longer one would go on past the character that ends the shorter.
  have stops {text piece first last : List Char} {c c' : Char} (closed : Closed text) (ends : Ends c)
      (closed' : Closed (text ++ piece)) (same : c :: first = piece ++ c' :: last) : piece = [] := by
    cases piece with
    | nil => rfl
    | cons d piece =>
      obtain ⟨rfl, -⟩ := List.cons.inj same
      rw [Closed, Place.after?_append, closed.after, Option.bind_some, Place.after?, ends] at closed'
      cases closed'
  rcases List.append_eq_append_iff.1 same with ⟨piece, rfl, rest⟩ | ⟨piece, rfl, rest⟩
  · rw [stops closed ends closed' rest, List.append_nil]
  · rw [stops closed' ends' closed rest, List.append_nil]

/-! ## Lists in brackets -/

theorem next?_open {c : Char} (opens : c ∈ openers) (depth : Nat) :
    (Place.bare depth).next? c = some (.bare (depth + 1)) := by
  have unmarked : c ∉ marks := by rcases of_mem_openers opens with rfl | rfl | rfl <;> decide
  simp only [Place.next?, unmarked, opens, if_true, if_false]

theorem next?_close {c : Char} (closes : c ∈ closers) (depth : Nat) :
    (Place.bare (depth + 1)).next? c = some (.bare depth) := by
  have inner : c ∉ marks ∧ c ∉ openers := by rcases of_mem_closers closes with rfl | rfl | rfl <;> decide
  simp only [Place.next?, inner, closes, if_true, if_false]

theorem ends_of_close {c : Char} (closes : c ∈ closers) : Ends c := by
  rcases of_mem_closers closes with rfl | rfl | rfl <;> decide

/-- Words with commas between them, as characters. -/
def listed (words : List (List Char)) : List Char := [',', ' '].intercalate words

theorem toList_commaSeparated (words : List String) :
    (commaSeparated words).toList = listed (words.map String.toList) := by
  rw [commaSeparated, String.toList_intercalate]
  rfl

theorem listed_cons (word next : List Char) (others : List (List Char)) :
    listed (word :: next :: others) = word ++ ',' :: ' ' :: listed (next :: others) := by
  simp [listed, List.intercalate]

theorem after?_listed {words : List (List Char)} (closed : ∀ word ∈ words, Closed word) (depth : Nat) :
    (Place.bare (depth + 1)).after? (listed words) = some (.bare (depth + 1)) := by
  induction words with
  | nil => rfl
  | cons word others ih =>
    obtain ⟨here, closed⟩ := List.forall_mem_cons.1 closed
    cases others with
    | nil => simpa [listed, List.intercalate] using here.after _
    | cons next others =>
      rw [listed_cons, Place.after?_append, here.after, Option.bind_some]
      exact ih closed

theorem closed_bracketed {words : List (List Char)} {c c' : Char} (opens : c ∈ openers) (closes : c' ∈ closers)
    (closed : ∀ word ∈ words, Closed word) : Closed (c :: listed words ++ [c']) := by
  rw [Closed, List.cons_append, Place.after?, next?_open opens, Option.bind_some, Place.after?_append,
    after?_listed closed, Option.bind_some, Place.after?, next?_close closes]
  rfl

/-- The words of a list can be told by the list and the bracket that closes it. -/
theorem listed_inj {words words' : List (List Char)} {c c' : Char} (closed : ∀ word ∈ words, Closed word)
    (closed' : ∀ word ∈ words', Closed word) (closes : c ∈ closers) (closes' : c' ∈ closers)
    (filled : words = [] ↔ words' = []) (same : listed words ++ c :: first = listed words' ++ c' :: last) :
    words = words' := by
  have comma : Ends ',' := by decide
  have other {c : Char} (closes : c ∈ closers) : ',' ≠ c := by
    rcases of_mem_closers closes with rfl | rfl | rfl <;> decide
  have single (word : List Char) : listed [word] = word := by simp [listed, List.intercalate]
  induction words generalizing words' with
  | nil => exact (filled.1 rfl).symm
  | cons word others ih =>
    obtain ⟨word', others', rfl⟩ := List.exists_cons_of_ne_nil (mt filled.2 (List.cons_ne_nil word others))
    obtain ⟨here, closed⟩ := List.forall_mem_cons.1 closed
    obtain ⟨here', closed'⟩ := List.forall_mem_cons.1 closed'
    match others, others' with
    | [], [] =>
      rw [single, single] at same
      rw [here.eq_of_append here' (ends_of_close closes) (ends_of_close closes') same]
    | [], next' :: others' =>
      -- One list closes where the other goes on.
      rw [single, listed_cons, List.append_assoc] at same
      obtain rfl := here.eq_of_append here' (ends_of_close closes) comma same
      exact absurd (List.cons.inj (List.append_cancel_left same)).1.symm (other closes)
    | next :: others, [] =>
      rw [single, listed_cons, List.append_assoc] at same
      obtain rfl := here.eq_of_append here' comma (ends_of_close closes') same
      exact absurd (List.cons.inj (List.append_cancel_left same)).1 (other closes')
    | next :: others, next' :: others' =>
      rw [listed_cons, listed_cons, List.append_assoc, List.append_assoc] at same
      obtain rfl := here.eq_of_append here' comma comma same
      have rest := (List.cons.inj (List.cons.inj (List.append_cancel_left same)).2).2
      rw [ih closed closed' (by simp) rest]

end

/-! ## Quotes -/

section

variable {text : List Char} {mark : Char}

theorem after?_inside (inside : ∀ c ∈ text, c ≠ mark ∧ c ≠ '\\') (depth : Nat) :
    (Place.quoted depth mark).after? text = some (.quoted depth mark) := by
  induction text with
  | nil => rfl
  | cons c rest ih =>
    obtain ⟨⟨open_, plain⟩, inside⟩ := List.forall_mem_cons.1 inside
    rw [Place.after?, Place.next?, if_neg open_, if_neg plain]
    exact ih inside

theorem mem_hex {width n : Nat} {c : Char} (member : c ∈ hex width n) : c ∈ "0123456789abcdef".toList := by
  rcases List.mem_append.1 member with padding | digit
  · rw [List.eq_of_mem_replicate padding]
    decide
  · exact mem_toDigits_sixteen digit

/-- An escape stays inside the quotes. -/
theorem after?_escape (known : mark ∈ marks) (depth : Nat) (kind : Char) :
    (Place.quoted depth mark).after? ['\\', kind] = some (.quoted depth mark) := by
  have other : '\\' ≠ mark := by rcases of_mem_marks known with rfl | rfl <;> decide
  rw [Place.after?, Place.next?, if_neg other, if_pos rfl]
  rfl

theorem after?_hex (known : mark ∈ marks) (depth width n : Nat) (kind : Char) :
    (Place.quoted depth mark).after? ('\\' :: kind :: hex width n) = some (.quoted depth mark) := by
  have parts : '\\' :: kind :: hex width n = ['\\', kind] ++ hex width n := rfl
  rw [parts, Place.after?_append, after?_escape known, Option.bind_some]
  refine after?_inside (fun c member => ?_) depth
  have all : "0123456789abcdef".toList.all (fun c => c != '\'' && c != '"' && c != '\\') = true := by decide
  have digit := List.all_eq_true.1 all c (mem_hex member)
  simp only [Bool.and_eq_true, bne_iff_ne] at digit
  rcases of_mem_marks known with rfl | rfl
  · exact ⟨digit.1.1, digit.2⟩
  · exact ⟨digit.1.2, digit.2⟩

theorem shortEscape?_eq_some {c : Char} {escape : List Char} (short : shortEscape? mark c = some escape) :
    ∃ kind, escape = ['\\', kind] := by
  unfold shortEscape? at short
  repeat' split at short
  all_goals first
    | cases short; exact ⟨_, rfl⟩
    | cases short

theorem shortEscape?_eq_none {c : Char} (plain : shortEscape? mark c = none) : c ≠ mark ∧ c ≠ '\\' := by
  unfold shortEscape? at plain
  split at plain
  · cases plain
  · next other => simpa using other

theorem after?_short {escape : List Char} {c : Char} (known : mark ∈ marks) (depth : Nat)
    (short : shortEscape? mark c = some escape) :
    (Place.quoted depth mark).after? escape = some (.quoted depth mark) := by
  obtain ⟨kind, rfl⟩ := shortEscape?_eq_some short
  exact after?_escape known depth kind

theorem after?_quotedChar (known : mark ∈ marks) (depth : Nat) (c : Char) :
    (Place.quoted depth mark).after? (quotedChar mark c) = some (.quoted depth mark) := by
  unfold quotedChar
  split
  · next short => exact after?_short known depth short
  · next plain =>
    split
    · exact after?_inside (by simpa using shortEscape?_eq_none plain) depth
    · split
      · exact after?_hex known depth 2 _ 'x'
      · split
        · exact after?_hex known depth 4 _ 'u'
        · exact after?_hex known depth 8 _ 'U'

theorem after?_quotedByte (known : mark ∈ marks) (depth : Nat) (byte : UInt8) :
    (Place.quoted depth mark).after? (quotedByte mark byte) = some (.quoted depth mark) := by
  unfold quotedByte
  dsimp only
  split
  · next short => exact after?_short known depth short
  · next plain =>
    split
    · exact after?_inside (by simpa using shortEscape?_eq_none plain) depth
    · exact after?_hex known depth 2 _ 'x'

/-- What stands in quotes, piece by piece, leaves them only at their end. -/
theorem closed_of_pieces {α : Type} (known : mark ∈ marks) {piece : α → List Char} (items : List α)
    (each : ∀ item, (Place.quoted 0 mark).after? (piece item) = some (.quoted 0 mark)) :
    Closed (mark :: items.flatMap piece ++ [mark]) := by
  have inner : (Place.quoted 0 mark).after? (items.flatMap piece) = some (.quoted 0 mark) := by
    induction items with
    | nil => rfl
    | cons item rest ih => rw [List.flatMap_cons, Place.after?_append, each, Option.bind_some, ih]
  have open_ : (Place.bare 0).next? mark = some (.quoted 0 mark) := by simp only [Place.next?, known, if_true]
  rw [Closed, List.cons_append, Place.after?, open_, Option.bind_some, Place.after?_append, inner, Option.bind_some,
    Place.after?, Place.next?, if_pos rfl]
  rfl

theorem quoteFor_mem (text : List Char) : quoteFor text ∈ marks := by
  unfold quoteFor
  split <;> decide

theorem closed_quoted (text : List Char) : Closed (quoted text) :=
  closed_of_pieces (quoteFor_mem text) text (after?_quotedChar (quoteFor_mem text) 0)

theorem closed_quotedBytes (bytes : List UInt8) : Closed (quotedBytes bytes) := by
  have known := quoteFor_mem (bytes.map fun byte => Char.ofNat byte.toNat)
  have mark : Closed ['b'] := by decide
  exact mark.append (closed_of_pieces known bytes (after?_quotedByte known 0))

end

end QueryCache.Text
