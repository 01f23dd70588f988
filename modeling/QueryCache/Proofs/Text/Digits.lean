import QueryCache.Criteria.Transcoder
import QueryCache.Request.Term
import Mathlib.Algebra.Group.Nat.Defs
import Mathlib.Data.List.TakeWhile

/-! Numbers that stand in texts: those with too many digits are not read, all others are. -/

set_option autoImplicit false

namespace QueryCache

namespace Text

variable {text : List Char}

/-- The digits that a number has in hexadecimal. -/
theorem mem_toDigits_sixteen {n : Nat} {c : Char} (member : c ∈ Nat.toDigits 16 n) :
    c ∈ "0123456789abcdef".toList := by
  have digit : ∀ n < 16, n.digitChar ∈ "0123456789abcdef".toList := by decide +kernel
  induction n using Nat.strongRecOn with
  | ind n ih =>
    rw [Nat.toDigits_eq_if (by omega)] at member
    split at member
    · next small =>
      rw [List.mem_singleton.1 member]
      exact digit n small
    · rcases List.mem_append.1 member with before | last
      · exact ih (n / 16) (by omega) before
      · rw [List.mem_singleton.1 last]
        exact digit _ (Nat.mod_lt _ (by omega))

theorem not_isBlank_of_isDecimal {c : Char} (decimal : isDecimal c = true) : isBlank c = false := by
  by_contra blank
  have member : c.toNat ∈ blanks := by simpa [isBlank] using blank
  have none : ∀ n ∈ blanks, isDecimal (Char.ofNat n) = false := by decide +kernel
  rw [← Char.ofNat_toNat c, none c.toNat member] at decimal
  cases decimal

theorem trimNumber_of_decimal (digits : ∀ c ∈ text, isDecimal c = true) : trimNumber text = text := by
  have solid : ∀ c ∈ text, isNumberBlank c = false := by
    intro c member
    simp [isNumberBlank, not_isBlank_of_isDecimal (digits c member)]
  have kept {text : List Char} (solid : ∀ c ∈ text, isNumberBlank c = false) :
      text.dropWhile isNumberBlank = text := by
    cases text with
    | nil => rfl
    | cons c rest => rw [List.dropWhile_cons, solid c (by simp), if_neg (by simp)]
  rw [trimNumber, kept solid, kept, List.reverse_reverse]
  intro c member
  exact solid c (List.mem_reverse.1 member)

theorem splitSign_of_decimal (digits : ∀ c ∈ text, isDecimal c = true) : splitSign text = (false, text) := by
  unfold splitSign
  split
  · exact absurd (digits '-' (by simp)) (by decide)
  · exact absurd (digits '+' (by simp)) (by decide)
  · rfl

theorem readDigits_of_decimal (digits : ∀ c ∈ text, isDecimal c = true) (filled : text ≠ []) :
    readDigits? text = some (text.filterMap digit?) := by
  induction text with
  | nil => exact absurd rfl filled
  | cons c rest ih =>
    obtain ⟨d, digit⟩ : ∃ d, digit? c = some d := Option.isSome_iff_exists.1 (digits c (by simp))
    have others : ∀ c ∈ rest, isDecimal c = true := fun c member => digits c (by simp [member])
    cases rest with
    | nil => simp [readDigits?, digit]
    | cons c' rest =>
      -- A low line may stand between digits, but is none.
      have solid : c' ≠ '_' := fun same => absurd (others c' (by simp)) (by rw [same]; decide)
      have read := ih others (by simp)
      unfold readDigits?
      split
      · next same => cases same
      · next same => cases same
      · next same => exact absurd (List.cons.inj (List.cons.inj same).2).1 solid
      · next same =>
        cases same
        rw [read, digit]
        simp [List.filterMap_cons, digit]

/-- Decimal digits are read as a number as far as their count allows. -/
theorem readInteger_of_decimal (decimal : isDecimalText text = true) :
    readInteger text = if maxDigits < text.length then .error (.tooManyDigits text.length)
      else .ok (digitsValue (text.filterMap digit?)) := by
  obtain ⟨filled, digits⟩ : text ≠ [] ∧ ∀ c ∈ text, isDecimal c = true := by
    simpa [isDecimalText] using decimal
  have count : (text.filterMap digit?).length = text.length := by
    rw [List.filterMap_length_eq_length]
    exact digits
  unfold readInteger
  rw [trimNumber_of_decimal digits, splitSign_of_decimal digits]
  dsimp only
  rw [readDigits_of_decimal digits filled]
  simp [count]

/-- The number that decimal digits of any script write. -/
def number (digits : List Char) : Nat := digitsValue (digits.filterMap digit?)

theorem digit_lt {c : Char} {d : Nat} (digit : digit? c = some d) : d < 10 := by
  unfold digit? at digit
  split at digit
  · split at digit
    · next decimal =>
      have range : 48 ≤ c.toNat ∧ c.toNat ≤ 57 := by simpa [Char.isDigit, UInt32.le_iff_toNat_le] using decimal
      cases digit
      omega
    · cases digit
  · obtain ⟨first, found, rfl⟩ := Option.map_eq_some_iff.1 digit
    have range := List.find?_some found
    simp only [Bool.and_eq_true, decide_eq_true_eq] at range
    omega

theorem number_lt (digits : List Char) : number digits < 10 ^ digits.length := by
  have step (ds : List Nat) (small : ∀ d ∈ ds, d < 10) (total : Nat) :
      ds.foldl (fun total digit => 10 * total + digit) total < (total + 1) * 10 ^ ds.length := by
    induction ds generalizing total with
    | nil => simp
    | cons d ds ih =>
      obtain ⟨first, others⟩ := List.forall_mem_cons.1 small
      rw [List.foldl_cons, List.length_cons, Nat.pow_succ']
      calc _ < (10 * total + d + 1) * 10 ^ ds.length := ih others _
        _ ≤ ((total + 1) * 10) * 10 ^ ds.length := Nat.mul_le_mul_right _ (by omega)
        _ = (total + 1) * (10 * 10 ^ ds.length) := Nat.mul_assoc _ _ _
  have small : ∀ d ∈ digits.filterMap digit?, d < 10 := by
    intro d member
    obtain ⟨c, -, digit⟩ := List.mem_filterMap.1 member
    exact digit_lt digit
  have bound := step _ small 0
  rw [Nat.zero_add, Nat.one_mul] at bound
  exact Nat.lt_of_lt_of_le bound (Nat.pow_le_pow_right (by decide) (List.length_filterMap_le _ _))

/-- A number has no more digits than it is written with. -/
theorem length_toDigits_number_le {digits : List Char} {most : Nat} (some : 0 < most) (few : digits.length ≤ most) :
    (Nat.toDigits 10 (number digits)).length ≤ most :=
  (Nat.length_toDigits_le_iff (by decide) some).2
    (Nat.lt_of_lt_of_le (number_lt digits) (Nat.pow_le_pow_right (by decide) few))

theorem digit_of_isDigit {c : Char} (ascii : c.isDigit = true) : digit? c = some (c.toNat - 48) := by
  have range : 48 ≤ c.toNat ∧ c.toNat ≤ 57 := by simpa [Char.isDigit, UInt32.le_iff_toNat_le] using ascii
  rw [digit?, if_pos (by omega), if_pos ascii]

theorem number_toDigits (n : Nat) : number (Nat.toDigits 10 n) = n := by
  have folded {digits : List Char} (ascii : ∀ c ∈ digits, c.isDigit = true) (total : Nat) :
      (digits.filterMap digit?).foldl (fun total digit => 10 * total + digit) total =
        Nat.ofDigitChars 10 digits total := by
    induction digits generalizing total with
    | nil => simp
    | cons c rest ih =>
      obtain ⟨first, others⟩ := List.forall_mem_cons.1 ascii
      rw [List.filterMap_cons, digit_of_isDigit first, Nat.ofDigitChars_cons]
      exact ih others _
  have ascii : ∀ c ∈ Nat.toDigits 10 n, c.isDigit = true :=
    fun c member => Nat.isDigit_of_mem_toDigits (by decide) (by decide) member
  exact (folded ascii 0).trans Nat.ofDigitChars_ten_toDigits

end Text

/-- Decimal digits that are not too many to be read as a number. -/
structure Numeral (digits : List Char) : Prop where
  decimal : Text.isDecimalText digits = true
  short : digits.length ≤ Text.maxDigits

theorem numeral_toDigits {n : Nat} (few : (Nat.toDigits 10 n).length ≤ Text.maxDigits) :
    Numeral (Nat.toDigits 10 n) := by
  refine ⟨?_, few⟩
  simp only [Text.isDecimalText, Bool.and_eq_true, Bool.not_eq_true', List.isEmpty_eq_false_iff, List.all_eq_true]
  refine ⟨Nat.toDigits_ne_nil, fun c member => ?_⟩
  rw [Text.isDecimal, Text.digit_of_isDigit (Nat.isDigit_of_mem_toDigits (by decide) (by decide) member)]
  rfl

theorem Numeral.read {digits : List Char} (numeral : Numeral digits) :
    decimalInt digits = .ok (Text.number digits) := by
  rw [decimalInt, Text.readInteger_of_decimal numeral.decimal, if_neg (Nat.not_lt.2 numeral.short)]
  rfl

theorem decimalInt_eq_error {text : List Char} {e : Failure} (decimal : Text.isDecimalText text = true) :
    decimalInt text = .error e ↔ e = .tooManyDigits text.length ∧ Text.maxDigits < text.length := by
  rw [decimalInt, Text.readInteger_of_decimal decimal]
  split
  · next long => simp [Except.mapError, Failure.ofInteger, long, eq_comm]
  · next short => simp [Except.mapError, short]

namespace Term

/-- A lexeme that gives no token has a distance that is too long. -/
theorem of_token_eq_error {lexeme : Lexeme} {fault : Text.IntegerFault} (failed : token? lexeme = .error fault) :
    ∃ mode text word digits, lexeme = .word mode text ∧ splitFuzzy? text = some (word, digits) ∧
      fault = .tooManyDigits digits.length ∧ Text.maxDigits < digits.length := by
  unfold token? at failed
  split at failed
  · cases failed
  · next mode text =>
    split at failed
    · cases failed
    · next word digits fuzzy =>
      split at failed
      · next long =>
        cases failed
        exact ⟨mode, text, word, digits, rfl, fuzzy, rfl, long⟩
      · cases failed

/-- A text without blanks is one word. -/
theorem lexemes_word {c : Char} {rest : List Char} (unsigned : signMode? c = none) (bare : c ≠ '\"')
    (solid : ∀ d ∈ c :: rest, Text.isBlank d = false) : lexemes (c :: rest) = [.word .optional (c :: rest)] := by
  have whole : (c :: rest).takeWhile (fun d => !Text.isBlank d) = c :: rest :=
    List.takeWhile_eq_self_iff.2 fun d member => by simp [solid d member]
  have none : (c :: rest).dropWhile (fun d => !Text.isBlank d) = [] :=
    List.dropWhile_eq_nil_iff.2 fun d member => by simp [solid d member]
  have read : lexeme? (c :: rest) = some (.word .optional (c :: rest), []) := by
    simp only [lexeme?, unsigned, Option.bind_none]
    unfold body?
    split
    · next same => exact absurd (List.cons.inj same).1 bare
    · rw [body?.word, whole, none]
  rw [lexemes]
  split
  · next absurd => simp [read] at absurd
  · next found after same =>
    rw [read] at same
    cases same
    rw [lexemes]

/-- A word of one letter with a distance that is too long. -/
theorem tokens_overlong {digits : List Char} (decimal : ∀ c ∈ digits, Text.isDecimal c = true)
    (long : Text.maxDigits < digits.length) :
    tokens (String.ofList ('a' :: '~' :: digits)) = .error (.tooManyDigits digits.length) := by
  have solid : ∀ c ∈ 'a' :: '~' :: digits, Text.isBlank c = false := by
    intro c member
    rcases List.mem_cons.1 member with rfl | member
    · decide
    rcases List.mem_cons.1 member with rfl | member
    · decide
    exact Text.not_isBlank_of_isDecimal (decimal c member)
  have fuzzy : splitFuzzy? ('a' :: '~' :: digits) = some (['a'], digits) := by
    rw [splitFuzzy?, splitFuzzy?.fuzzyAfter, if_pos ⟨rfl, List.all_eq_true.2 decimal⟩]
  rw [tokens, String.toList_ofList, lexemes_word (by decide) (by decide) solid, List.mapM_cons, token?, fuzzy]
  simp [long, bind, Except.bind]
end Term

end QueryCache
