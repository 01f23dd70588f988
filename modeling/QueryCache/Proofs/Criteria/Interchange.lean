import QueryCache.Proofs.Criteria.Refusals

/-! Tokens in place of numbers.

A condition on an identifier may hold the number itself or the token that a transcoder writes for it.
Both decode to the same value, so a request in which some numbers have become tokens adds the same to a
query, and is refused for the same cause. -/

set_option autoImplicit false

namespace QueryCache

open Text Outcome

/-! ## Numerals are no words -/

namespace Text

/-- A digit stands in the row of some zero. -/
theorem exists_zero_of_isDecimal {c : Char} (decimal : isDecimal c = true) :
    ∃ first ∈ digitZeros, first ≤ c.toNat ∧ c.toNat < first + 10 := by
  obtain ⟨d, digit⟩ := Option.isSome_iff_exists.1 decimal
  unfold digit? at digit
  split at digit
  · split at digit
    · next ascii =>
      have range : 48 ≤ c.toNat ∧ c.toNat ≤ 57 := by simpa [Char.isDigit, UInt32.le_iff_toNat_le] using ascii
      exact ⟨48, by simp [digitZeros], by omega⟩
    · cases digit
  · obtain ⟨first, found, -⟩ := Option.map_eq_some_iff.1 digit
    exact ⟨first, List.mem_of_find?_eq_some found, by simpa using List.find?_some found⟩

/-- Digits have no case. -/
theorem lowerChar_of_isDecimal {c : Char} (decimal : isDecimal c = true) : lowerChar c = c ∧ c ≠ 'Σ' ∧ c ≠ 'İ' := by
  obtain ⟨first, member, least, most⟩ := exists_zero_of_isDecimal decimal
  -- The rows of digits lie apart from those of capital letters.
  have capitals : ∀ first ∈ digitZeros, 90 < first ∨ first + 10 ≤ 65 := by decide
  have rows : ∀ first ∈ digitZeros, ∀ row ∈ lowerRows, row.2.1 < first ∨ first + 10 ≤ row.1 := by
    have checked : (digitZeros.all fun first => lowerRows.all fun row =>
        row.2.1.blt first || (first + 10).ble row.1) = true := by decide +kernel
    simpa using checked
  have letters : ∀ first ∈ digitZeros, ∀ letter ∈ ['Σ'.toNat, 'İ'.toNat], letter < first ∨ first + 10 ≤ letter := by
    decide
  have other (letter : Char) (known : letter.toNat ∈ ['Σ'.toNat, 'İ'.toNat]) : c ≠ letter := by
    rintro rfl
    have := letters first member _ known
    omega
  refine ⟨?_, other _ (by simp), other _ (by simp)⟩
  unfold lowerChar
  split
  · have small : ¬(c.val ≥ 'A'.val ∧ c.val ≤ 'Z'.val) := by
      have := capitals first member
      rw [ge_iff_le, UInt32.le_iff_toNat_le, UInt32.le_iff_toNat_le]
      change ¬(65 ≤ c.toNat ∧ c.toNat ≤ 90)
      omega
    exact dif_neg small
  · have none : (lowerRows.find? fun row =>
        row.1 ≤ c.toNat && c.toNat ≤ row.2.1 && (c.toNat - row.1) % row.2.2.1 == 0) = none := by
      refine List.find?_eq_none.2 fun row found => ?_
      have := rows first member row found
      simp only [Bool.and_eq_true, decide_eq_true_eq, not_and]
      omega
    rw [none]

end Text

/-- No word for an operator has a digit in it. -/
theorem Operator.IsNamedBy.not_isDecimal {op : Operator} {token : List Char} (named : op.IsNamedBy token) {c : Char}
    (found : c ∈ token) : isDecimal c = false := by
  by_contra digit
  obtain ⟨same, capital, dotted⟩ := lowerChar_of_isDecimal (by simpa using digit)
  obtain ⟨word, member, low⟩ := named
  have inside : c ∈ word.toList := low ▸ mem_lowerAfter same capital dotted found []
  have free : ∀ entry ∈ words, (entry.1.toList.all fun c => !isDecimal c) = true := by decide +kernel
  exact digit (by simpa using List.all_eq_true.1 (free _ member) c inside)

theorem Operator.IsNamedBy.not_isDecimalText {op : Operator} {token : List Char} (named : op.IsNamedBy token) :
    isDecimalText token = false := by
  cases token with
  | nil => rfl
  | cons c rest => simp [isDecimalText, named.not_isDecimal (List.mem_cons_self : c ∈ c :: rest)]

/-! ## Tokens -/

theorem Numeral.writable {digits : List Char} (numeral : Numeral digits) :
    Value.isWritable (Text.number digits) = true :=
  decide_eq_true (Text.length_toDigits_number_le (by decide) numeral.short)

/-- A text that stands for itself wherever a request wants a value: it cannot be taken for a number, an
operator or several values. -/
structure IsToken (text : List Char) : Prop where
  filled : text ≠ []
  trimmed : Text.Trimmed text
  coded : Text.isDecimalText text = false
  valued : ∀ op : Operator, op.IsNamedBy text → op.isNullary = false
  free : ∀ sep ∈ [';', ',', ':'], sep ∉ text

/-- A transcoder that gives every number a token, from which it finds the number again. -/
structure Transcoder.Faithful (t : Transcoder) : Prop where
  decode_encode : ∀ n : Nat, Value.isWritable n = true → t.decode (t.encode n) = .ok (some (n : Int))
  token : ∀ n : Nat, Value.isWritable n = true → IsToken (t.encode n).toList

/-- Digits behind a mark are tokens if the mark is a word without blanks and separators, and no number. -/
theorem Transcoder.marked_faithful {mark : String} (solid : ∀ c ∈ mark.toList, isBlank c = false)
    (coded : ∃ c ∈ mark.toList, isDecimal c = false) (free : ∀ sep ∈ [';', ',', ':'], sep ∉ mark.toList) :
    (Transcoder.marked mark).Faithful := by
  have text (n : Nat) : ((Transcoder.marked mark).encode n).toList = mark.toList ++ Nat.toDigits 10 n := by
    simp [Transcoder.marked, String.toList_append, Int.repr, Nat.toList_repr]
  have ascii (n : Nat) : ∀ c ∈ Nat.toDigits 10 n, c.isDigit = true :=
    fun c member => Nat.isDigit_of_mem_toDigits (by decide) (by decide) member
  have decimal (n : Nat) : ∀ c ∈ Nat.toDigits 10 n, isDecimal c = true := fun c member => by
    rw [isDecimal, digit_of_isDigit (ascii n c member)]
    rfl
  -- The character that is no digit keeps every token from being a number, and the digits keep it from being an
  -- operator.
  obtain ⟨letter, member, other⟩ := coded
  refine ⟨fun n writable => ?_, fun n writable => ?_⟩
  · have numeral : Numeral (Nat.toDigits 10 n) := numeral_toDigits (of_decide_eq_true writable)
    have read := numeral.read
    rw [number_toDigits] at read
    have drop : (mark.toList ++ Nat.toDigits 10 n).drop mark.toList.length = Nat.toDigits 10 n := List.drop_left
    have start : mark.toList.isPrefixOf (mark.toList ++ Nat.toDigits 10 n) = true := by simp
    have whole : (!(Nat.toDigits 10 n).isEmpty && (Nat.toDigits 10 n).all Char.isDigit) = true := by
      simpa [Nat.toDigits_ne_nil] using ascii n
    change (if _ then _ else _) = _
    rw [text, drop, Bool.and_assoc, start, whole, Bool.true_and, if_pos rfl, read]
    rfl
  · rw [show (marked mark).encode n = (marked mark).encode (n : Int) from rfl, text n]
    constructor
    · simp [Nat.toDigits_ne_nil]
    · refine trimmed_of_solid fun c found => ?_
      rcases List.mem_append.1 found with inside | digit
      · exact solid c inside
      · exact not_isBlank_of_isDecimal (decimal n c digit)
    · simp only [isDecimalText, Bool.and_eq_false_imp]
      intro _
      rw [List.all_eq_false]
      exact ⟨letter, by simp [member], by simp [other]⟩
    · intro op named
      obtain ⟨c, digit⟩ := List.exists_mem_of_ne_nil _ (Nat.toDigits_ne_nil (n := n) (b := 10))
      exact absurd (decimal n c digit) (by simp [named.not_isDecimal (List.mem_append_right _ digit)])
    · intro sep separates found
      rcases List.mem_append.1 found with inside | digit
      · exact free sep separates inside
      · have none : ([';', ',', ':'].all fun sep => !isDecimal sep) = true := by decide
        have other : isDecimal sep = false := by simpa using List.all_eq_true.1 none sep separates
        cases other.symm.trans (decimal n sep digit)

/-! ## Recoded requests -/

/-- A value that is kept, or a numeral with the token of its number in its place. -/
inductive Recoded (t : Transcoder) : String → String → Prop
  | kept {value : String} : Recoded t value value
  | token {digits : String} : Numeral digits.toList → Recoded t digits (t.encode (Text.number digits.toList))

/-- A condition that is kept, or one on an identifier with some values recoded. -/
inductive Condition.Recoded (t : Transcoder) : Condition → Condition → Prop
  | kept {c : Condition} : Condition.Recoded t c c
  | identifier {c : Condition} {values : List String} : c.maybeEncodedId = true →
    List.Forall₂ (QueryCache.Recoded t) c.values values → Condition.Recoded t c { c with values }

inductive Section.Recoded (t : Transcoder) : Section → Section → Prop
  | conditions {s : Section} {conditions : List Condition} :
    List.Forall₂ (Condition.Recoded t) s.conditions conditions → Section.Recoded t s { s with conditions }

/-- A request with values recoded in its search and its filter. -/
inductive Request.Recoded (t : Transcoder) : Request → Request → Prop
  | sections {r : Request} {search filter : Option Section} :
    Option.Rel (Section.Recoded t) r.search search → Option.Rel (Section.Recoded t) r.filter filter →
    Request.Recoded t r { r with search, filter }

theorem Section.Recoded.refl (t : Transcoder) (s : Section) : s.Recoded t s :=
  .conditions (List.forall₂_same.2 fun _ _ => .kept)

section

variable {t : Transcoder} {c : RequestCriterion} {q : QueryState}

theorem decodeValue_recoded (faithful : t.Faithful) {value value' : String} (recoded : Recoded t value value')
    (field : String) (policy : DecodePolicy) (entity : Option String) :
    decodeValue field (some t) policy entity (.str value') = decodeValue field (some t) policy entity (.str value) := by
  cases recoded with
  | kept => rfl
  | token numeral =>
    rw [decodeValue_other (faithful.token _ numeral.writable).coded, faithful.decode_encode _ numeral.writable,
      decodeValue_decimal numeral.decimal, numeral.read]
    rfl

theorem decodeValues_recoded (faithful : t.Faithful) {values values' : List String}
    (recoded : List.Forall₂ (Recoded t) values values') (field : String) (policy : DecodePolicy)
    (entity : Option String) :
    decodeValues field (values'.map .str) (some t) policy entity =
      decodeValues field (values.map .str) (some t) policy entity := by
  induction recoded with
  | nil => rfl
  | cons first _ ih => simp only [List.map_cons, decodeValues, decodeValue_recoded faithful first, ih]

namespace RequestCriterion

theorem leaf_recoded (faithful : t.Faithful) (held : c.transcoder = some t) {condition condition' : Condition}
    (recoded : condition.Recoded t condition') (op : Operator) :
    c.leaf condition' op true = c.leaf condition op true := by
  cases recoded with
  | kept => rfl
  | @identifier values encoded recoded =>
    have encoded' : { condition with values }.maybeEncodedId = true := encoded
    rw [leaf_decoded rfl held encoded, leaf_decoded rfl held encoded', decodeValues_recoded faithful recoded]

theorem leaves_recoded (faithful : t.Faithful) (held : c.transcoder = some t) {part part' : Section}
    (recoded : part.Recoded t part') : c.leaves part' true = c.leaves part true := by
  cases recoded with
  | @conditions conditions recoded =>
    refine (mapM_eq_of_forall₂ (recoded.imp fun condition condition' recoded => ?_)).symm
    rw [leaf_recoded faithful held recoded]
    cases recoded <;> rfl

theorem applySection_recoded (faithful : t.Faithful) (held : c.transcoder = some t) {part part' : Section}
    (recoded : part.Recoded t part') (q : QueryState) : c.applySection part' true q = c.applySection part true q := by
  have join : part'.join = part.join := by cases recoded; rfl
  rw [applySection, applySection, leaves_recoded faithful held recoded, join]

theorem applySearch_recoded (faithful : t.Faithful) (held : c.transcoder = some t) (decode : c.decodeSearch = true)
    {part part' : Section} (recoded : part.Recoded t part') (q : QueryState) :
    c.applySearch part' q = c.applySearch part q := by
  have sections := applySection_recoded faithful held recoded q
  cases recoded with
  | conditions =>
    rw [applySearch, applySearch, decode, sections]
    rfl

/-- A request adds the same to a query, or fails in the same way, when numbers of identifiers are recoded. -/
theorem apply_recoded (faithful : t.Faithful) (held : c.transcoder = some t) (search : c.decodeSearch = true)
    (filter : c.decodeFilters = true) {request : Request} (recoded : c.request.Recoded t request) (q : QueryState) :
    ({ c with request }).apply q = c.apply q := by
  cases recoded with
  | @sections search' filter' searched filtered =>
    have onSearch (q : QueryState) :
        search'.elim (.ok q) (c.applySearch · q) = c.request.search.elim (.ok q) (c.applySearch · q) := by
      generalize c.request.search = part at searched
      cases searched with
      | none => rfl
      | some recoded => exact applySearch_recoded faithful held search recoded q
    have onFilter (q : QueryState) : filter'.elim (.ok q) (c.applySection · c.decodeFilters q) =
        c.request.filter.elim (.ok q) (c.applySection · c.decodeFilters q) := by
      rw [filter]
      generalize c.request.filter = part at filtered
      cases filtered with
      | none => rfl
      | some recoded => exact applySection_recoded faithful held recoded q
    rw [apply_eq, apply_eq c]
    simp only [← onSearch, ← onFilter]
    rfl

end RequestCriterion

end

end QueryCache
