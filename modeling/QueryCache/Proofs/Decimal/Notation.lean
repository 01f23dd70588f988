import QueryCache.Decimal.Notation
import QueryCache.Proofs.Decimal.Shortest

/-! Reading the texts of numbers back.

However a decimal is laid out, its digits, its point and its exponent tell its value. So the texts
of two numbers differ. -/

set_option autoImplicit false

namespace QueryCache.Binary64

/-- A decimal as it is laid out. -/
def Decimal.layout (style : Style) (d : Decimal) : List Char :=
  let digits := Nat.toDigits 10 d.digits
  let lead : Int := d.exponent + (digits.length : Int) - 1
  if style.least ≤ lead ∧ lead < style.limit then positional digits lead else scientific style digits lead

/-- Zero is written positionally. -/
def Style.Regular (style : Style) : Prop := style.least ≤ 0 ∧ 0 < style.limit

theorem textIn_finite {style : Style} (regular : style.Regular) (negative : Bool) (units : Nat) :
    textIn style (.finite negative units) = (if negative then ['-'] else []) ++ (decimalOf units).layout style := by
  have zero : Decimal.layout style ⟨0, 0⟩ = ['0', '.', '0'] := if_pos regular
  unfold textIn decimalOf
  dsimp only
  split
  · rw [zero]
  · unfold Decimal.layout
    dsimp only
    split <;> rfl

/-! ## Reading -/

/-- The exponent that a text ends with; without one it is zero. -/
def readExponent : List Char → Int
  | 'e' :: '-' :: digits => -(Nat.ofDigitChars 10 digits 0)
  | 'e' :: '+' :: digits | 'e' :: digits => Nat.ofDigitChars 10 digits 0
  | _ => 0

def readDecimal (text : List Char) : Decimal :=
  let mantissa := text.takeWhile (· ≠ 'e')
  let fraction := (mantissa.dropWhile (· ≠ '.')).drop 1
  ⟨Nat.ofDigitChars 10 (mantissa.filter (· ≠ '.')) 0,
    readExponent (text.dropWhile (· ≠ 'e')) - (fraction.length : Int)⟩

theorem ofDigitChars_zeros (zeros : Nat) (digits : List Char) :
    Nat.ofDigitChars 10 (List.replicate zeros '0' ++ digits) 0 = Nat.ofDigitChars 10 digits 0 := by
  rw [Nat.ofDigitChars_append, Nat.ofDigitChars_replicate_zero, Nat.mul_zero]

theorem isDigit_zeros {zeros : Nat} {c : Char} (member : c ∈ List.replicate zeros '0') : c.isDigit = true := by
  rw [List.eq_of_mem_replicate member]
  rfl

/-! ## Laying out -/

section

variable {mantissa rest : List Char}

theorem readDecimal_ends (ends : rest.head?.all (· = 'e') = true) (bare : ∀ c ∈ mantissa, c ≠ 'e') :
    readDecimal (mantissa ++ rest) = ⟨Nat.ofDigitChars 10 (mantissa.filter (· ≠ '.')) 0,
      readExponent rest - (((mantissa.dropWhile (· ≠ '.')).drop 1).length : Int)⟩ := by
  have before : ∀ c ∈ mantissa, decide (c ≠ 'e') = true := fun c member => decide_eq_true (bare c member)
  have head : rest.takeWhile (· ≠ 'e') = [] ∧ rest.dropWhile (· ≠ 'e') = rest := by
    cases rest with
    | nil => exact ⟨rfl, rfl⟩
    | cons c rest =>
      have : c = 'e' := by simpa using ends
      simp [this]
  unfold readDecimal
  dsimp only
  rw [List.takeWhile_append_of_pos before, List.dropWhile_append_of_pos before, head.1, head.2, List.append_nil]

/-- What stands before and behind the point. -/
theorem readDecimal_point (whole fraction : List Char) (ends : rest.head?.all (· = 'e') = true)
    (digits : ∀ c ∈ whole ++ fraction, c.isDigit = true) :
    readDecimal (whole ++ '.' :: fraction ++ rest) =
      ⟨Nat.ofDigitChars 10 (whole ++ fraction) 0, readExponent rest - (fraction.length : Int)⟩ := by
  have other {c mark : Char} (member : c ∈ whole ++ fraction) (apart : mark.isDigit = false) : c ≠ mark := by
    rintro rfl
    rw [digits c member] at apart
    cases apart
  -- All around the point are digits, so the first mark of each kind is the only one.
  have bare : ∀ c ∈ whole ++ '.' :: fraction, c ≠ 'e' := by
    intro c member
    rcases List.mem_append.1 member with left | right
    · exact other (List.mem_append_left _ left) rfl
    · rcases List.mem_cons.1 right with rfl | right
      · decide
      · exact other (List.mem_append_right _ right) rfl
  have kept {part : List Char} (inside : part ⊆ whole ++ fraction) : ∀ c ∈ part, decide (c ≠ '.') = true :=
    fun c member => decide_eq_true (other (inside member) rfl)
  have left := kept (List.subset_append_left whole fraction)
  have filtered : (whole ++ '.' :: fraction).filter (· ≠ '.') = whole ++ fraction := by
    rw [List.filter_append, List.filter_eq_self.2 left, List.filter_cons_of_neg (by decide),
      List.filter_eq_self.2 (kept (List.subset_append_right whole fraction))]
  have point : (whole ++ '.' :: fraction).dropWhile (· ≠ '.') = '.' :: fraction := by
    rw [List.dropWhile_append_of_pos left]
    rfl
  rw [readDecimal_ends ends bare, filtered, point]
  rfl

theorem value_readDecimal_point {whole fraction : List Char} (digits : ∀ c ∈ whole ++ fraction, c.isDigit = true) :
    (readDecimal (whole ++ '.' :: fraction)).value =
      Decimal.value ⟨Nat.ofDigitChars 10 (whole ++ fraction) 0, -(fraction.length : Int)⟩ := by
  have read := @readDecimal_point [] whole fraction rfl digits
  have none_ : readExponent [] = 0 := rfl
  rw [List.append_nil, none_, Int.zero_sub] at read
  rw [read]

end

section

variable {digits : List Char} {lead : Int} (all : ∀ c ∈ digits, c.isDigit = true)

include all

theorem readExponent_digits : readExponent ('e' :: digits) = Nat.ofDigitChars 10 digits 0 := by
  cases digits with
  | nil => rfl
  | cons c rest =>
    have digit := all c List.mem_cons_self
    -- A digit is no sign, so the first two forms are out.
    unfold readExponent
    split
    · next same =>
      cases same
      cases digit
    · next same =>
      cases same
      cases digit
    · next same =>
      cases same
      rfl
    · next other => exact absurd rfl (other _)

omit all in
theorem readExponent_lead (style : Style) (lead : Int) :
    readExponent ('e' :: (if lead < 0 then ['-'] else if style.plus then ['+'] else []) ++
      List.replicate (style.width - (Nat.toDigits 10 lead.natAbs).length) '0' ++ Nat.toDigits 10 lead.natAbs) =
        lead := by
  have value (zeros : Nat) :
      Nat.ofDigitChars 10 (List.replicate zeros '0' ++ Nat.toDigits 10 lead.natAbs) 0 = lead.natAbs := by
    rw [ofDigitChars_zeros, Nat.ofDigitChars_ten_toDigits]
  rw [List.append_assoc]
  split
  · simp only [List.cons_append, List.nil_append, readExponent, value]
    omega
  · split
    · simp only [List.cons_append, List.nil_append, readExponent, value]
      omega
    · simp only [List.cons_append, List.nil_append]
      rw [readExponent_digits, value]
      · omega
      · intro c member
        rcases List.mem_append.1 member with zero | digit
        · exact isDigit_zeros zero
        · exact Nat.isDigit_of_mem_toDigits (by decide) (by decide) digit

/-- One digit, the point and the others are the digits, with as many behind the point as there are others. -/
theorem readDecimal_scientific (style : Style) (some : digits ≠ []) :
    readDecimal (scientific style digits lead) =
      ⟨Nat.ofDigitChars 10 digits 0, lead - ((digits.length : Int) - 1)⟩ := by
  unfold scientific
  dsimp only
  rw [List.append_assoc, List.append_assoc, ← List.append_assoc ('e' :: _)]
  have exponent := readExponent_lead style lead
  -- A single digit is written without a point.
  cases digits with
  | nil => exact absurd rfl some
  | cons first rest =>
    cases rest with
    | nil =>
      have digit := all first List.mem_cons_self
      have other (mark : Char) (apart : mark.isDigit = false) : first ≠ mark := by
        rintro rfl
        rw [digit] at apart
        cases apart
      refine (readDecimal_ends (by simp) (by simpa using other 'e' rfl)).trans ?_
      rw [exponent]
      simp [other '.' rfl]
    | cons second rest =>
      refine (readDecimal_point [first] (second :: rest) (by simp) all).trans ?_
      rw [exponent]
      simp

theorem value_readDecimal_positional :
    (readDecimal (positional digits lead)).value =
      Decimal.value ⟨Nat.ofDigitChars 10 digits 0, lead - ((digits.length : Int) - 1)⟩ := by
  unfold positional
  dsimp only
  split
  · next small =>
    have digits' : ∀ c ∈ ['0'] ++ (List.replicate (-lead - 1).toNat '0' ++ digits), c.isDigit = true := by
      simpa [or_imp, forall_and] using all
    refine (value_readDecimal_point digits').trans ?_
    congr 2
    · exact (ofDigitChars_zeros 1 _).trans (ofDigitChars_zeros ..)
    · simp only [List.length_append, List.length_replicate]
      omega
  · next large =>
    have padding : ∀ c ∈ digits ++ List.replicate (lead.toNat + 1 - digits.length) '0', c.isDigit = true := by
      intro c member
      rcases List.mem_append.1 member with digit | zero
      · exact all c digit
      · exact isDigit_zeros zero
    -- Either the point falls among the digits, or zeros stand in for the places that are missing
    -- and for the fraction.
    rcases Nat.lt_or_ge (lead.toNat + 1) digits.length with long | short
    · have none_ : lead.toNat + 1 - digits.length = 0 := by omega
      have more : (digits.drop (lead.toNat + 1)).isEmpty = false := by
        rw [List.isEmpty_eq_false_iff]
        exact fun empty => by simp at empty; omega
      simp only [none_, List.replicate_zero, List.append_nil, more, Bool.false_eq_true, if_false]
      refine (value_readDecimal_point (by rwa [List.take_append_drop])).trans ?_
      rw [List.take_append_drop]
      congr 2
      simp only [List.length_drop]
      omega
    · have lengths : (digits ++ List.replicate (lead.toNat + 1 - digits.length) '0').length = lead.toNat + 1 := by
        simp
        omega
      obtain ⟨zeros, same⟩ : ∃ zeros, lead.toNat + 1 - digits.length = zeros := ⟨_, rfl⟩
      rw [same] at lengths padding ⊢
      rw [List.drop_eq_nil_of_le lengths.le, List.take_of_length_le lengths.le]
      refine (value_readDecimal_point (by simpa [or_imp, forall_and] using padding)).trans ?_
      have further : digits ++ List.replicate zeros '0' ++ ['0'] = digits ++ List.replicate (zeros + 1) '0' := by
        rw [List.append_assoc, List.replicate_succ']
      have exponent : lead - ((digits.length : Int) - 1) = zeros := by omega
      simp only [List.isEmpty_nil, if_true]
      rw [further, Nat.ofDigitChars_append, Nat.ofDigitChars_replicate_zero, exponent, Decimal.value, Decimal.value]
      push_cast
      rw [List.length_singleton, Nat.cast_one, zpow_neg_one, zpow_natCast, pow_succ]
      field_simp

end

theorem value_readDecimal (style : Style) (d : Decimal) : (readDecimal (d.layout style)).value = d.value := by
  have all (c : Char) (member : c ∈ Nat.toDigits 10 d.digits) : c.isDigit = true :=
    Nat.isDigit_of_mem_toDigits (by decide) (by decide) member
  have same : Decimal.mk (Nat.ofDigitChars 10 (Nat.toDigits 10 d.digits) 0)
      (d.exponent + ((Nat.toDigits 10 d.digits).length : Int) - 1 -
        (((Nat.toDigits 10 d.digits).length : Int) - 1)) = d := by
    rw [Nat.ofDigitChars_ten_toDigits]
    congr 1
    omega
  unfold Decimal.layout
  dsimp only
  split
  · rw [value_readDecimal_positional all, same]
  · rw [readDecimal_scientific all style Nat.toDigits_ne_nil, same]

/-! ## Characters -/

theorem toDigits_eq_cons (n : Nat) : ∃ c rest, Nat.toDigits 10 n = c :: rest ∧ ∀ d ∈ c :: rest, d.isDigit = true := by
  obtain ⟨c, rest, same⟩ := List.exists_cons_of_ne_nil (Nat.toDigits_ne_nil (b := 10) (n := n))
  refine ⟨c, rest, same, fun d member => ?_⟩
  rw [← same] at member
  exact Nat.isDigit_of_mem_toDigits (by decide) (by decide) member

/-- A number begins with a digit. -/
theorem layout_head (style : Style) (d : Decimal) : ∃ c rest, d.layout style = c :: rest ∧ c.isDigit = true := by
  obtain ⟨c, rest, same, digits⟩ := toDigits_eq_cons d.digits
  have digit := digits c List.mem_cons_self
  unfold Decimal.layout
  dsimp only
  rw [same]
  split
  · unfold positional
    dsimp only
    split
    · exact ⟨'0', _, rfl, rfl⟩
    · exact ⟨c, _, rfl, digit⟩
  · cases rest with
    | nil => exact ⟨c, _, rfl, digit⟩
    | cons second rest => exact ⟨c, _, rfl, digit⟩

/-- No number is written as an integer is. -/
theorem point_or_exponent_mem_layout (style : Style) (d : Decimal) : '.' ∈ d.layout style ∨ 'e' ∈ d.layout style := by
  unfold Decimal.layout
  dsimp only
  split
  · unfold positional
    dsimp only
    split <;> simp
  · simp [scientific]

section

variable {digits : List Char} {lead : Int} {c : Char} (all : ∀ c ∈ digits, c.isDigit = true)

include all

theorem isDigit_of_mem_positional (member : c ∈ positional digits lead) : c.isDigit = true ∨ c = '.' := by
  have padded {zeros : Nat} (member : c ∈ digits ++ List.replicate zeros '0') : c.isDigit = true :=
    (List.mem_append.1 member).elim (all c) isDigit_zeros
  unfold positional at member
  dsimp only at member
  split at member
  · simp only [List.cons_append, List.mem_cons, List.mem_append] at member
    rcases member with rfl | point | zero | digit
    · exact .inl rfl
    · exact .inr point
    · exact .inl (isDigit_zeros zero)
    · exact .inl (all c digit)
  · rcases List.mem_append.1 member with left | right
    · exact .inl (padded (List.mem_of_mem_take left))
    · rcases List.mem_cons.1 right with point | right
      · exact .inr point
      · split at right
        · rw [List.mem_singleton.1 right]
          exact .inl rfl
        · exact .inl (padded (List.mem_of_mem_drop right))

theorem isDigit_of_mem_scientific {style : Style} (member : c ∈ scientific style digits lead) :
    c.isDigit = true ∨ c ∈ ['.', 'e', '-', '+'] := by
  unfold scientific at member
  simp only [List.append_assoc, List.cons_append, List.mem_append, List.mem_cons] at member
  rcases member with mantissa | rfl | sign | zero | digit
  · split at mantissa
    · next first second rest =>
      rcases List.mem_cons.1 mantissa with rfl | mantissa
      · exact .inl (all c List.mem_cons_self)
      · rcases List.mem_cons.1 mantissa with rfl | other
        · exact .inr List.mem_cons_self
        · exact .inl (all c (List.mem_cons_of_mem _ other))
    · exact .inl (all c mantissa)
  · exact .inr (by decide)
  · have signs : c ∈ ['-', '+'] := by
      split at sign
      · rw [List.mem_singleton.1 sign]
        decide
      · split at sign
        · rw [List.mem_singleton.1 sign]
          decide
        · cases sign
    exact .inr (List.mem_cons_of_mem _ (List.mem_cons_of_mem _ signs))
  · exact .inl (isDigit_zeros zero)
  · exact .inl (Nat.isDigit_of_mem_toDigits (by decide) (by decide) digit)

end

theorem isDigit_of_mem_layout {style : Style} {d : Decimal} {c : Char} (member : c ∈ d.layout style) :
    c.isDigit = true ∨ c ∈ ['.', 'e', '-', '+'] := by
  have all (c : Char) (member : c ∈ Nat.toDigits 10 d.digits) : c.isDigit = true :=
    Nat.isDigit_of_mem_toDigits (by decide) (by decide) member
  unfold Decimal.layout at member
  dsimp only at member
  split at member
  · rcases isDigit_of_mem_positional all member with digit | rfl
    · exact .inl digit
    · exact .inr List.mem_cons_self
  · exact isDigit_of_mem_scientific all member

/-- Numbers can be told by their texts. -/
theorem textIn_inj {style : Style} (regular : style.Regular) {negative negative' : Bool} {units units' : Nat}
    (kept : Kept units) (kept' : Kept units')
    (same : textIn style (.finite negative units) = textIn style (.finite negative' units')) :
    negative = negative' ∧ units = units' := by
  rw [textIn_finite regular, textIn_finite regular] at same
  obtain ⟨c, rest, head, digit⟩ := layout_head style (decimalOf units)
  obtain ⟨c', rest', head', digit'⟩ := layout_head style (decimalOf units')
  -- The sign aside, the text is the layout, and what it is read as has the value of the decimal.
  have told (layouts : (decimalOf units).layout style = (decimalOf units').layout style) : units = units' := by
    apply decimalOf_inj kept kept'
    calc (decimalOf units).value = (readDecimal ((decimalOf units).layout style)).value := (value_readDecimal ..).symm
      _ = (readDecimal ((decimalOf units').layout style)).value := by rw [layouts]
      _ = (decimalOf units').value := value_readDecimal ..
  -- A layout begins with a digit, so only a sign accounts for a minus.
  cases negative with
  | true =>
    cases negative' with
    | true => exact ⟨rfl, told (List.append_cancel_left same)⟩
    | false =>
      rw [head'] at same
      cases (List.cons.inj same).1
      cases digit'
  | false =>
    cases negative' with
    | true =>
      rw [head] at same
      cases (List.cons.inj same).1
      cases digit
    | false => exact ⟨rfl, told same⟩

end QueryCache.Binary64
