import QueryCache.Predicate.Eval
import QueryCache.Proofs.Calendar.Text
import QueryCache.Proofs.Outcome
import QueryCache.Proofs.Predicate.Pattern

/-! Patterns on values that are no texts.

A pattern is read as the type of the stored value first, like any other request value. A pattern that
cannot be read so covers the text of the value as it does any text. One that can is a value by then,
and its text has no wildcard in it: it covers the text of the stored value only if the two are the
same. -/

set_option autoImplicit false

namespace QueryCache

namespace Like

variable {pattern text : List Char}

/-- The characters that numbers, days and times are written with. None of them is a wildcard, and none
is another one in upper case. -/
def steady : List Char := "0123456789+-.: aefin".toList

theorem ne_wildcard_of_steady {c : Char} (member : c ∈ steady) : c ≠ '%' ∧ c ≠ '_' := by
  have all : steady.all (fun c => c != '%' && c != '_') = true := by decide
  simpa using List.all_eq_true.1 all c member

theorem eq_of_sameLetter {c d : Char} (member : c ∈ steady) (member' : d ∈ steady)
    (same : Text.sameLetter c d = true) : c = d := by
  have all : steady.all (fun c => steady.all fun d => !Text.sameLetter c d || c == d) = true := by decide +kernel
  have both := List.all_eq_true.1 (List.all_eq_true.1 all c member) d member'
  simpa [same] using both

def Steady (text : List Char) : Prop := ∀ c ∈ text, c ∈ steady

-- Looking through a text, not through all characters that there are.
instance : DecidablePred Steady := fun text => List.decidableBAll (· ∈ steady) text

theorem Steady.append {first last : List Char} (steady : Steady first) (steady' : Steady last) :
    Steady (first ++ last) :=
  fun c member => (List.mem_append.1 member).elim (steady c) (steady' c)

theorem covers_self (steady : Steady pattern) : Covers pattern pattern := by
  induction pattern with
  | nil => exact .nil
  | cons c pattern ih =>
    obtain ⟨first, others⟩ := List.forall_mem_cons.1 steady
    obtain ⟨percent, line⟩ := ne_wildcard_of_steady first
    exact .letter percent line (beq_self_eq_true _) (ih others)

theorem Covers.eq_of_steady (covers : Covers pattern text) (steady : Steady pattern) (steady' : Steady text) :
    pattern = text := by
  induction covers with
  | nil => rfl
  | any =>
    have percent := ne_wildcard_of_steady (steady _ List.mem_cons_self)
    exact absurd rfl percent.1
  | one =>
    have line := ne_wildcard_of_steady (steady _ List.mem_cons_self)
    exact absurd rfl line.2
  | letter _ _ same _ ih =>
    obtain ⟨first, others⟩ := List.forall_mem_cons.1 steady
    obtain ⟨first', others'⟩ := List.forall_mem_cons.1 steady'
    rw [eq_of_sameLetter first first' same, ih others others']

theorem matchesText_of_steady (steady : Steady pattern) (steady' : Steady text) :
    matchesText pattern text = true ↔ pattern = text := by
  simp only [matchesText, List.any_eq_true, mem_leftOver, Bool.or_eq_true, beq_iff_eq]
  constructor
  · rintro ⟨rest, ⟨body, covers, rfl⟩, rfl | rfl⟩
    · rw [List.append_nil] at steady' ⊢
      exact covers.eq_of_steady steady steady'
    · -- A line feed at the end would not count, but there is none in such a text.
      have feed : '\n' ∈ Like.steady := steady' _ (by simp)
      exact absurd feed (by decide)
  · rintro rfl
    exact ⟨[], ⟨pattern, covers_self steady, List.append_nil pattern⟩, .inl rfl⟩

/-! ## Texts of values -/

theorem mem_steady_of_isDigit {c : Char} (digit : c.isDigit = true) : c ∈ steady := by
  have all : ∀ n < 58, 48 ≤ n → Char.ofNat n ∈ steady := by decide
  rw [Char.isDigit, Bool.and_eq_true, decide_eq_true_iff, decide_eq_true_iff] at digit
  rw [← Char.ofNat_toNat c]
  exact all c.toNat (Nat.lt_succ_of_le digit.2) digit.1

theorem steady_toDigits (n : Nat) : Steady (Nat.toDigits 10 n) :=
  fun _ member => mem_steady_of_isDigit (Nat.isDigit_of_mem_toDigits (by decide) (by decide) member)

theorem steady_int (n : Int) : Steady (toString n).toList := by
  have natural (k : Nat) : Steady k.repr.toList := by
    rw [Nat.toList_repr]
    exact steady_toDigits k
  cases n with
  | ofNat k => exact natural k
  | negSucc k =>
    change Steady ("-" ++ (k + 1).repr).toList
    rw [String.toList_append]
    exact .append (by decide) (natural (k + 1))

theorem steady_float (x : Binary64) : Steady x.text.toList := by
  rw [Binary64.text, String.toList_ofList]
  have sign (negative : Bool) : Steady (if negative then ['-'] else []) := by
    cases negative <;> decide
  cases x with
  | nan => decide
  | infinite negative => exact (sign negative).append (by decide)
  | finite negative units =>
    rw [Binary64.textIn_finite (by unfold Binary64.Style.Regular; decide)]
    refine (sign negative).append fun c member => ?_
    rcases Binary64.isDigit_of_mem_layout member with digit | mark
    · exact mem_steady_of_isDigit digit
    · have marks : Steady ['.', 'e', '-', '+'] := by decide
      exact marks c mark

theorem steady_padded (width n : Nat) : Steady (Date.padded width n).toList := by
  rw [Date.toList_padded]
  refine .append (fun c member => ?_) (steady_toDigits n)
  rw [List.eq_of_mem_replicate member]
  decide

theorem steady_date (d : Date) : Steady d.text.toList := by
  have hyphened {rest : List Char} (steady : Steady rest) : Steady ('-' :: rest) :=
    List.forall_mem_cons.2 ⟨by decide, steady⟩
  rw [Date.toList_text]
  exact (steady_padded 4 d.year).append (hyphened ((steady_padded 2 d.month).append
    (hyphened (steady_padded 2 d.day))))

theorem steady_dateTime (t : DateTime) : Steady (t.textWith " ").toList := by
  have mark : ∀ text ∈ ["-", "+", ":", ".", " ", ""], Steady text.toList := by decide
  have fraction (micro : Nat) : Steady (if micro = 0 then "" else "." ++ Date.padded 6 micro).toList := by
    split
    · exact mark _ (by decide)
    · rw [String.toList_append]
      exact (mark _ (by decide)).append (steady_padded 6 micro)
  have clock : Steady t.clockText.toList := by
    simp only [DateTime.clockText, String.toList_append]
    exact (((((steady_padded 2 t.hour).append (mark _ (by decide))).append (steady_padded 2 t.minute)).append
      (mark _ (by decide))).append (steady_padded 2 t.second)).append (fraction t.micro)
  have offset (offset : Int) : Steady (DateTime.offsetText offset).toList := by
    simp only [DateTime.offsetText, String.toList_append]
    refine (((((?_ : Steady _).append (steady_padded 2 _)).append (mark _ (by decide))).append
      (steady_padded 2 _)).append ?_).append (fraction _)
    · split <;> exact mark _ (by decide)
    · split
      · exact mark _ (by decide)
      · rw [String.toList_append]
        exact (mark _ (by decide)).append (steady_padded 2 _)
  simp only [DateTime.textWith, String.toList_append]
  refine (((steady_date t.date).append (mark _ (by decide))).append clock).append ?_
  cases t.offset with
  | none => exact mark _ (by decide)
  | some size => exact offset size

end Like

/-! ## Patterns with a percent sign -/

-- Patterns that requests make have a percent sign at both ends, which no number has anywhere.

namespace Text

variable {text : List Char}

theorem mem_dropWhile {p : Char → Bool} {c : Char} (kept : p c = false) (member : c ∈ text) :
    c ∈ text.dropWhile p := by
  rw [← List.takeWhile_append_dropWhile (p := p) (l := text)] at member
  rcases List.mem_append.1 member with dropped | member
  · have passes := List.all_eq_true.1 List.all_takeWhile c dropped
    rw [kept] at passes
    cases passes
  · exact member

theorem mem_trimNumber {c : Char} (visible : isNumberBlank c = false) (member : c ∈ text) : c ∈ trimNumber text :=
  List.mem_reverse.2 (mem_dropWhile visible (List.mem_reverse.2 (mem_dropWhile visible member)))

theorem percent_mem_splitSign (member : '%' ∈ text) : '%' ∈ (splitSign text).2 := by
  unfold splitSign
  split
  · simpa using member
  · simpa using member
  · exact member

theorem readDigits_of_percent (member : '%' ∈ text) : readDigits? text = none := by
  have bare : digit? '%' = none := by decide
  fun_induction readDigits? text with
  | case1 => cases member
  | case2 c => rw [← List.mem_singleton.1 member, bare, Option.map_none]
  | case3 c rest ih =>
    rcases List.mem_cons.1 member with rfl | member
    · rw [bare, Option.bind_eq_bind, Option.bind_none]
    · have member : '%' ∈ rest := by simpa using member
      rw [ih member]
      cases digit? c <;> rfl
  | case4 c rest _ _ ih =>
    rcases List.mem_cons.1 member with rfl | member
    · rw [bare, Option.bind_eq_bind, Option.bind_none]
    · rw [ih member]
      cases digit? c <;> rfl

theorem readInteger_of_percent (member : '%' ∈ text) : readInteger text = .error .malformed := by
  have body : '%' ∈ (splitSign (trimNumber text)).2 := percent_mem_splitSign (mem_trimNumber (by decide) member)
  unfold readInteger
  dsimp only
  rw [readDigits_of_percent body]

end Text

namespace Binary64

variable {text : List Char}

theorem percent_mem_takeDigits (member : '%' ∈ text) : '%' ∈ (takeDigits text).2 := by
  induction text with
  | nil => cases member
  | cons c rest ih =>
    rw [takeDigits]
    cases digit : Text.digit? c with
    | none => exact member
    | some n =>
      rcases List.mem_cons.1 member with rfl | member
      · cases digit
      · exact ih member

theorem readExponent_of_percent (member : '%' ∈ text) : readExponent? text = none := by
  cases text with
  | nil => cases member
  | cons mark rest =>
    rw [readExponent?]
    split
    · next exponent =>
      have member : '%' ∈ rest := by
        rcases List.mem_cons.1 member with rfl | member
        · simp at exponent
        · exact member
      have left := percent_mem_takeDigits (Text.percent_mem_splitSign member)
      dsimp only
      split
      · rfl
      · next none =>
        rw [none] at left
        cases left
      · rfl
    · rfl

theorem readDecimal_of_percent (negative : Bool) (member : '%' ∈ text) : readDecimal? negative text = none := by
  have left := percent_mem_takeDigits member
  unfold readDecimal?
  dsimp only
  split
  · next more point =>
    have member : '%' ∈ more := by
      rw [point] at left
      simpa using left
    rw [readExponent_of_percent (percent_mem_takeDigits member)]
    split <;> rfl
  · rw [readExponent_of_percent left]
    split <;> rfl

/-- No word for a number has a percent sign. -/
theorem ne_word_of_percent {word : String} (member : '%' ∈ text) (bare : '%' ∉ word.toList) :
    String.ofList (text.map Char.toLower) ≠ word := by
  rintro rfl
  rw [String.toList_ofList] at bare
  exact bare (List.mem_map.2 ⟨'%', member, by decide⟩)

theorem ofText_of_percent (member : '%' ∈ text) : ofText? text = none := by
  have solid : '%' ∈ (Text.trimNumber text).filter (· ≠ '_') :=
    List.mem_filter.2 ⟨Text.mem_trimNumber (by decide) member, by decide⟩
  have body := Text.percent_mem_splitSign solid
  unfold ofText?
  dsimp only
  split
  · rfl
  · have infinity : ¬ (_ = "inf" ∨ _ = "infinity") :=
      not_or.2 ⟨ne_word_of_percent body (by decide), ne_word_of_percent body (by decide)⟩
    rw [if_neg infinity, if_neg (ne_word_of_percent body (by decide)), readDecimal_of_percent _ body]

end Binary64

/-! ## Patterns read as values -/

namespace Value

theorem matchesText_bool (b c : Bool) :
    Like.matchesText (Value.bool b).text.toList (Value.bool c).text.toList = true ↔
      (Value.bool b).text = (Value.bool c).text := by
  cases b <;> cases c <;> decide

/-- A pattern that could be read as the stored value covers its text only if it was read as a value of
the same text. -/
theorem matchesText_of_readAs {stored read : Value} {pattern : String} (given : stored.readAs? pattern = some read) :
    Like.matchesText read.text.toList stored.text.toList = true ↔ read.text = stored.text := by
  have same {text text' : String} (steady : Like.Steady text.toList) (steady' : Like.Steady text'.toList) :
      Like.matchesText text.toList text'.toList = true ↔ text = text' :=
    (Like.matchesText_of_steady steady steady').trans String.toList_inj
  cases stored with
  | bool c =>
    obtain rfl : .bool (isTruthText pattern) = read := Option.some.inj given
    exact matchesText_bool _ c
  | int n =>
    simp only [readAs?] at given
    split at given
    · cases given
      exact same (Like.steady_int _) (Like.steady_int n)
    · cases given
  | float x =>
    obtain ⟨y, -, rfl⟩ := Option.map_eq_some_iff.1 given
    exact same (Like.steady_float y) (Like.steady_float x)
  | nan _ =>
    obtain ⟨y, -, rfl⟩ := Option.map_eq_some_iff.1 given
    exact same (Like.steady_float y) (Like.steady_float .nan)
  | date d =>
    obtain ⟨e, -, rfl⟩ := Option.map_eq_some_iff.1 given
    exact same (Like.steady_date e) (Like.steady_date d)
  | dateTime t =>
    obtain ⟨u, -, rfl⟩ := Option.map_eq_some_iff.1 given
    exact same (Like.steady_dateTime u) (Like.steady_dateTime t)
  | _ => cases given

/-- No pattern with a percent sign can be read as a number. -/
theorem readAs_of_percent {stored : Value} {pattern : String} {n : Number} (number : stored.number? = some n)
    (other : ∀ b, stored ≠ .bool b) (percent : '%' ∈ pattern.toList) : stored.readAs? pattern = none := by
  cases stored with
  | bool b => exact absurd rfl (other b)
  | int => simp only [readAs?, Text.readInteger_of_percent percent]
  | float | nan => simp only [readAs?, Binary64.ofText_of_percent percent, Option.map_none]
  | _ => cases number

end Value

namespace Predicate

/-- What a condition with a pattern answers for a stored value that is there. -/
theorem fieldHolds_like {record : Value} {name : String} (pattern : String)
    (present : (record.field name).isNull = false) :
    fieldHolds name .like [.str pattern] record =
      .ok (isLike (record.field name) ((record.field name).coercedLike (.str pattern))) := by
  simp only [fieldHolds, holdsOf, holdsOfAny?, present]
  rfl

/-- A condition with a pattern that cannot be read as the stored value compares texts. With one that
can it holds where the text of what was read is the text of the stored value, and so says what the
pattern says of the text exactly if that is the one case in which the pattern covers it. The text of
a number is always looked at where the pattern has a percent sign. -/
theorem like_covers_text_iff (record : Value) (name pattern : String)
    (present : (record.field name).isNull = false) :
    (fieldHolds name .like [.str pattern] record =
      .ok (match (record.field name).readAs? pattern with
        | none => Like.matchesText pattern.toList (record.field name).text.toList
        | some read => decide (read.text = (record.field name).text))) ∧
    (fieldHolds name .like [.str pattern] record =
        .ok (Like.matchesText pattern.toList (record.field name).text.toList) ↔
      ∀ read, (record.field name).readAs? pattern = some read →
        (Like.matchesText pattern.toList (record.field name).text.toList = true ↔
          read.text = (record.field name).text)) ∧
    (∀ n, (record.field name).number? = some n → (∀ b, record.field name ≠ .bool b) → '%' ∈ pattern.toList →
      fieldHolds name .like [.str pattern] record =
        .ok (Like.matchesText pattern.toList (record.field name).text.toList)) := by
  rw [fieldHolds_like pattern present]
  generalize record.field name = stored
  have unread (none : stored.readAs? pattern = none) :
      isLike stored (stored.coercedLike (.str pattern)) = Like.matchesText pattern.toList stored.text.toList := by
    simp only [Value.coercedLike, none, Option.getD_none]
    rfl
  have read {value : Value} (some : stored.readAs? pattern = some value) :
      isLike stored (stored.coercedLike (.str pattern)) = decide (value.text = stored.text) := by
    rw [Bool.eq_iff_iff, decide_eq_true_iff, ← Value.matchesText_of_readAs some]
    simp only [Value.coercedLike, some, Option.getD_some, isLike]
  refine ⟨?_, ?_, fun n number other percent => ?_⟩
  · split
    · next none => rw [unread none]
    · next some => rw [read some]
  · cases given : stored.readAs? pattern with
    | none => simp only [unread given, reduceCtorEq, false_implies, implies_true]
    | some value =>
      simp only [read given, Except.ok.injEq, Option.some.injEq, forall_eq']
      rw [Bool.eq_iff_iff, decide_eq_true_iff]
      exact Iff.comm
  · rw [unread (Value.readAs_of_percent number other percent)]

theorem like_covers_text_age :
    fieldHolds "age" .like [.str "3%"] (.dict [("age", .int 36)]) =
      .ok (Like.matchesText "3%".toList (Value.int 36).text.toList) :=
  (like_covers_text_iff (.dict [("age", .int 36)]) "age" "3%" (by decide +kernel)).2.2 (.whole 36)
    (by decide +kernel) (fun b (same : Value.int 36 = .bool b) => nomatch same) (by decide)

/-- A pattern is taken for a truth value or a number before anyone looks for a text in it. -/
theorem like_reads_pattern :
    (fieldHolds "active" .like [.str "%ru%"] (.dict [("active", .bool true)]) = .ok false ∧
      Like.matchesText "%ru%".toList (Value.bool true).text.toList = true) ∧
    (fieldHolds "age" .like [.str "05"] (.dict [("age", .int 5)]) = .ok true ∧
      Like.matchesText "05".toList (Value.int 5).text.toList = false) :=
  ⟨⟨rfl, by decide +kernel⟩, rfl, by decide +kernel⟩

end Predicate

end QueryCache
