import QueryCache.Proofs.Calendar.Ordinal
import QueryCache.Proofs.Predicate.Satisfied
import QueryCache.Proofs.Value.Symmetry

/-! How the operators of conditions agree with each other.

A condition with several values asks what conditions with one of them ask, some or all of them. Each reads
its values as the type of the stored one, and has an answer of its own where values do not compare. That
the answers agree rests on two facts: a comparison may be turned around, and days are told by their numbers. -/

set_option autoImplicit false

namespace QueryCache

namespace Value

/-- A value that a request may hold. A number that is none is the same as itself in a list, and yet not
equal to itself, so it is left out. -/
structure IsOperand (v : Value) : Prop where
  wellFormed : v.isWellFormed = true
  number : ∀ serial, v ≠ .nan serial

variable {sample actual v : Value}

/-- What a text is read as is well formed, and no number that is none but a fresh one. -/
theorem isOperand_of_readAs {text : String} (read : readAs? sample text = some v) : v.IsOperand := by
  unfold readAs? at read
  split at read
  · cases read
    exact ⟨rfl, nofun⟩
  · split at read <;> cases read
    exact ⟨rfl, nofun⟩
  · obtain ⟨x, -, rfl⟩ := Option.map_eq_some_iff.1 read
    exact ⟨rfl, nofun⟩
  · obtain ⟨x, -, rfl⟩ := Option.map_eq_some_iff.1 read
    exact ⟨rfl, nofun⟩
  · obtain ⟨t, found, rfl⟩ := Option.map_eq_some_iff.1 read
    exact ⟨Iso.isValid_of_dateTime found, nofun⟩
  · obtain ⟨d, found, rfl⟩ := Option.map_eq_some_iff.1 read
    exact ⟨Iso.isValid_of_date found, nofun⟩
  · cases read

theorem IsOperand.coercedLike (operand : v.IsOperand) (sample : Value) : (sample.coercedLike v).IsOperand := by
  unfold Value.coercedLike
  split
  · next text =>
    cases read : sample.readAs? text with
    | none => exact operand
    | some v => exact isOperand_of_readAs read
  · exact operand

theorem IsOperand.equal_eq (operand : v.IsOperand) (actual : Value) : actual.equal v = actual.same v :=
  equal_eq_same_of_ne_nan operand.number

/-- A value is at least another exactly if that is at most it. -/
theorem IsOperand.ordered_eq (operand : v.IsOperand) (stored : actual.isWellFormed = true) :
    v.ordered? .lte actual = actual.ordered? .gte v :=
  (ordered_turned operand.wellFormed stored .lte).symm

/-- The day that a well-formed value names exists. -/
theorem isValid_of_day {d : Date} (wellFormed : v.isWellFormed = true) (found : v.day? = some d) :
    d.isValid = true := by
  unfold day? at found
  split at found
  · cases found
    simp only [isWellFormed, DateTime.isValid, Bool.and_eq_true] at wellFormed
    exact wellFormed.1.1.1.1.1
  · cases found
    exact wellFormed
  · obtain ⟨t, read, rfl⟩ := Option.map_eq_some_iff.1 found
    have valid := Iso.isValid_of_dateTime read
    simp only [DateTime.isValid, Bool.and_eq_true] at valid
    exact valid.1.1.1.1.1
  · cases found

end Value

namespace Predicate

variable {actual low high v : Value} {values : List Value}

/-! ## Answers of conditions on a value that is there -/

theorem holdsOf_eq (present : actual.isNull = false) : holdsOf .eq actual [v] = .ok (actual.equal v) := by
  simp [holdsOf, holdsOfAny?, present, holdsOfPresent, Operator.comparator?, valueAt, comparesAs, Except.map]

theorem holdsOf_neq (present : actual.isNull = false) : holdsOf .neq actual [v] = .ok (!actual.equal v) := by
  simp [holdsOf, holdsOfAny?, present, holdsOfPresent, Operator.comparator?, valueAt, comparesAs, Except.map]

theorem holdsOf_gte (present : actual.isNull = false) :
    holdsOf .gte actual [v] = .ok ((actual.ordered? .gte v).getD false) := by
  simp [holdsOf, holdsOfAny?, present, holdsOfPresent, Operator.comparator?, valueAt, comparesAs, Except.map]

theorem holdsOf_lte (present : actual.isNull = false) :
    holdsOf .lte actual [v] = .ok ((actual.ordered? .lte v).getD false) := by
  simp [holdsOf, holdsOfAny?, present, holdsOfPresent, Operator.comparator?, valueAt, comparesAs, Except.map]

theorem holdsOf_isIn : holdsOf .isIn actual values = .ok (actual.isIn values) := rfl

theorem holdsOf_notIn : holdsOf .notIn actual values = .ok (!actual.isIn values) := rfl

/-- A value is in a list exactly if it is equal to an item. -/
theorem isIn_coerced (operands : ∀ v ∈ values, v.IsOperand) (sample : Value) :
    actual.isIn (values.map sample.coercedLike) = values.any fun v => actual.equal (sample.coercedLike v) := by
  rw [Value.isIn, List.any_map, Bool.eq_iff_iff, List.any_eq_true, List.any_eq_true]
  refine exists_congr fun v => and_congr_right fun member => ?_
  rw [((operands v member).coercedLike sample).equal_eq]
  rfl

/-- Whether a value lies between two: none where the comparison that decides has no order. -/
def between? (actual low high : Value) : Option Bool :=
  match low.ordered? .lte actual with
  | some true => actual.ordered? .lte high
  | other => other

theorem isBetween_eq : isBetween? actual [low, high] = .ok (between? actual low high) := by
  rw [isBetween?, between?]
  change Except.bind (.ok low) _ = _
  rw [Except.bind]
  rcases low.ordered? .lte actual with _ | _ | _ <;> rfl

theorem holdsOf_between (present : actual.isNull = false) :
    holdsOf .between actual [low, high] = .ok ((between? actual low high).getD false) := by
  simp [holdsOf, holdsOfAny?, present, holdsOfPresent, Operator.comparator?, isBetween_eq, bind, Except.bind, pure,
    Except.pure]

theorem holdsOf_notBetween (present : actual.isNull = false) :
    holdsOf .notBetween actual [low, high] = .ok (((between? actual low high).map (!·)).getD false) := by
  simp [holdsOf, holdsOfAny?, present, holdsOfPresent, Operator.comparator?, isBetween_eq, bind, Except.bind, pure,
    Except.pure]

/-- Between two values is at least the one and at most the other, also where there is no order. -/
theorem between_getD (stored : actual.isWellFormed = true) (operand : low.IsOperand) :
    (between? actual low high).getD false =
      ((actual.ordered? .gte low).getD false && (actual.ordered? .lte high).getD false) := by
  rw [between?, operand.ordered_eq stored]
  rcases actual.ordered? .gte low with _ | _ | _ <;> simp

theorem holdsOf_dateEquals : holdsOf .dateEquals actual [v] = .ok (actual.day?.isSome && v.day? == actual.day?) := by
  rw [holdsOf, holdsOfAny?]
  cases actual.day? <;> rfl

theorem holdsOf_dateBetween :
    holdsOf .dateBetween actual [low, high] = .ok (isDayBetween actual.day? low.day? high.day?) := rfl

/-- A day that is neither before nor after another is that day. -/
theorem isDayBetween_self (stored : actual.isWellFormed = true) (operand : v.IsOperand) :
    isDayBetween actual.day? v.day? v.day? = (actual.day?.isSome && v.day? == actual.day?) := by
  cases day : actual.day? with
  | none => rfl
  | some d =>
    cases day' : v.day? with
    | none => rfl
    | some e =>
      -- Days that exist are told by their numbers, and those are in order.
      have valid := Value.isValid_of_day stored day
      have valid' := Value.isValid_of_day operand.wellFormed day'
      rw [Bool.eq_iff_iff]
      simp only [isDayBetween, Bool.and_eq_true, decide_eq_true_eq, Option.isSome_some, true_and, beq_iff_eq,
        Option.some.injEq]
      constructor
      · rintro ⟨before, after⟩
        exact Date.ordinal_injective valid' valid (Nat.le_antisymm before after)
      · rintro rfl
        exact ⟨Nat.le_refl _, Nat.le_refl _⟩

/-! ## Agreement -/

theorem satisfied_field {record : Value} {name : String} {op : Operator} {values : List Value} :
    Satisfied record (.field name op values) ↔
      holdsOf op (record.field name) (values.map (record.field name).coercedLike) = .ok true := by
  rw [Satisfied, holds]
  rfl

/-- Operators agree on every record with a value in the field, whatever values a request compares it with:
every condition has an answer; membership is equality with some value, and its absence is difference from every
one; between two values is at least the one and at most the other, and not between them is not between; and the
day of a value is the day from that day to that day. -/
theorem operators_agree {record : Value} {name : String} (present : (record.field name).isNull = false)
    (stored : (record.field name).isWellFormed = true) :
    (∀ op values, op.accepts values.length = true → ∃ b, (Predicate.field name op values).holds record = .ok b) ∧
    (∀ values : List Value, (∀ v ∈ values, v.IsOperand) →
      (Satisfied record (.field name .isIn values) ↔ ∃ v ∈ values, Satisfied record (.field name .eq [v])) ∧
      (Satisfied record (.field name .notIn values) ↔ ∀ v ∈ values, Satisfied record (.field name .neq [v]))) ∧
    (∀ low high : Value, low.IsOperand → high.IsOperand →
      (Satisfied record (.field name .between [low, high]) ↔
        Satisfied record (.field name .gte [low]) ∧ Satisfied record (.field name .lte [high])) ∧
      (Satisfied record (.field name .notBetween [low, high]) → ¬Satisfied record (.field name .between [low, high]))) ∧
    ∀ day : Value, day.IsOperand →
      (Satisfied record (.field name .dateEquals [day]) ↔ Satisfied record (.field name .dateBetween [day, day])) := by
  refine ⟨fun op values accepted => isTotal_field accepted name record, ?_, ?_, ?_⟩
  · intro values operands
    simp only [satisfied_field, List.map_cons, List.map_nil, holdsOf_isIn, holdsOf_notIn, holdsOf_eq present,
      holdsOf_neq present, isIn_coerced operands, Except.ok.injEq]
    constructor
    · simp
    · simp
  · intro low high operand operand'
    simp only [satisfied_field, List.map_cons, List.map_nil, holdsOf_between present, holdsOf_gte present,
      holdsOf_lte present, holdsOf_notBetween present, Except.ok.injEq]
    constructor
    · rw [between_getD stored (operand.coercedLike _), Bool.and_eq_true]
    · cases between? (record.field name) _ _ <;> simp
  · intro day operand
    simp only [satisfied_field, List.map_cons, List.map_nil, holdsOf_dateEquals, holdsOf_dateBetween]
    rw [isDayBetween_self stored (operand.coercedLike _)]

/-- A stored time, among values that are read as times, values that have no order with one, and a day. -/
theorem operators_agree_time :
    let record : Value := .dict [("at", .dateTime ⟨⟨2024, 2, 29⟩, 23, 30, 0, 0, none⟩)]
    (record.field "at").isNull = false ∧ (record.field "at").isWellFormed = true ∧
    (Satisfied record (.field "at" .isIn [.str "2024-02-29T23:30", .int 3]) ↔
      ∃ v ∈ [Value.str "2024-02-29T23:30", .int 3], Satisfied record (.field "at" .eq [v])) ∧
    (Satisfied record (.field "at" .between [.str "2024-01-01", .list [.null]]) ↔
      Satisfied record (.field "at" .gte [.str "2024-01-01"]) ∧ Satisfied record (.field "at" .lte [.list [.null]])) ∧
    (Satisfied record (.field "at" .dateEquals [.date ⟨2024, 2, 29⟩]) ↔
      Satisfied record (.field "at" .dateBetween [.date ⟨2024, 2, 29⟩, .date ⟨2024, 2, 29⟩])) := by
  intro record
  have present : (record.field "at").isNull = false := by decide +kernel
  have stored : (record.field "at").isWellFormed = true := by decide +kernel
  have operand (v : Value) (wellFormed : v.isWellFormed = true) (number : ∀ serial, v ≠ .nan serial) : v.IsOperand :=
    ⟨wellFormed, number⟩
  obtain ⟨-, several, range, day⟩ := operators_agree present stored
  refine ⟨present, stored, (several _ ?_).1, (range _ _ ?_ ?_).1, day _ ?_⟩
  · simp only [List.forall_mem_cons]
    exact ⟨operand _ rfl nofun, operand _ rfl nofun, nofun⟩
  · exact operand _ rfl nofun
  · exact operand _ rfl nofun
  · exact operand _ (by decide) nofun

end Predicate

end QueryCache
