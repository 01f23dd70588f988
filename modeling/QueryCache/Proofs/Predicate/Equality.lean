import QueryCache.Predicate.Eval
import QueryCache.Proofs.Key.Identity
import QueryCache.Proofs.Predicate.Leaves
import QueryCache.Proofs.Value.Congruence
import QueryCache.Proofs.Value.Literal

/-! What equality of predicates says of them.

Predicates are equal when their values are, and values may be equal and yet be written differently: a number and
a truth value, or one instant at two offsets. A predicate is hashed by how it is written, and a pattern or a day is
read from the text of a value. So equal predicates have one hash exactly if their values are written alike, and
hold of the same records if the values of patterns and days are. -/

set_option autoImplicit false

namespace QueryCache

theorem Comparator.operator_injective : Function.Injective operator := by
  intro c d same
  have found := c.comparator?_operator
  rw [same, d.comparator?_operator] at found
  exact (Option.some.inj found).symm

namespace Value

variable {v w : Value}

theorem isWellFormed_child {record : Value} (wellFormed : record.isWellFormed = true) (name : String) :
    (record.child name).isWellFormed = true := by
  have entry {entries : List (String × Value)} (each : wellFormedEntries entries = true) :
      ((entries.lookup name).getD .null).isWellFormed = true := by
    cases found : entries.lookup name with
    | none => rfl
    | some v =>
      obtain ⟨before, after, rfl, -⟩ := List.lookup_eq_some_iff.1 found
      exact wellFormedEntries_iff.1 each (name, v) (by simp)
  unfold child
  split
  · rw [isWellFormed, Bool.and_eq_true] at wellFormed
    exact entry wellFormed.2
  · rw [isWellFormed, Bool.and_eq_true] at wellFormed
    exact entry wellFormed.2
  · next given => cases given.fields.lookup name <;> rfl
  · split
    · rfl
    · split <;> rfl
  · rfl

theorem isWellFormed_field {record : Value} (wellFormed : record.isWellFormed = true) (name : String) :
    (record.field name).isWellFormed = true := by
  unfold field
  induction segments name generalizing record with
  | nil => exact wellFormed
  | cons first rest ih => exact ih (isWellFormed_child wellFormed first)

theorem str_of_same {s : String} (same : (Value.str s).same w = true) : w = .str s := by
  cases w with
  | str t => rw [beq_iff_eq.1 (show (s == t) = true by simpa [Value.same] using same)]
  | _ => simp [Value.same, number?] at same

end Value

namespace Predicate

open Value

/-! ## Equal predicates -/

section

variable {q : Predicate}

theorem equal_field {name : String} {op : Operator} {values : List Value} :
    (Predicate.field name op values).equal q = true ↔
      ∃ values', q = .field name op values' ∧ sameAll values values' = true := by
  -- A description says its type first, so only one kind of predicate is left.
  cases q <;> simp [equal, describe, Value.equal, Value.same, allEntries, List.lookup_cons]
  next name' op' values' =>
    rw [Operator.code_injective.eq_iff, eq_comm (a := name), eq_comm (a := op), and_assoc]

theorem equal_column {left right : String} {test : Comparator} :
    (Predicate.column left test right).equal q = true ↔ q = .column left test right := by
  cases q <;> simp [equal, describe, Value.equal, Value.same, allEntries, List.lookup_cons]
  next left' test' right' =>
    rw [Operator.code_injective.eq_iff, Comparator.operator_injective.eq_iff, eq_comm (a := left),
      eq_comm (a := test), eq_comm (a := right)]

theorem equal_never : Predicate.never.equal q = true ↔ q = .never := by
  cases q <;> simp [equal, describe, Value.equal, Value.same, allEntries]

theorem describeAll_eq_map (parts : List Predicate) : describeAll parts = parts.map describe := by
  induction parts with
  | nil => rfl
  | cons part rest ih => rw [describeAll, ih, List.map_cons]

theorem equal_eq_same (p q : Predicate) : p.equal q = p.describe.same q.describe := by
  cases p <;> rfl

theorem sameAll_describeAll {parts parts' : List Predicate} :
    sameAll (describeAll parts) (describeAll parts') = true ↔
      List.Forall₂ (fun p q => p.equal q = true) parts parts' := by
  rw [sameAll_iff, describeAll_eq_map, describeAll_eq_map, List.forall₂_map_left_iff, List.forall₂_map_right_iff]
  simp only [equal_eq_same]

theorem equal_all {parts : List Predicate} : (Predicate.all parts).equal q = true ↔
    ∃ parts', q = .all parts' ∧ List.Forall₂ (fun p q => p.equal q = true) parts parts' := by
  cases q <;> simp [equal, describe, Value.equal, Value.same, allEntries, List.lookup_cons]
  rw [sameAll_describeAll]
  rfl

theorem equal_any {parts : List Predicate} : (Predicate.any parts).equal q = true ↔
    ∃ parts', q = .any parts' ∧ List.Forall₂ (fun p q => p.equal q = true) parts parts' := by
  cases q <;> simp [equal, describe, Value.equal, Value.same, allEntries, List.lookup_cons]
  rw [sameAll_describeAll]
  rfl

theorem equal_not {part : Predicate} :
    (Predicate.not part).equal q = true ↔ ∃ part', q = .not part' ∧ part.equal part' = true := by
  cases q <;> simp [equal_eq_same, describe, Value.same, allEntries, List.lookup_cons]

end

/-- Equal predicates, whose values have something in common. -/
structure Twins (has : Value → Prop) (p q : Predicate) : Prop where
  equal : p.equal q = true
  left : ∀ v ∈ p.values, has v
  right : ∀ v ∈ q.values, has v

variable {has : Value → Prop}

theorem twins_parts {parts parts' : List Predicate} (equal : List.Forall₂ (fun p q => p.equal q = true) parts parts')
    (left : ∀ v ∈ (Predicate.all parts).values, has v) (right : ∀ v ∈ (Predicate.all parts').values, has v) :
    List.Forall₂ (Twins has) parts parts' := by
  induction equal with
  | nil => exact .nil
  | cons first _ ih =>
    simp only [values, leaves_all, List.flatMap_cons, List.flatMap_append, List.forall_mem_append] at left right
    refine .cons ⟨first, left.1, right.1⟩ (ih ?_ ?_)
    · simpa only [values, leaves_all] using left.2
    · simpa only [values, leaves_all] using right.2

-- Equal predicates are built alike, so what holds of all of them goes by the parts of both at once.
section

variable {motive : Predicate → Predicate → Prop}
  (field : ∀ name op values values', sameAll values values' = true → (∀ v ∈ values, has v) →
    (∀ v ∈ values', has v) → motive (.field name op values) (.field name op values'))
  (column : ∀ left test right, motive (.column left test right) (.column left test right))
  (never : motive .never .never)
  (all : ∀ parts parts', List.Forall₂ (fun p q => Twins has p q ∧ motive p q) parts parts' →
    motive (.all parts) (.all parts'))
  (any : ∀ parts parts', List.Forall₂ (fun p q => Twins has p q ∧ motive p q) parts parts' →
    motive (.any parts) (.any parts'))
  (not : ∀ part part', Twins has part part' ∧ motive part part' → motive (.not part) (.not part'))

include field column never all any not

@[elab_as_elim]
theorem Twins.byParts {p q : Predicate} (twins : Twins has p q) : motive p q := by
  -- The parts of twins are twins in pairs, so what holds of each part is carried over to the pairs.
  have joined {parts parts' : List Predicate} (each : ∀ part ∈ parts, ∀ q, Twins has part q → motive part q)
      (pairs : List.Forall₂ (Twins has) parts parts') :
      List.Forall₂ (fun p q => Twins has p q ∧ motive p q) parts parts' := by
    induction pairs with
    | nil => exact .nil
    | cons first _ ih =>
      obtain ⟨here, each⟩ := List.forall_mem_cons.1 each
      exact .cons ⟨first, here _ first⟩ (ih each)
  obtain ⟨equal, left, right⟩ := twins
  induction p using Predicate.byParts generalizing q with
  | field name op given =>
    obtain ⟨given', rfl, same⟩ := equal_field.1 equal
    simp only [values, leaves, List.flatMap_singleton, ownValues] at left right
    exact field name op given given' same left right
  | column a test b =>
    obtain rfl := equal_column.1 equal
    exact column a test b
  | never =>
    obtain rfl := equal_never.1 equal
    exact never
  | all parts each =>
    obtain ⟨parts', rfl, pairs⟩ := equal_all.1 equal
    exact all parts parts' (joined (fun part member q twins => each part member twins.equal twins.left twins.right)
      (twins_parts pairs left right))
  | any parts each =>
    obtain ⟨parts', rfl, pairs⟩ := equal_any.1 equal
    exact any parts parts' (joined (fun part member q twins => each part member twins.equal twins.left twins.right)
      (twins_parts pairs left right))
  | not part ih =>
    obtain ⟨part', rfl, same⟩ := equal_not.1 equal
    exact not part part' ⟨⟨same, left, right⟩, ih same left right⟩

end

/-! ## How the values are written -/

/-- The values of a leaf as they are written, if its operator is one of those asked for. -/
def writtenBy (which : Operator → Bool) : Predicate → List String
  | .field _ op values => if which op then values.map Value.literal else []
  | _ => []

/-- The values of each leaf as they are written, from left to right. -/
def written (which : Operator → Bool) (p : Predicate) : List (List String) := p.leaves.map (writtenBy which)

theorem Twins.size {p q : Predicate} (twins : Twins has p q) : p.leaves.length = q.leaves.length := by
  have joined {parts parts' : List Predicate}
      (pairs : List.Forall₂ (fun p q => Twins has p q ∧ p.leaves.length = q.leaves.length) parts parts') :
      (parts.flatMap leaves).length = (parts'.flatMap leaves).length := by
    induction pairs with
    | nil => rfl
    | cons first _ ih => rw [List.flatMap_cons, List.flatMap_cons, List.length_append, List.length_append, first.2, ih]
  refine Twins.byParts ?field ?column ?never ?all ?any ?not twins
  case field | column | never => intros; rfl
  case all =>
    intro parts parts' pairs
    simpa only [leaves_all] using joined pairs
  case any =>
    intro parts parts' pairs
    simpa only [leaves_any] using joined pairs
  case not =>
    intro part part' inner
    simpa only [leaves_not] using inner.2

variable {which : Operator → Bool}

theorem written_parts {parts parts' : List Predicate} (pairs : List.Forall₂ (Twins has) parts parts') :
    (Predicate.all parts).written which = (Predicate.all parts').written which ↔
      List.Forall₂ (fun p q => p.written which = q.written which) parts parts' := by
  simp only [written, leaves_all]
  induction pairs with
  | nil => simp
  | cons first _ ih =>
    rw [List.forall₂_cons, ← ih, List.flatMap_cons, List.flatMap_cons, List.map_append, List.map_append]
    constructor
    · intro same
      exact List.append_inj same (by simp [first.size])
    · rintro ⟨here, others⟩
      rw [here, others]

theorem written_any (parts : List Predicate) :
    (Predicate.any parts).written which = (Predicate.all parts).written which := by
  rw [written, written, leaves_any, leaves_all]

/-- What is so of twins that are written alike is so of all parts of a tree that is. -/
theorem forall₂_of_written {same : Predicate → Predicate → Prop} {parts parts' : List Predicate}
    (pairs : List.Forall₂ (fun p q => Twins has p q ∧ (p.written which = q.written which → same p q)) parts parts')
    (written : (Predicate.all parts).written which = (Predicate.all parts').written which) :
    List.Forall₂ same parts parts' := by
  rw [written_parts (pairs.imp fun _ _ both => both.1)] at written
  induction pairs with
  | nil => exact .nil
  | cons first _ ih =>
    cases written with
    | cons here others => exact .cons (first.2 here) (ih others)

section

variable {parts parts' : List Predicate}

end

/-- The operators that look at how a value is written: at its text, or at the day it names. -/
def readsText : Operator → Bool
  | .like | .dateEquals | .dateBetween => true
  | _ => false

/-- Values that a stored value cannot tell apart by comparing itself with them. -/
structure Interchangeable (actual v w : Value) : Prop where
  same : actual.same v = actual.same w
  equal : actual.equal v = actual.equal w
  ordered : ∀ test, actual.ordered? test v = actual.ordered? test w
  turned : v.ordered? .lte actual = w.ordered? .lte actual

section

variable {actual v w : Value} {values values' : List Value} {op : Operator}

theorem interchangeable (stored : actual.isWellFormed = true) (wellFormed : v.isWellFormed = true)
    (wellFormed' : w.isWellFormed = true) (same : v.same w = true) : Interchangeable actual v w where
  same := same_congr wellFormed wellFormed' same actual
  equal := equal_congr wellFormed wellFormed' same actual
  ordered test := ordered_congr wellFormed wellFormed' same test actual
  turned := by
    rw [← ordered_turned wellFormed stored, ← ordered_turned wellFormed' stored]
    exact ordered_congr wellFormed wellFormed' same _ actual

/-- A text is the same as itself only, and nothing else is read as the type of the stored value. -/
theorem coercedLike_congr (wellFormed : v.isWellFormed = true) (wellFormed' : w.isWellFormed = true)
    (same : v.same w = true) (sample : Value) :
    sample.coercedLike v = sample.coercedLike w ∨ sample.coercedLike v = v ∧ sample.coercedLike w = w := by
  by_cases text : ∃ s, v = .str s
  · obtain ⟨s, rfl⟩ := text
    exact .inl (by rw [str_of_same same])
  · have text' : ¬∃ s, w = .str s := by
      rintro ⟨s, rfl⟩
      exact text ⟨s, str_of_same (same_turned wellFormed wellFormed' same)⟩
    have kept {u : Value} (other : ¬∃ s, u = .str s) : sample.coercedLike u = u := by
      unfold coercedLike
      split
      · exact absurd ⟨_, rfl⟩ other
      · rfl
    exact .inr ⟨kept text, kept text'⟩

theorem interchangeable_coerced (stored : actual.isWellFormed = true) (wellFormed : v.isWellFormed = true)
    (wellFormed' : w.isWellFormed = true) (same : v.same w = true) :
    Interchangeable actual (actual.coercedLike v) (actual.coercedLike w) := by
  rcases coercedLike_congr wellFormed wellFormed' same actual with alike | ⟨kept, kept'⟩
  · rw [alike]
    exact ⟨rfl, rfl, fun _ => rfl, rfl⟩
  · rw [kept, kept']
    exact interchangeable stored wellFormed wellFormed' same

/-- Values of one text and one day. -/
def ReadAlike (v w : Value) : Prop := v.text = w.text ∧ v.day? = w.day?

theorem readAlike_coerced (wellFormed : v.isWellFormed = true) (wellFormed' : w.isWellFormed = true)
    (same : v.same w = true) (written : v.literal = w.literal) (sample : Value) :
    ReadAlike (sample.coercedLike v) (sample.coercedLike w) := by
  rcases coercedLike_congr wellFormed wellFormed' same sample with alike | ⟨kept, kept'⟩
  · rw [alike]
    exact ⟨rfl, rfl⟩
  · rw [kept, kept']
    exact read_alike same written

theorem valueAt_congr {R : Value → Value → Prop} {α : Type} {f : Value → α} (pairs : List.Forall₂ R values values')
    (alike : ∀ v w, R v w → f v = f w) (index : Nat) :
    (valueAt values index).map f = (valueAt values' index).map f := by
  induction pairs generalizing index with
  | nil => rfl
  | cons first _ ih =>
    cases index with
    | zero => exact congrArg Except.ok (alike _ _ first)
    | succ index => exact ih index

theorem isIn_congr (pairs : List.Forall₂ (Interchangeable actual) values values') :
    actual.isIn values = actual.isIn values' := by
  unfold Value.isIn
  induction pairs with
  | nil => rfl
  | cons first _ ih => rw [List.any_cons, List.any_cons, first.same, ih]

theorem isBetween_congr (pairs : List.Forall₂ (Interchangeable actual) values values') :
    isBetween? actual values = isBetween? actual values' := by
  -- The stored value stands on the right of the first value and on the left of the second.
  cases pairs with
  | nil => rfl
  | cons first others =>
    cases others with
    | nil =>
      simp only [isBetween?, valueAt, bind, Except.bind, List.getElem?_cons_zero, first.turned]
      rfl
    | cons second _ =>
      simp only [isBetween?, valueAt, bind, Except.bind, List.getElem?_cons_zero, List.getElem?_cons_succ,
        first.turned, second.ordered]

theorem dayBetween_congr (pairs : List.Forall₂ ReadAlike values values') :
    holdsOfAny? .dateBetween actual values = holdsOfAny? .dateBetween actual values' := by
  cases pairs with
  | nil => rfl
  | cons first others =>
    cases others with
    | nil => rfl
    | cons second _ =>
      simp only [holdsOfAny?, valueAt, bind, Except.bind, List.getElem?_cons_zero, List.getElem?_cons_succ, first.2,
        second.2]

theorem holdsOfAny_congr (pairs : List.Forall₂ (Interchangeable actual) values values')
    (texts : readsText op = true → List.Forall₂ ReadAlike values values') :
    holdsOfAny? op actual values = holdsOfAny? op actual values' := by
  cases op with
  | isIn | notIn => simp only [holdsOfAny?, isIn_congr pairs]
  | dateEquals =>
    unfold holdsOfAny?
    cases actual.day? with
    | none => rfl
    | some day => exact congrArg some (valueAt_congr (texts rfl) (fun v w alike => by rw [alike.2]) 0)
  | dateBetween => exact dayBetween_congr (texts rfl)
  | _ => rfl

theorem holdsOfPresent_congr (pairs : List.Forall₂ (Interchangeable actual) values values')
    (texts : readsText op = true → List.Forall₂ ReadAlike values values') :
    holdsOfPresent op actual values = holdsOfPresent op actual values' := by
  have compares (test : Comparator) :
      (valueAt values 0).map (comparesAs test actual) = (valueAt values' 0).map (comparesAs test actual) := by
    refine valueAt_congr pairs (fun v w alike => ?_) 0
    cases test <;> simp only [comparesAs, alike.equal, alike.ordered]
  unfold holdsOfPresent
  cases known : op.comparator? with
  | some test => exact compares test
  | none =>
    cases op with
    | like => exact valueAt_congr (texts rfl) (fun v w alike => by simp only [isLike, alike.1]) 0
    | between | notBetween => simp only [isBetween_congr pairs]
    | _ => rfl

theorem holdsOf_congr (pairs : List.Forall₂ (Interchangeable actual) values values')
    (texts : readsText op = true → List.Forall₂ ReadAlike values values') :
    holdsOf op actual values = holdsOf op actual values' := by
  unfold holdsOf
  rw [holdsOfAny_congr pairs texts, holdsOfPresent_congr pairs texts]

theorem pairs_coerced (stored : actual.isWellFormed = true) (same : sameAll values values' = true)
    (wellFormed : ∀ v ∈ values, v.isWellFormed = true) (wellFormed' : ∀ v ∈ values', v.isWellFormed = true) :
    List.Forall₂ (Interchangeable actual) (values.map actual.coercedLike) (values'.map actual.coercedLike) ∧
      (values.map Value.literal = values'.map Value.literal →
        List.Forall₂ ReadAlike (values.map actual.coercedLike) (values'.map actual.coercedLike)) := by
  rw [sameAll_iff] at same
  induction same with
  | nil => exact ⟨.nil, fun _ => .nil⟩
  | cons first _ ih =>
    obtain ⟨here, wellFormed⟩ := List.forall_mem_cons.1 wellFormed
    obtain ⟨here', wellFormed'⟩ := List.forall_mem_cons.1 wellFormed'
    obtain ⟨pairs, texts⟩ := ih wellFormed wellFormed'
    refine ⟨.cons (interchangeable_coerced stored here here' first) pairs, fun written => ?_⟩
    obtain ⟨head, others⟩ := List.cons.inj written
    exact .cons (readAlike_coerced here here' first head actual) (texts others)

theorem fieldHolds_congr {record : Value} (stored : record.isWellFormed = true) (name : String)
    (same : sameAll values values' = true) (wellFormed : ∀ v ∈ values, v.isWellFormed = true)
    (wellFormed' : ∀ v ∈ values', v.isWellFormed = true)
    (written : readsText op = true → values.map Value.literal = values'.map Value.literal) :
    fieldHolds name op values record = fieldHolds name op values' record := by
  obtain ⟨pairs, texts⟩ := pairs_coerced (isWellFormed_field stored name) same wellFormed wellFormed'
  exact holdsOf_congr pairs fun reads => texts (written reads)

end

section

variable {record : Value} {parts parts' : List Predicate}

theorem allHold_congr (pairs : List.Forall₂ (fun p q => p.holds record = q.holds record) parts parts') :
    allHold record parts = allHold record parts' := by
  induction pairs with
  | nil => rfl
  | cons first _ ih => rw [allHold, allHold, first, ih]

theorem anyHolds_congr (pairs : List.Forall₂ (fun p q => p.holds record = q.holds record) parts parts') :
    anyHolds record parts = anyHolds record parts' := by
  induction pairs with
  | nil => rfl
  | cons first _ ih => rw [anyHolds, anyHolds, first, ih]

/-- Twins hold of the same records if the values of patterns and days are written alike. -/
theorem Twins.holds_eq {p q : Predicate} (twins : Twins (fun v => v.isWellFormed = true) p q)
    (stored : record.isWellFormed = true) (written : p.written readsText = q.written readsText) :
    p.holds record = q.holds record := by
  revert written
  refine Twins.byParts ?field ?column ?never ?all ?any ?not twins
  case field =>
    intro name op given given' same wellFormed wellFormed' written
    refine fieldHolds_congr stored name same wellFormed wellFormed' fun reads => ?_
    simpa [Predicate.written, leaves, writtenBy, reads] using written
  case column | never => intros; rfl
  case all =>
    intro parts parts' pairs written
    exact allHold_congr (forall₂_of_written pairs written)
  case any =>
    intro parts parts' pairs written
    rw [written_any, written_any] at written
    exact anyHolds_congr (forall₂_of_written pairs written)
  case not =>
    intro part part' inner written
    simp only [Predicate.written, leaves_not] at written
    rw [holds, holds, inner.2 written]

end

variable {p q : Predicate}

end Predicate

end QueryCache
