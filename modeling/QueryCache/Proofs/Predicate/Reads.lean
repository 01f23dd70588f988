import QueryCache.Predicate.Eval
import QueryCache.Proofs.Outcome
import Mathlib.Data.List.Perm.Basic

/-! What a predicate looks at: a few fields of a record, and nothing else of it.

Conditions with as many values as their operator takes always have an answer, so a conjunction
of them does not depend on their order. -/

set_option autoImplicit false

namespace QueryCache.Predicate

open Outcome

-- Everything here unfolds these three, so their equations are made once, before the proofs run.
attribute [local simp] holds allHold anyHolds

/-- Records that agree on some fields satisfy a predicate alike. -/
def DependsOn (fields : List String) (p : Predicate) : Prop :=
  ∀ a b : Value, (∀ name ∈ fields, a.field name = b.field name) → p.holds a = p.holds b

variable {fields : List String} {p : Predicate} {parts : List Predicate}

theorem dependsOn_field {name : String} (read : name ∈ fields) (op : Operator)
    (values : List Value) : DependsOn fields (.field name op values) := by
  intro a b agree
  simp only [holds, fieldHolds, agree name read]

theorem dependsOn_column {left right : String} (first : left ∈ fields) (second : right ∈ fields)
    (test : Comparator) : DependsOn fields (.column left test right) := by
  intro a b agree
  simp only [holds, columnHolds, agree left first, agree right second]

theorem dependsOn_never : DependsOn fields .never := by
  intro a b agree
  rfl

theorem dependsOn_not (part : DependsOn fields p) : DependsOn fields (.not p) := by
  intro a b agree
  simp only [holds, part a b agree]

theorem dependsOn_all (each : ∀ p ∈ parts, DependsOn fields p) : DependsOn fields (.all parts) := by
  intro a b agree
  simp only [holds]
  induction parts with
  | nil => rfl
  | cons part rest ih =>
    rw [allHold, allHold, each part (by simp) a b agree, ih fun p member => each p (by simp [member])]

theorem dependsOn_any (each : ∀ p ∈ parts, DependsOn fields p) : DependsOn fields (.any parts) := by
  intro a b agree
  simp only [holds]
  induction parts with
  | nil => rfl
  | cons part rest ih =>
    rw [anyHolds, anyHolds, each part (by simp) a b agree,
      ih fun p member => each p (by simp [member])]

/-! ## Conditions that always have an answer -/

def IsTotal (p : Predicate) : Prop := ∀ record, ∃ b, p.holds record = .ok b

theorem exists_holdsOf {op : Operator} {values : List Value}
    (accepted : op.accepts values.length = true) (actual : Value) :
    ∃ b, holdsOf op actual values = .ok b := by
  have one (single : values.length = 1) : ∃ v, values = [v] := List.length_eq_one_iff.1 single
  have two (range : values.length = 2) : ∃ v w, values = [v, w] := List.length_eq_two.1 range
  unfold holdsOf
  cases op with
  | isNull | isNotNull | isIn | notIn => exact ⟨_, rfl⟩
  | eq | neq | gt | gte | lt | lte | like =>
    obtain ⟨v, rfl⟩ := one (by simpa [Operator.accepts, Operator.isNullary, Operator.isRange,
      Operator.isMultiValue] using accepted)
    cases absent : actual.isNull <;>
      simp [holdsOfAny?, holdsOfPresent, Operator.comparator?, valueAt, Except.map]
  | dateEquals =>
    obtain ⟨v, rfl⟩ := one (by simpa [Operator.accepts, Operator.isNullary, Operator.isRange,
      Operator.isMultiValue] using accepted)
    cases day : actual.day? <;> simp [holdsOfAny?, day, valueAt, Except.map]
  | dateBetween =>
    obtain ⟨v, w, rfl⟩ := two (by simpa [Operator.accepts, Operator.isNullary,
      Operator.isRange] using accepted)
    exact ⟨_, rfl⟩
  | between | notBetween =>
    obtain ⟨v, w, rfl⟩ := two (by simpa [Operator.accepts, Operator.isNullary,
      Operator.isRange] using accepted)
    -- The second bound is looked at only where the first one was not decisive, and both are there.
    have answered : ∃ answer, isBetween? actual [v, w] = .ok answer := by
      cases below : v.ordered? .lte actual with
      | none => exact ⟨none, by simp [isBetween?, valueAt, below, bind, Except.bind, pure, Except.pure]⟩
      | some low =>
        cases low <;>
          simp [isBetween?, valueAt, below, bind, Except.bind, pure, Except.pure]
    obtain ⟨answer, answered⟩ := answered
    cases absent : actual.isNull with
    | true => exact ⟨_, rfl⟩
    | false =>
      simp only [holdsOfAny?, holdsOfPresent, Operator.comparator?, answered, Bool.false_eq_true,
        if_false]
      exact ⟨_, rfl⟩

theorem isTotal_field {op : Operator} {values : List Value}
    (accepted : op.accepts values.length = true) (name : String) :
    IsTotal (.field name op values) := by
  intro record
  simp only [holds, fieldHolds]
  exact exists_holdsOf (by simpa using accepted) _

theorem exists_allHold {record : Value} (each : ∀ p ∈ parts, ∃ b, p.holds record = .ok b) :
    ∃ b, allHold record parts = .ok b := by
  induction parts with
  | nil => exact ⟨true, rfl⟩
  | cons part rest ih =>
    obtain ⟨b, first⟩ := each part (by simp)
    obtain ⟨b', others⟩ := ih fun p member => each p (by simp [member])
    rw [allHold, first]
    cases b with
    | true => exact ⟨b', others⟩
    | false => exact ⟨false, rfl⟩

theorem allHold_append (record : Value) (first last : List Predicate) :
    allHold record (first ++ last) =
      allHold record first >>= fun b => if b then allHold record last else pure false := by
  induction first with
  | nil => rfl
  | cons part rest ih =>
    rw [List.cons_append, allHold, allHold, ih]
    cases part.holds record with
    | error e => rfl
    | ok b => cases b <;> rfl

theorem allHold_perm {parts' : List Predicate} (total : ∀ p ∈ parts, IsTotal p)
    (perm : parts.Perm parts') (record : Value) :
    allHold record parts = allHold record parts' := by
  induction perm with
  | nil => rfl
  | cons part _ ih =>
    rw [allHold, allHold, ih fun p member => total p (by simp [member])]
  | swap p q rest =>
    obtain ⟨b, first⟩ := total p (by simp) record
    obtain ⟨b', second⟩ := total q (by simp) record
    cases b <;> cases b' <;> simp [allHold, first, second, bind, Except.bind, pure, Except.pure]
  | trans first _ ih ih' =>
    exact (ih total).trans (ih' fun p member => total p (first.mem_iff.2 member))

end QueryCache.Predicate
