import QueryCache.Predicate.Sql
import QueryCache.Proofs.Outcome
import QueryCache.Proofs.Predicate.Leaves
import Std.Data.String.ToNat

/-! What rendering a predicate gives.

Where every condition has the values that its operator takes, rendering succeeds. Its clause depends on
the number of the first parameter and on how many values the conditions have, not on the values; the
values are bound, in their order, to the parameters counted on from there. -/

set_option autoImplicit false

namespace QueryCache

namespace Binding

theorem toList_paramName (n : Nat) : (paramName n).toList = 'p' :: Nat.toDigits 10 n := by
  rw [paramName, String.toList_append, ← Nat.toList_repr]
  rfl

theorem paramName_injective : Function.Injective paramName := by
  intro n m same
  rw [← String.toList_inj, toList_paramName, toList_paramName, ← Nat.toList_repr, ← Nat.toList_repr] at same
  exact Nat.repr_injective (String.toList_injective (List.cons.inj same).2)

/-- The names of so many parameters. -/
def namesFrom (n count : Nat) : List String := (List.range' n count).map paramName

/-- Values under the names that follow on each other. -/
def bound (n : Nat) (values : List Value) : Bindings := (namesFrom n values.length).zip values

@[simp]
theorem length_namesFrom (n count : Nat) : (namesFrom n count).length = count := by
  simp [namesFrom]

theorem namesFrom_succ (n count : Nat) :
    namesFrom n (count + 1) = paramName n :: namesFrom (n + 1) count := by
  rw [namesFrom, List.range'_succ, List.map_cons]
  rfl

theorem namesFrom_add (n first last : Nat) :
    namesFrom n (first + last) = namesFrom n first ++ namesFrom (n + first) last := by
  rw [namesFrom, namesFrom, namesFrom, ← List.map_append, List.range'_append_1]

theorem map_fst_bound (n : Nat) (values : List Value) :
    (bound n values).map (·.1) = namesFrom n values.length :=
  List.map_fst_zip (by simp)

@[simp]
theorem bound_nil (n : Nat) : bound n [] = [] := by
  rw [bound, List.zip_nil_right]

theorem bound_cons (n : Nat) (value : Value) (rest : List Value) :
    bound n (value :: rest) = (paramName n, value) :: bound (n + 1) rest := by
  rw [bound, List.length_cons, namesFrom_succ, List.zip_cons_cons]
  rfl

theorem bound_append (n : Nat) (xs ys : List Value) :
    bound n (xs ++ ys) = bound n xs ++ bound (n + xs.length) ys := by
  rw [bound, List.length_append, namesFrom_add, List.zip_append (by simp)]
  rfl

theorem nextParam_eq (n : Nat) : nextParam n = (.ok (paramName n), n + 1) := rfl

theorem each_eq (values : List Value) (n : Nat) :
    each values n = (.ok (bound n values), n + values.length) := by
  induction values generalizing n with
  | nil => rw [bound_nil]; rfl
  | cons value rest ih =>
    rw [each, Attempt.bind_ok (nextParam_eq n), Attempt.bind_ok (ih (n + 1)), bound_cons,
      List.length_cons, Nat.add_comm rest.length 1, ← Nat.add_assoc]
    rfl

end Binding

namespace Predicate

open Binding

/-- A condition with as many values as its operator takes, or with none to look among. -/
def HasItsValues : Predicate → Prop
  | .field _ op values => op.accepts values.length = true ∨ values = [] ∧ (op = .isIn ∨ op = .notIn)
  | _ => True

instance : DecidablePred HasItsValues
  | .field _ _ _ => inferInstanceAs (Decidable (_ ∨ _))
  | .column _ _ _ | .never | .all _ | .any _ | .not _ => inferInstanceAs (Decidable True)

namespace HasItsValues

variable {name : String} {op : Operator} {values : List Value} (given : HasItsValues (.field name op values))

include given

theorem none (nullary : op.accepts values.length = (values.length == 0)) : values = [] := by
  rcases given with accepted | ⟨bare, -⟩
  · exact List.length_eq_zero_iff.1 (by simpa [nullary] using accepted)
  · exact bare

theorem one (single : op.accepts values.length = (values.length == 1)) (other : ¬(op = .isIn ∨ op = .notIn)) :
    ∃ v, values = [v] := by
  rcases given with accepted | ⟨-, absurd⟩
  · exact List.length_eq_one_iff.1 (by simpa [single] using accepted)
  · exact (other absurd).elim

theorem two (range : op.accepts values.length = (values.length == 2)) (other : ¬(op = .isIn ∨ op = .notIn)) :
    ∃ v w, values = [v, w] := by
  rcases given with accepted | ⟨-, absurd⟩
  · exact List.length_eq_two.1 (by simpa [range] using accepted)
  · exact (other absurd).elim

end HasItsValues

/-- The clause of a condition with so many values, its parameters counted from `n`. -/
def fieldClause (column : Column) (op : Operator) (n count : Nat) : Clause :=
  let param := paramName n
  match op with
  | .eq => .compare column .eq param
  | .neq => .compare column .neq param
  | .gt => .compare column .gt param
  | .gte => .compare column .gte param
  | .lt => .compare column .lt param
  | .lte => .compare column .lte param
  | .like => .like column param
  | .isIn => if count = 0 then .constant false else .member false column (namesFrom n count)
  | .notIn => if count = 0 then .constant true else .member true column (namesFrom n count)
  | .between => .between false column param (paramName (n + 1))
  | .notBetween => .between true column param (paramName (n + 1))
  | .isNull => .null false column
  | .isNotNull => .null true column
  | .dateEquals => .compare { column with day := true } .eq param
  | .dateBetween => .between false { column with day := true } param (paramName (n + 1))

mutual

/-- The clause of a predicate, its parameters counted from `n`. -/
def clauseFrom (context : SqlContext) (n : Nat) : Predicate → Clause
  | .field name op values => fieldClause ⟨context.columnName name, false⟩ op n values.length
  | .column left test right =>
    .columns ⟨context.columnName left, false⟩ test ⟨context.columnName right, false⟩
  | .never => .constant false
  | .all [] => .constant true
  | .all (part :: rest) =>
    .all (clauseFrom context n part :: clausesFrom context (n + part.values.length) rest)
  | .any [] => .constant false
  | .any (part :: rest) =>
    .any (clauseFrom context n part :: clausesFrom context (n + part.values.length) rest)
  | .not part => .not (clauseFrom context n part)

def clausesFrom (context : SqlContext) (n : Nat) : List Predicate → List Clause
  | [] => []
  | part :: rest => clauseFrom context n part :: clausesFrom context (n + part.values.length) rest

end

variable {context : SqlContext} {p : Predicate} {parts : List Predicate}

theorem values_all (parts : List Predicate) : (Predicate.all parts).values = parts.flatMap values := by
  simp only [values, leaves_all, List.flatMap_assoc]
  rfl

theorem values_any (parts : List Predicate) : (Predicate.any parts).values = parts.flatMap values := by
  simp only [values, leaves_any, List.flatMap_assoc]
  rfl

theorem values_not (part : Predicate) : (Predicate.not part).values = part.values := by
  rw [values, leaves_not, values]

theorem values_field (name : String) (op : Operator) (xs : List Value) :
    (Predicate.field name op xs).values = xs := by
  simp [values, leaves, ownValues]

theorem renderFirst_eq (value : Value) (clause : String → Clause) (n : Nat) :
    renderFirst [value] clause n = (.ok ⟨clause (paramName n), bound n [value]⟩, n + 1) := by
  rw [bound_cons, bound_nil]
  rfl

theorem renderBetween_eq (negated : Bool) (column : Column) (low high : Value) (n : Nat) :
    renderBetween negated column [low, high] n =
      (.ok ⟨.between negated column (paramName n) (paramName (n + 1)), bound n [low, high]⟩, n + 2) := by
  rw [bound_cons, bound_cons, bound_nil]
  rfl

theorem renderMember_eq (negated : Bool) (column : Column) (values : List Value) (n : Nat) :
    renderMember negated column values n =
      (.ok ⟨if values.length = 0 then .constant negated else .member negated column (namesFrom n values.length),
        bound n values⟩, n + values.length) := by
  cases values with
  | nil => rw [bound_nil]; rfl
  | cons value rest =>
    have run : renderMember negated column (value :: rest) =
        each (value :: rest) >>= fun bindings => pure ⟨.member negated column (bindings.map (·.1)), bindings⟩ := rfl
    rw [run, Attempt.bind_ok (each_eq (value :: rest) n), map_fst_bound, if_neg (by simp)]
    rfl

theorem renderField_eq {name : String} {op : Operator} {values : List Value}
    (given : HasItsValues (.field name op values)) (column : Column) (n : Nat) :
    renderField column op values n =
      (.ok ⟨fieldClause column op n values.length, bound n values⟩, n + values.length) := by
  cases op with
  | eq | neq | gt | gte | lt | lte | like | dateEquals =>
    obtain ⟨v, rfl⟩ := given.one rfl (by simp)
    exact renderFirst_eq v _ n
  | between | notBetween | dateBetween =>
    obtain ⟨v, w, rfl⟩ := given.two rfl (by simp)
    exact renderBetween_eq _ _ v w n
  | isIn => exact renderMember_eq false column values n
  | notIn => exact renderMember_eq true column values n
  | isNull | isNotNull =>
    rw [given.none rfl, bound_nil]
    rfl

/-- Parts are rendered one after the other, each from where the one before left the count. -/
theorem renderAll_eq (each : ∀ part ∈ parts, ∀ n, render context part n =
      (.ok ⟨clauseFrom context n part, bound n part.values⟩, n + part.values.length)) (n : Nat) :
    renderAll context parts n = (.ok (clausesFrom context n parts, bound n (parts.flatMap values)),
      n + (parts.flatMap values).length) := by
  induction parts generalizing n with
  | nil => rw [List.flatMap_nil, bound_nil]; rfl
  | cons part rest ih =>
    have others := ih fun p member => each p (by simp [member])
    rw [renderAll, Attempt.bind_ok (each part (by simp) n), Attempt.bind_ok (others (n + part.values.length)),
      List.flatMap_cons, bound_append, List.length_append, ← Nat.add_assoc, clausesFrom]
    rfl

theorem render_all (part : Predicate) (rest : List Predicate) :
    render context (.all (part :: rest)) =
      renderAll context (part :: rest) >>= fun joined => pure ⟨.all joined.1, joined.2⟩ := by
  simp [render, renderAll]

theorem render_any (part : Predicate) (rest : List Predicate) :
    render context (.any (part :: rest)) =
      renderAll context (part :: rest) >>= fun joined => pure ⟨.any joined.1, joined.2⟩ := by
  simp [render, renderAll]

theorem render_eq (given : ∀ leaf ∈ p.leaves, leaf.HasItsValues) (n : Nat) :
    render context p n =
      (.ok ⟨clauseFrom context n p, bound n p.values⟩, n + p.values.length) := by
  -- Parts take their parameters one after the other, so the number of the first is left general.
  induction p using byParts generalizing n with
  | field name op values =>
    have own : HasItsValues (.field name op values) := given _ (by simp [leaves])
    rw [values_field]
    exact renderField_eq own _ n
  | column | never => rfl
  | not part ih =>
    rw [values_not, render, Attempt.bind_ok (ih (by simpa using given) n), clauseFrom]
    rfl
  | all parts ih =>
    rw [leaves_all] at given
    rw [values_all]
    cases parts with
    | nil => rw [List.flatMap_nil, bound_nil]; rfl
    | cons part rest =>
      have joined := renderAll_eq (fun p member => ih p member (leaves_of_parts given p member)) n
      rw [render_all, Attempt.bind_ok joined]
      rfl
  | any parts ih =>
    rw [leaves_any] at given
    rw [values_any]
    cases parts with
    | nil => rw [List.flatMap_nil, bound_nil]; rfl
    | cons part rest =>
      have joined := renderAll_eq (fun p member => ih p member (leaves_of_parts given p member)) n
      rw [render_any, Attempt.bind_ok joined]
      rfl

end Predicate

end QueryCache
