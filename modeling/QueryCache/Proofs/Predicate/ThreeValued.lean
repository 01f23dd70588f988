import QueryCache.Proofs.Predicate.Rendering
import QueryCache.Proofs.Value.Integer

/-! Clauses on rows of integers and NULL, and the predicates they are rendered from.

A clause has one of three truth values: what is compared with NULL is unknown, and the connectives
pass that on unless the other side decides. A predicate has two: no comparison holds of a field that
is null, and a negation holds wherever its part does not. -/

set_option autoImplicit false

namespace QueryCache

open Binding

/-! ## Three truth values -/

inductive Truth where
  | yes
  | no
  | unknown
  deriving DecidableEq, Repr

namespace Truth

def ofBool (b : Bool) : Truth := if b then .yes else .no

def and : Truth → Truth → Truth
  | .no, _ | _, .no => .no
  | .yes, .yes => .yes
  | _, _ => .unknown

def or : Truth → Truth → Truth
  | .yes, _ | _, .yes => .yes
  | .no, .no => .no
  | _, _ => .unknown

def not : Truth → Truth
  | .yes => .no
  | .no => .yes
  | .unknown => .unknown

def negatedIf (negated : Bool) (t : Truth) : Truth := if negated then t.not else t

/-- The comparison of two cells, unknown where one of them is NULL. -/
def compare (test : Comparator) : Option Int → Option Int → Truth
  | some a, some b => .ofBool (test.holdsOfInts a b)
  | _, _ => .unknown

/-- Whether a cell equals one of some integers. -/
def among (cell : Option Int) (items : List Int) : Truth :=
  items.foldr (fun item others => (compare .eq cell (some item)).or others) .no

def within (cell : Option Int) (low high : Int) : Truth :=
  (compare .gte cell (some low)).and (compare .lte cell (some high))

/-- The truth value where what is unknown counts as `reading`. -/
def read (reading : Bool) : Truth → Bool
  | .yes => true
  | .no => false
  | .unknown => reading

end Truth

/-! ## Clauses on a row -/

/-- The integer that is bound to a parameter. -/
def Binding.int? (bindings : Bindings) (param : String) : Option Int :=
  match bindings.lookup param with
  | some (.int n) => some n
  | _ => none

/-- The cell of a column; the day of a time is none. -/
def Column.cell? (row : String → Option Int) (column : Column) : Option (Option Int) :=
  if column.day then none else some (row column.name)

namespace Clause

mutual

/-- The truth value of a clause on a row, given what its parameters are bound to. Patterns, days and
parameters that no integer is bound to have no meaning on integers. -/
def truth? (row : String → Option Int) (bindings : Bindings) : Clause → Option Truth
  | .constant holds => some (.ofBool holds)
  | .compare column test param => do
    let cell ← column.cell? row
    let value ← int? bindings param
    return .compare test cell (some value)
  | .like _ _ => none
  | .member negated column params => do
    let cell ← column.cell? row
    let items ← params.mapM (int? bindings)
    return .negatedIf negated (.among cell items)
  | .between negated column low high => do
    let cell ← column.cell? row
    let low ← int? bindings low
    let high ← int? bindings high
    return .negatedIf negated (.within cell low high)
  | .null negated column => do
    let cell ← column.cell? row
    return .negatedIf negated (.ofBool cell.isNone)
  | .columns left test right => do
    let a ← left.cell? row
    let b ← right.cell? row
    return .compare test a b
  | .all parts => allTruth? row bindings parts
  | .any parts => anyTruth? row bindings parts
  | .not part => (truth? row bindings part).map Truth.not

def allTruth? (row : String → Option Int) (bindings : Bindings) : List Clause → Option Truth
  | [] => some .yes
  | part :: rest => do
    let first ← truth? row bindings part
    let others ← allTruth? row bindings rest
    return first.and others

def anyTruth? (row : String → Option Int) (bindings : Bindings) : List Clause → Option Truth
  | [] => some .no
  | part :: rest => do
    let first ← truth? row bindings part
    let others ← anyTruth? row bindings rest
    return first.or others

end

-- The equations are made once, before the proofs that unfold them run.
attribute [simp] truth? allTruth? anyTruth?

end Clause

def BoundClause.truth? (row : String → Option Int) (rendered : BoundClause) : Option Truth :=
  rendered.clause.truth? row rendered.bindings

/-! ## Two truth values beside three -/

/-- An answer beside a truth value: they are the same where there is one, and where the unknown may be
read in one way, the answer is the truth value read so. -/
structure Agrees (t : Truth) (answer : Bool) (readable : Bool → Prop) : Prop where
  known : t = .unknown ∨ t = .ofBool answer
  read : ∀ reading, readable reading → answer = t.read reading

namespace Agrees

variable {t u : Truth} {a b : Bool} {P Q : Bool → Prop}

theorem ofBool (b : Bool) (P : Bool → Prop) : Agrees (.ofBool b) b P :=
  ⟨.inr rfl, fun _ _ => by cases b <;> rfl⟩

theorem mono (agrees : Agrees t a P) (weaker : ∀ reading, Q reading → P reading) : Agrees t a Q :=
  ⟨agrees.known, fun reading allowed => agrees.read reading (weaker reading allowed)⟩

theorem and (first : Agrees t a P) (second : Agrees u b Q) :
    Agrees (t.and u) (a && b) fun reading => P reading ∧ Q reading := by
  constructor
  · rcases first.known with rfl | rfl <;> rcases second.known with rfl | rfl <;>
      cases a <;> cases b <;> simp [Truth.and, Truth.ofBool]
  · rintro reading ⟨allowed, allowed'⟩
    rw [first.read reading allowed, second.read reading allowed']
    cases t <;> cases u <;> cases reading <;> rfl

theorem or (first : Agrees t a P) (second : Agrees u b Q) :
    Agrees (t.or u) (a || b) fun reading => P reading ∧ Q reading := by
  constructor
  · rcases first.known with rfl | rfl <;> rcases second.known with rfl | rfl <;>
      cases a <;> cases b <;> simp [Truth.or, Truth.ofBool]
  · rintro reading ⟨allowed, allowed'⟩
    rw [first.read reading allowed, second.read reading allowed']
    cases t <;> cases u <;> cases reading <;> rfl

-- Under a negation the unknown is read the other way.
theorem not (agrees : Agrees t a P) : Agrees t.not (!a) fun reading => P !reading := by
  constructor
  · rcases agrees.known with rfl | rfl
    · exact .inl rfl
    · cases a <;> exact .inr rfl
  · intro reading allowed
    rw [agrees.read _ allowed]
    cases t <;> cases reading <;> rfl

theorem unknown {P : Bool → Prop} (even : ∀ reading, P reading → reading = false) : Agrees .unknown false P :=
  ⟨.inl rfl, fun reading allowed => by rw [even reading allowed]; rfl⟩

end Agrees

namespace Truth

theorem negatedIf_ofBool (negated b : Bool) :
    negatedIf negated (.ofBool b) = .ofBool (bif negated then !b else b) := by
  cases negated <;> cases b <;> rfl

theorem among_some (a : Int) (items : List Int) :
    among (some a) items = .ofBool (items.any fun item => decide (a = item)) := by
  induction items with
  | nil => rfl
  | cons item rest ih =>
    have step : among (some a) (item :: rest) = (ofBool (decide (a = item))).or (among (some a) rest) := rfl
    rw [step, ih, List.any_cons]
    generalize (rest.any fun item => decide (a = item)) = others
    cases decide (a = item) <;> cases others <;> rfl

theorem among_none {items : List Int} (some : items ≠ []) : among none items = .unknown := by
  induction items with
  | nil => exact absurd rfl some
  | cons item rest ih =>
    cases rest with
    | nil => rfl
    | cons next rest =>
      have step : among none (item :: next :: rest) = unknown.or (among none (next :: rest)) := rfl
      rw [step, ih (by simp)]
      rfl

theorem within_some (a low high : Int) : within (some a) low high = .ofBool (low ≤ a && a ≤ high) := by
  have step : within (some a) low high = (ofBool (low ≤ a)).and (ofBool (a ≤ high)) := rfl
  rw [step]
  cases decide (low ≤ a) <;> cases decide (a ≤ high) <;> rfl

end Truth

/-! ## Parameters -/

namespace Binding

/-- Values are bound to the parameters counted from a number on. -/
def Binds (bindings : Bindings) : Nat → List Value → Prop
  | _, [] => True
  | n, value :: rest => bindings.lookup (paramName n) = some value ∧ Binds bindings (n + 1) rest

variable {bindings : Bindings}

theorem binds_append {n : Nat} {xs ys : List Value} :
    Binds bindings n (xs ++ ys) ↔ Binds bindings n xs ∧ Binds bindings (n + xs.length) ys := by
  induction xs generalizing n with
  | nil => simp [Binds]
  | cons x xs ih =>
    rw [List.cons_append, Binds, Binds, ih, and_assoc, List.length_cons, Nat.add_assoc n 1, Nat.add_comm 1]

theorem Binds.cons {n m : Nat} {values : List Value} (binds : Binds bindings m values) (before : n < m)
    (value : Value) : Binds ((paramName n, value) :: bindings) m values := by
  induction values generalizing m with
  | nil => trivial
  | cons v values ih =>
    have other : (paramName m == paramName n) = false := by
      rw [beq_eq_false_iff_ne]
      exact fun same => Nat.ne_of_gt before (paramName_injective same)
    refine ⟨?_, ih binds.2 (by omega)⟩
    rw [List.lookup_cons, other]
    exact binds.1

theorem binds_bound (n : Nat) (values : List Value) : Binds (bound n values) n values := by
  induction values generalizing n with
  | nil => trivial
  | cons value rest ih =>
    rw [bound_cons]
    exact ⟨List.lookup_cons_self, (ih (n + 1)).cons (by omega) value⟩

theorem Binds.int {n : Nat} {a : Int} {rest : List Int} (binds : Binds bindings n ((a :: rest).map .int)) :
    int? bindings (paramName n) = some a := by
  rw [int?, binds.1]

theorem Binds.mapM_int {n : Nat} {ints : List Int} (binds : Binds bindings n (ints.map .int)) :
    (namesFrom n ints.length).mapM (int? bindings) = some ints := by
  induction ints generalizing n with
  | nil => rfl
  | cons a ints ih =>
    rw [List.length_cons, namesFrom_succ, List.mapM_cons, binds.int, ih binds.2]
    rfl

end Binding

namespace Clause

variable {row : String → Option Int} {bindings : Bindings} {column : Column} {x : Option Int} {n : Nat}
  (found : column.cell? row = some x)

include found

theorem truth_compare {a : Int} (bound : int? bindings (paramName n) = some a) (test : Comparator) :
    (Clause.compare column test (paramName n)).truth? row bindings = some (.compare test x (some a)) := by
  simp [found, bound]

theorem truth_between {low high : Int} (first : int? bindings (paramName n) = some low)
    (second : int? bindings (paramName (n + 1)) = some high) (negated : Bool) :
    (Clause.between negated column (paramName n) (paramName (n + 1))).truth? row bindings =
      some (.negatedIf negated (.within x low high)) := by
  simp [found, first, second]

theorem truth_member {ints : List Int} (binds : Binds bindings n (ints.map .int)) (negated : Bool) :
    (Clause.member negated column (namesFrom n ints.length)).truth? row bindings =
      some (.negatedIf negated (.among x ints)) := by
  simp [found, binds.mapM_int]

theorem truth_null (negated : Bool) :
    (Clause.null negated column).truth? row bindings =
      some (.ofBool (bif negated then !x.isNone else x.isNone)) := by
  rw [← Truth.negatedIf_ofBool]
  simp [found]

end Clause

namespace Predicate

variable {row : String → Option Int} {bindings : Bindings} {record : Value}

/-- A condition on integers, which is neither a pattern nor about days, or a leaf of another kind. -/
def ComparesInts : Predicate → Prop
  | .field name op values =>
    op ∉ [.like, .dateEquals, .dateBetween] ∧ HasItsValues (.field name op values) ∧
      ∃ ints : List Int, values = ints.map .int
  | _ => True

mutual

/-- The leaves, each with whether it stands under an odd number of negations more than `odd` says. -/
def signedLeaves (odd : Bool) : Predicate → List (Bool × Predicate)
  | .all parts | .any parts => signedLeavesOf odd parts
  | .not part => part.signedLeaves !odd
  | leaf => [(odd, leaf)]

def signedLeavesOf (odd : Bool) : List Predicate → List (Bool × Predicate)
  | [] => []
  | part :: rest => part.signedLeaves odd ++ signedLeavesOf odd rest

end

/-- Either a leaf has a truth value on a record, or its unknown is what the record fails and is not
negated. -/
def NullSafe (record : Value) (odd : Bool) : Predicate → Prop
  | .field name op values =>
    match op with
    | .isNull | .isNotNull => True
    | .isIn => values = [] ∨ odd = false ∨ (record.field name).isNull = false
    | .notIn => values = [] ∨ (record.field name).isNull = false
    | _ => odd = false ∨ (record.field name).isNull = false
  | .column left _ right =>
    odd = false ∨ (record.field left).isNull = false ∧ (record.field right).isNull = false
  | _ => True

/-- No leaf of a predicate is unsafe under the negations that it stands under. -/
def AllNullSafe (record : Value) (odd : Bool) (p : Predicate) : Prop :=
  ∀ entry ∈ p.signedLeaves odd, NullSafe record entry.1 entry.2

theorem allNullSafe_leaf {leaf : Predicate} {odd : Bool} (alone : leaf.signedLeaves odd = [(odd, leaf)]) :
    AllNullSafe record odd leaf ↔ NullSafe record odd leaf := by
  simp [AllNullSafe, alone]

theorem allNullSafe_parts {parts : List Predicate} {odd : Bool} :
    (∀ entry ∈ signedLeavesOf odd parts, NullSafe record entry.1 entry.2) ↔
      ∀ part ∈ parts, AllNullSafe record odd part := by
  induction parts with
  | nil => simp [signedLeavesOf]
  | cons part rest ih => rw [signedLeavesOf, List.forall_mem_append, ih, List.forall_mem_cons, AllNullSafe]

/-- What a clause gives and what its predicate answers, side by side. -/
def Judged (given : Option Truth) (answer : Except Failure Bool) (readable : Bool → Prop) : Prop :=
  ∃ t b, given = some t ∧ answer = .ok b ∧ Agrees t b readable

theorem fieldHolds_ints (name : String) (op : Operator) (ints : List Int) :
    fieldHolds name op (ints.map .int) record = holdsOf op (record.field name) (ints.map .int) := by
  have same : (ints.map .int).map (Value.coercedLike (record.field name)) = ints.map .int := by
    rw [List.map_map]
    rfl
  rw [fieldHolds, same]

theorem isIn_int (a : Int) (ints : List Int) :
    (Value.int a).isIn (ints.map .int) = ints.any fun b => decide (a = b) := by
  rw [Value.isIn, List.any_map]
  exact congrArg ints.any (funext fun b => Value.same_int a b)

theorem isIn_null (ints : List Int) : Value.null.isIn (ints.map .int) = false := by
  rw [Value.isIn, List.any_map]
  exact List.any_eq_false.2 fun b _ => by simp [Value.same, Value.number?]

theorem holdsOf_isIn_int (a : Int) (ints : List Int) :
    holdsOf .isIn (.int a) (ints.map .int) = .ok (ints.any fun b => decide (a = b)) := by
  rw [← isIn_int]
  rfl

theorem holdsOf_notIn_int (a : Int) (ints : List Int) :
    holdsOf .notIn (.int a) (ints.map .int) = .ok !(ints.any fun b => decide (a = b)) := by
  rw [← isIn_int]
  rfl

theorem holdsOf_isIn_null (ints : List Int) : holdsOf .isIn .null (ints.map .int) = .ok false := by
  rw [← isIn_null ints]
  rfl

-- What is null is in no list of integers, so it is outside of each.
theorem holdsOf_notIn_null (ints : List Int) : holdsOf .notIn .null (ints.map .int) = .ok true := by
  have outside : holdsOf .notIn .null (ints.map .int) = .ok !Value.null.isIn (ints.map .int) := rfl
  rw [outside, isIn_null]
  rfl

theorem isBetween_int (a low high : Int) :
    isBetween? (.int a) [.int low, .int high] = .ok (some (low ≤ a && a ≤ high)) := by
  have below := Value.ordered_int low a
  have above := Value.ordered_int a high
  cases within : decide (low ≤ a) <;>
    simp [isBetween?, valueAt, below, above, within, bind, Except.bind, pure, Except.pure]

theorem holdsOf_between_int (a low high : Int) :
    holdsOf .between (.int a) [.int low, .int high] = .ok (low ≤ a && a ≤ high) := by
  have run : holdsOf .between (.int a) [.int low, .int high] =
      isBetween? (.int a) [.int low, .int high] >>= fun inside => .ok (inside.getD false) := rfl
  rw [run, isBetween_int]
  rfl

theorem holdsOf_notBetween_int (a low high : Int) :
    holdsOf .notBetween (.int a) [.int low, .int high] = .ok !(low ≤ a && a ≤ high) := by
  have run : holdsOf .notBetween (.int a) [.int low, .int high] =
      isBetween? (.int a) [.int low, .int high] >>= fun inside => .ok ((inside.map (!·)).getD false) := rfl
  rw [run, isBetween_int]
  rfl

theorem HasItsValues.bounds {name : String} {op : Operator} {ints : List Int}
    (given : HasItsValues (.field name op (ints.map .int)))
    (range : op.accepts (ints.map Value.int).length = ((ints.map Value.int).length == 2))
    (other : ¬(op = .isIn ∨ op = .notIn)) : ∃ low high, ints = [low, high] := by
  obtain ⟨v, w, two⟩ := given.two range other
  exact List.length_eq_two.1 (by simpa using congrArg List.length two)

theorem judged_field {name column : String} {op : Operator} {ints : List Int} {n : Nat}
    (kind : op ∉ [.like, .dateEquals, .dateBetween]) (given : HasItsValues (.field name op (ints.map .int)))
    (cell : record.field name = .ofOption .int (row column)) (binds : Binds bindings n (ints.map .int)) :
    Judged ((fieldClause ⟨column, false⟩ op n ints.length).truth? row bindings)
      (fieldHolds name op (ints.map .int) record)
      fun odd => NullSafe record odd (.field name op (ints.map .int)) := by
  have found : Column.cell? row ⟨column, false⟩ = some (row column) := rfl
  rw [fieldHolds_ints]
  simp only [NullSafe]
  rw [cell]
  generalize row column = x at found
  cases op with
  | eq | neq | gt | gte | lt | lte =>
    obtain ⟨v, one⟩ := given.one rfl (by simp)
    obtain ⟨a, rfl, rfl⟩ := List.map_eq_singleton_iff.1 one
    cases x with
    | none =>
      refine ⟨_, _, Clause.truth_compare found binds.int _, rfl, .unknown ?_⟩
      simp [Value.ofOption, Value.isNull]
    | some x =>
      exact ⟨_, _, Clause.truth_compare found binds.int _, congrArg _ (Value.comparesAs_int _ x a), .ofBool _ _⟩
  | between =>
    obtain ⟨low, high, rfl⟩ := given.bounds rfl (by simp)
    have truth := Clause.truth_between found binds.int (Binds.int binds.2) false
    cases x with
    | none => exact ⟨_, _, truth, rfl, .unknown (by simp [Value.ofOption, Value.isNull])⟩
    | some x =>
      rw [Truth.within_some, Truth.negatedIf_ofBool] at truth
      exact ⟨_, _, truth, holdsOf_between_int x low high, .ofBool _ _⟩
  | notBetween =>
    obtain ⟨low, high, rfl⟩ := given.bounds rfl (by simp)
    have truth := Clause.truth_between found binds.int (Binds.int binds.2) true
    cases x with
    | none => exact ⟨_, _, truth, rfl, .unknown (by simp [Value.ofOption, Value.isNull])⟩
    | some x =>
      rw [Truth.within_some, Truth.negatedIf_ofBool] at truth
      exact ⟨_, _, truth, holdsOf_notBetween_int x low high, .ofBool _ _⟩
  | isIn =>
    cases ints with
    | nil => exact ⟨_, _, rfl, rfl, .ofBool _ _⟩
    | cons a rest =>
      have truth := Clause.truth_member found binds false
      cases x with
      | none =>
        rw [Truth.among_none (by simp)] at truth
        exact ⟨_, _, truth, holdsOf_isIn_null _, .unknown (by simp [Value.ofOption, Value.isNull])⟩
      | some x =>
        rw [Truth.among_some, Truth.negatedIf_ofBool] at truth
        exact ⟨_, _, truth, holdsOf_isIn_int x _, .ofBool _ _⟩
  | notIn =>
    cases ints with
    | nil => exact ⟨_, _, rfl, rfl, .ofBool _ _⟩
    | cons a rest =>
      have truth := Clause.truth_member found binds true
      cases x with
      | none =>
        rw [Truth.among_none (by simp)] at truth
        -- The predicate holds here and the clause is unknown, so neither reading of it is safe.
        exact ⟨_, _, truth, holdsOf_notIn_null _, .inl rfl, by simp [Value.ofOption, Value.isNull]⟩
      | some x =>
        rw [Truth.among_some, Truth.negatedIf_ofBool] at truth
        exact ⟨_, _, truth, holdsOf_notIn_int x _, .ofBool _ _⟩
  | isNull | isNotNull =>
    cases x <;> exact ⟨_, _, Clause.truth_null found _, rfl, .ofBool _ _⟩
  | like | dateEquals | dateBetween => exact absurd kind (by simp)

theorem columnHolds_eq {left right : String} {x y : Option Int} (cell : record.field left = .ofOption .int x)
    (cell' : record.field right = .ofOption .int y) (test : Comparator) :
    columnHolds left test right record = x.any fun a => y.any fun b => test.holdsOfInts a b := by
  rw [columnHolds, cell, cell']
  cases x with
  | none => rfl
  | some a =>
    cases y with
    | none => rfl
    | some b => exact Value.comparesAs_int test a b

theorem judged_column {left right a b : String} (cell : record.field left = .ofOption .int (row a))
    (cell' : record.field right = .ofOption .int (row b)) (test : Comparator) :
    Judged ((Clause.columns ⟨a, false⟩ test ⟨b, false⟩).truth? row bindings)
      (.ok (columnHolds left test right record)) fun odd => NullSafe record odd (.column left test right) := by
  refine ⟨_, _, rfl, rfl, ?_⟩
  rw [columnHolds_eq cell cell']
  simp only [NullSafe]
  rw [cell, cell']
  cases row a with
  | none => exact .unknown (by simp [Value.ofOption, Value.isNull])
  | some a =>
    cases row b with
    | none => exact .unknown (by simp [Value.ofOption, Value.isNull])
    | some b => exact .ofBool _ _

variable {context : SqlContext} {parts : List Predicate}

theorem judged_all (each : ∀ part ∈ parts, ∀ n, Binds bindings n part.values →
      Judged ((clauseFrom context n part).truth? row bindings) (part.holds record) (AllNullSafe record · part))
    (n : Nat) (binds : Binds bindings n (parts.flatMap values)) :
    Judged (Clause.allTruth? row bindings (clausesFrom context n parts)) (allHold record parts)
      fun odd => ∀ part ∈ parts, AllNullSafe record odd part := by
  induction parts generalizing n with
  | nil => exact ⟨_, _, rfl, rfl, .ofBool true _⟩
  | cons part rest ih =>
    rw [List.flatMap_cons, binds_append] at binds
    obtain ⟨t, a, truth, answer, first⟩ := each part (by simp) n binds.1
    obtain ⟨u, b, truths, answers, others⟩ := ih (fun p member => each p (by simp [member])) _ binds.2
    refine ⟨t.and u, a && b, ?_, ?_, (first.and others).mono fun odd => List.forall_mem_cons.1⟩
    · rw [clausesFrom, Clause.allTruth?, truth, truths]
      rfl
    · rw [allHold, answer, answers]
      cases a <;> rfl

theorem judged_any (each : ∀ part ∈ parts, ∀ n, Binds bindings n part.values →
      Judged ((clauseFrom context n part).truth? row bindings) (part.holds record) (AllNullSafe record · part))
    (n : Nat) (binds : Binds bindings n (parts.flatMap values)) :
    Judged (Clause.anyTruth? row bindings (clausesFrom context n parts)) (anyHolds record parts)
      fun odd => ∀ part ∈ parts, AllNullSafe record odd part := by
  induction parts generalizing n with
  | nil => exact ⟨_, _, rfl, rfl, .ofBool false _⟩
  | cons part rest ih =>
    rw [List.flatMap_cons, binds_append] at binds
    obtain ⟨t, a, truth, answer, first⟩ := each part (by simp) n binds.1
    obtain ⟨u, b, truths, answers, others⟩ := ih (fun p member => each p (by simp [member])) _ binds.2
    refine ⟨t.or u, a || b, ?_, ?_, (first.or others).mono fun odd => List.forall_mem_cons.1⟩
    · rw [clausesFrom, Clause.anyTruth?, truth, truths]
      rfl
    · rw [anyHolds, answer, answers]
      cases a <;> rfl

theorem truth_all (n : Nat) : (clauseFrom context n (.all parts)).truth? row bindings =
    Clause.allTruth? row bindings (clausesFrom context n parts) := by
  cases parts <;> rfl

theorem truth_any (n : Nat) : (clauseFrom context n (.any parts)).truth? row bindings =
    Clause.anyTruth? row bindings (clausesFrom context n parts) := by
  cases parts <;> rfl

-- The count of parameters runs on from part to part, so the induction is for every count.
theorem judged {p : Predicate} (ints : ∀ leaf ∈ p.leaves, leaf.ComparesInts)
    (cells : ∀ leaf ∈ p.leaves, ∀ name ∈ leaf.ownFields,
      record.field name = .ofOption .int (row (context.columnName name)))
    (n : Nat) (binds : Binds bindings n p.values) :
    Judged ((clauseFrom context n p).truth? row bindings) (p.holds record) (AllNullSafe record · p) := by
  induction p using byParts generalizing n with
  | field name op values =>
    obtain ⟨kind, given, items, rfl⟩ := ints _ (List.mem_singleton.2 rfl)
    have cell := cells _ (List.mem_singleton.2 rfl) name (List.mem_singleton.2 rfl)
    rw [values_field] at binds
    obtain ⟨t, b, truth, answer, agrees⟩ := judged_field kind given cell binds
    refine ⟨t, b, ?_, answer, agrees.mono fun odd => (allNullSafe_leaf rfl).1⟩
    rw [clauseFrom, List.length_map]
    exact truth
  | column left test right =>
    have cell := cells (.column left test right) (List.mem_singleton.2 rfl)
    obtain ⟨t, b, truth, answer, agrees⟩ := judged_column (cell left (by simp [ownFields]))
      (cell right (by simp [ownFields])) test
    exact ⟨t, b, truth, answer, agrees.mono fun odd => (allNullSafe_leaf rfl).1⟩
  | never => exact ⟨_, _, rfl, rfl, .ofBool false _⟩
  | not part ih =>
    rw [leaves_not] at ints cells
    rw [values_not] at binds
    obtain ⟨t, b, truth, answer, agrees⟩ := ih ints cells n binds
    refine ⟨t.not, !b, ?_, ?_, agrees.not⟩
    · rw [clauseFrom, Clause.truth?, truth]
      rfl
    · rw [holds, answer]
      rfl
  | all parts ih =>
    rw [leaves_all] at ints cells
    rw [values_all] at binds
    have joined := judged_all (fun part member =>
      ih part member (leaves_of_parts ints part member) (leaves_of_parts cells part member)) n binds
    obtain ⟨t, b, truth, answer, agrees⟩ := joined
    exact ⟨t, b, (truth_all n).trans truth, answer, agrees.mono fun odd => allNullSafe_parts.1⟩
  | any parts ih =>
    rw [leaves_any] at ints cells
    rw [values_any] at binds
    have joined := judged_any (fun part member =>
      ih part member (leaves_of_parts ints part member) (leaves_of_parts cells part member)) n binds
    obtain ⟨t, b, truth, answer, agrees⟩ := joined
    exact ⟨t, b, (truth_any n).trans truth, answer, agrees.mono fun odd => allNullSafe_parts.1⟩

/-- On integers and NULL a clause is rendered, has a truth value and contradicts its predicate nowhere. Where
no unknown is negated, it is true of the rows that satisfy the predicate, and of no others. -/
theorem satisfied_iff_true {p : Predicate} (ints : ∀ leaf ∈ p.leaves, leaf.ComparesInts)
    (cells : ∀ leaf ∈ p.leaves, ∀ name ∈ leaf.ownFields,
      record.field name = .ofOption .int (row (context.columnName name))) (n : Nat) :
    ∃ rendered truth answer,
      (render context p n).1 = .ok rendered ∧ rendered.truth? row = some truth ∧
      p.holds record = .ok answer ∧ (truth = .unknown ∨ truth = .ofBool answer) ∧
      (p.AllNullSafe record false → (answer = true ↔ truth = .yes)) := by
  have given : ∀ leaf ∈ p.leaves, leaf.HasItsValues := by
    intro leaf member
    cases leaf with
    | field name op values => exact (ints _ member).2.1
    | _ => trivial
  obtain ⟨truth, answer, judged, holds, agrees⟩ := judged ints cells n (binds_bound n p.values)
  refine ⟨⟨clauseFrom context n p, bound n p.values⟩, truth, answer, congrArg (·.1) (render_eq given n), judged,
    holds, agrees.known, fun safe => ?_⟩
  rw [agrees.read false safe]
  cases truth <;> simp [Truth.read]

theorem satisfied_iff_true_nested :
    let p : Predicate := .any [.not (.all [.field "a" .gt [.int 5], .column "a" .neq "b"]),
      .field "c" .notBetween [.int 1, .int 3]]
    let record : Value := .dict [("a", .int 7), ("b", .int 7), ("c", .null)]
    let row : String → Option Int := fun column => if column = "t.c" then none else some 7
    ∃ rendered truth answer,
      (render { table := some "t" } p 4).1 = .ok rendered ∧ rendered.truth? row = some truth ∧
      p.holds record = .ok answer ∧ (truth = .unknown ∨ truth = .ofBool answer) ∧
      (answer = true ↔ truth = .yes) := by
  intro p record row
  have leaves : p.leaves = [.field "a" .gt [.int 5], .column "a" .neq "b",
    .field "c" .notBetween [.int 1, .int 3]] := rfl
  have ints : ∀ leaf ∈ p.leaves, leaf.ComparesInts := by
    rw [leaves]
    simp only [List.forall_mem_cons]
    exact ⟨⟨by decide, by decide, [5], rfl⟩, trivial, ⟨by decide, by decide, [1, 3], rfl⟩, by simp⟩
  have cells : ∀ leaf ∈ p.leaves, ∀ name ∈ leaf.ownFields,
      record.field name = .ofOption .int (row (SqlContext.columnName { table := some "t" } name)) := by
    rw [leaves]
    simp only [List.forall_mem_cons, ownFields]
    exact ⟨⟨by rfl, by simp⟩, ⟨by rfl, by rfl, by simp⟩, ⟨by rfl, by simp⟩, by simp⟩
  have safe : p.AllNullSafe record false := by
    have signed : p.signedLeaves false = [(true, .field "a" .gt [.int 5]), (true, .column "a" .neq "b"),
      (false, .field "c" .notBetween [.int 1, .int 3])] := rfl
    rw [AllNullSafe, signed]
    simp only [List.forall_mem_cons]
    exact ⟨.inr (by rfl), .inr ⟨by rfl, by rfl⟩, .inl rfl, by simp⟩
  obtain ⟨rendered, truth, answer, run, judged, holds, known, exact⟩ := satisfied_iff_true ints cells 4
  exact ⟨rendered, truth, answer, run, judged, holds, known, exact safe⟩

/-- A negation takes what is unknown for a success, and so does a list that the value is not to be in. -/
theorem satisfied_of_unknown :
    let negated : Predicate := .not (.field "a" .eq [.int 1])
    let outside : Predicate := .field "a" .notIn [.int 1]
    let record : Value := .dict [("a", .null)]
    (negated.holds record = .ok true ∧
      ∃ rendered, negated.toSql = .ok rendered ∧ rendered.truth? (fun _ => none) = some .unknown) ∧
    (outside.holds record = .ok true ∧
      ∃ rendered, outside.toSql = .ok rendered ∧ rendered.truth? (fun _ => none) = some .unknown) :=
  ⟨⟨by rfl, _, rfl, by rfl⟩, (fieldHolds_ints "a" .notIn [1]).trans (holdsOf_notIn_null [1]), _, rfl, by rfl⟩

end Predicate

end QueryCache
