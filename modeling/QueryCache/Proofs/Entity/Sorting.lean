import QueryCache.Proofs.Entity.Selection
import QueryCache.Proofs.Order.Insertion
import QueryCache.Proofs.Value.Integer
import Mathlib.Data.String.Basic
import Mathlib.Order.WithBot

/-! Rows in the order of several fields.

The last field is sorted by first. Every sort is stable, also a descending one, so that a field
sorted by later decides before those sorted by earlier, and rows that no field tells apart stay in
the order they were stored in. -/

set_option autoImplicit false

namespace QueryCache

open Outcome

/-! ## Values in order -/

namespace Value

/-- Two values compare as their places do, and are the same where their places are. -/
structure ComparesBy {K : Type} [LinearOrder K] (place : Value → K) (a b : Value) : Prop where
  same : a.same b = true ↔ place a = place b
  less : a.ordered? .lt b = some (decide (place a < place b))

/-- Any two of the values compare as places in a linear order do. -/
def TotallyOrdered (values : Set Value) : Prop :=
  ∃ (K : Type) (_ : LinearOrder K) (place : Value → K), ∀ a ∈ values, ∀ b ∈ values, ComparesBy place a b

/-- Whether a value is less than another where null is greater than every value. -/
def Below (a b : Value) : Prop :=
  a.isNull = false ∧ (b.isNull = true ∨ a.ordered? .lt b = some true)

/-- Values that stand for members of a linear order, and are compared as these are. -/
theorem totallyOrdered_range {K : Type} [LinearOrder K] [Nonempty K] {f : K → Value}
    (same : ∀ a b, (f a).same (f b) = decide (a = b))
    (less : ∀ a b, (f a).ordered? .lt (f b) = some (decide (a < b))) : TotallyOrdered (Set.range f) := by
  have injective : Function.Injective f := by
    intro a b equal
    have itself : (f a).same (f b) = true := by
      rw [equal, same]
      exact decide_eq_true rfl
    rw [same] at itself
    exact of_decide_eq_true itself
  have back := Function.leftInverse_invFun injective
  refine ⟨K, inferInstance, Function.invFun f, ?_⟩
  rintro _ ⟨a, rfl⟩ _ ⟨b, rfl⟩
  constructor
  · rw [back a, back b, same, decide_eq_true_iff]
  · rw [back a, back b, less]

theorem totallyOrdered_int : TotallyOrdered (Set.range Value.int) :=
  totallyOrdered_range same_int fun a b => congrArg some (Extent.lt_scaled unit_pos a b)

theorem totallyOrdered_str : TotallyOrdered (Set.range Value.str) := by
  refine totallyOrdered_range (fun s t => by rw [same, beq_eq_decide]) fun s t => ?_
  have less : (compare s t == .lt) = decide (s < t) := by
    rw [Bool.eq_iff_iff, beq_iff_eq, decide_eq_true_iff]
    exact compare_lt_iff_lt
  exact congrArg some less

theorem TotallyOrdered.subset {values fewer : Set Value} (ordered : TotallyOrdered values)
    (sub : fewer ⊆ values) : TotallyOrdered fewer := by
  obtain ⟨K, order, place, agrees⟩ := ordered
  exact ⟨K, order, place, fun a member b member' => agrees a (sub member) b (sub member')⟩

variable {K : Type}

/-- The place of a value with null behind all others. -/
def rank (place : Value → K) (v : Value) : WithTop K := if v.isNull then ⊤ else place v

variable [LinearOrder K] {place : Value → K} {a b : Value}
  (agrees : a.isNull = false → b.isNull = false → ComparesBy place a b)

include agrees

theorem before_eq : Rows.before a b = .ok (decide (rank place a < rank place b)) := by
  unfold Rows.before rank
  cases null : a.isNull with
  | true => simp
  | false =>
    cases null' : b.isNull with
    | true => simp
    | false =>
      obtain ⟨same, less⟩ := agrees null null'
      by_cases equal : place a = place b
      · simp [same.2 equal, equal]
      · have apart : a.same b = false := by simpa using mt same.1 equal
        simp [apart, less]

theorem below_iff : a.Below b ↔ rank place a < rank place b := by
  unfold Below rank
  cases null : a.isNull with
  | true => simp
  | false =>
    cases null' : b.isNull with
    | true => simp
    | false => simp [(agrees null null').less]

theorem same_iff_rank : a.same b = true ↔ rank place a = rank place b := by
  unfold rank
  cases null : a.isNull with
  | true =>
    obtain rfl : a = .null := by cases a <;> simp_all [isNull]
    cases b <;> simp [same, isNull, number?]
  | false =>
    cases null' : b.isNull with
    | true =>
      obtain rfl : b = .null := by cases b <;> simp_all [isNull]
      cases a <;> simp_all [same, isNull, number?]
    | false => simp [(agrees null null').same]

end Value

/-! ## Rows in order -/

namespace SortField

variable {α : Type} {s : SortField} {fields : List SortField} {f : α → Record} {items : List α}
  {earlier : α → α → Prop}

def value (s : SortField) (row : Record) : Value := Value.field (.dict row) s.field

/-- Whether the field alone puts a row before another; descending is the other way round. -/
def Precedes (s : SortField) (x y : Record) : Prop :=
  match s.direction with
  | .asc => (s.value x).Below (s.value y)
  | .desc => (s.value y).Below (s.value x)

def Ties (s : SortField) (x y : Record) : Prop := (s.value x).same (s.value y) = true

/-- Whether the values of the field other than null are totally ordered. -/
def Orders (s : SortField) (rows : List Record) : Prop :=
  Value.TotallyOrdered {v | v.isNull = false ∧ ∃ row ∈ rows, s.value row = v}

/-- The first field that tells two rows apart decides. -/
def Lexicographic : List SortField → Record → Record → Prop
  | [], _, _ => False
  | s :: rest, x, y => s.Precedes x y ∨ s.Ties x y ∧ Lexicographic rest x y

theorem Orders.subset {rows fewer : List Record} (orders : s.Orders rows) (sub : fewer ⊆ rows) :
    s.Orders fewer := by
  apply Value.TotallyOrdered.subset orders
  rintro v ⟨null, row, member, rfl⟩
  exact ⟨null, row, sub member, rfl⟩

/-- Sorting by one field leaves rows that it ties as they stood. -/
theorem exists_sortedBy (orders : s.Orders (items.map f)) (stood : items.Pairwise earlier) :
    ∃ placed : List α, Rows.sortedBy s (items.map f) = .ok (placed.map f) ∧ placed.Perm items ∧
      placed.Pairwise fun a b => s.Precedes (f a) (f b) ∨ s.Ties (f a) (f b) ∧ earlier a b := by
  obtain ⟨K, _, place, agrees⟩ := orders
  replace agrees : ∀ a ∈ items, ∀ b ∈ items, (s.value (f a)).isNull = false → (s.value (f b)).isNull = false →
      Value.ComparesBy place (s.value (f a)) (s.value (f b)) := by
    intro a member b member' null null'
    exact agrees _ ⟨null, f a, List.mem_map_of_mem member, rfl⟩ _ ⟨null', f b, List.mem_map_of_mem member', rfl⟩
  have answers : Insertion.Answers (fun a b => Rows.before (s.value (f a)) (s.value (f b)))
      (fun a => Value.rank place (s.value (f a))) items :=
    fun a member b member' => Value.before_eq (agrees a member b member')
  rw [Rows.sortedBy_eq]
  cases way : s.direction with
  | asc =>
    obtain ⟨placed, run, perm, ranked⟩ := Insertion.exists_sort answers stood
    refine ⟨placed, congrArg (Except.map (List.map f)) run, perm, ranked.imp_of_mem ?_⟩
    intro a b member member' ranked
    have agrees := agrees a (perm.subset member) b (perm.subset member')
    rwa [Precedes, way, Ties, Value.below_iff agrees, Value.same_iff_rank agrees]
  | desc =>
    -- The rows are turned round before the sort and again after it, so that ties stay as they stood.
    have answers' := fun a member b member' => answers a (List.mem_reverse.1 member) b (List.mem_reverse.1 member')
    obtain ⟨placed, run, perm, ranked⟩ := Insertion.exists_sort answers' (List.pairwise_reverse.2 stood)
    refine ⟨placed.reverse, congrArg (fun sorted => (sorted.map List.reverse).map (List.map f)) run,
      (List.reverse_perm placed).trans (perm.trans (List.reverse_perm items)), ?_⟩
    rw [List.pairwise_reverse]
    refine ranked.imp_of_mem ?_
    intro a b member member' ranked
    have member : a ∈ items := List.mem_reverse.1 (perm.subset member)
    have member' : b ∈ items := List.mem_reverse.1 (perm.subset member')
    rwa [Precedes, way, Ties, Value.below_iff (agrees a member b member'),
      Value.same_iff_rank (agrees b member' a member), eq_comm]

theorem exists_sorted (orders : ∀ s ∈ fields, s.Orders (items.map f)) (stood : items.Pairwise earlier) :
    ∃ placed : List α, Rows.sorted fields (items.map f) = .ok (placed.map f) ∧ placed.Perm items ∧
      placed.Pairwise fun a b => Lexicographic fields (f a) (f b) ∨
        (∀ s ∈ fields, s.Ties (f a) (f b)) ∧ earlier a b := by
  induction fields with
  | nil => exact ⟨items, rfl, .refl _, stood.imp fun earlier => .inr ⟨by simp, earlier⟩⟩
  | cons s rest ih =>
    -- The rows are in the order of the other fields by now, and keep it where this field ties them.
    obtain ⟨others, run, perm, ranked⟩ := ih fun s' member => orders s' (by simp [member])
    have orders' : s.Orders (others.map f) := by
      apply (orders s (by simp)).subset
      exact (perm.map f).subset
    obtain ⟨placed, run', perm', ranked'⟩ := exists_sortedBy orders' ranked
    refine ⟨placed, ?_, perm'.trans perm, ranked'.imp fun first => ?_⟩
    · unfold Rows.sorted at run ⊢
      rw [List.reverse_cons, List.foldlM_append, run]
      simp only [List.foldlM_cons, List.foldlM_nil, bind_pure]
      exact run'
    · rcases first with less | ⟨tied, less | ⟨ties, before⟩⟩
      · exact .inl (.inl less)
      · exact .inl (.inr ⟨tied, less⟩)
      · exact .inr ⟨List.forall_mem_cons.2 ⟨tied, ties⟩, before⟩

end SortField

/-! ## Selections in order -/

/-- The matching rows, each with the place it is stored at. -/
theorem Rows.matching_zipIdx (p : Predicate) (rows : List Record) :
    (∃ row ∈ rows, ∃ e, p.holds (.dict row) = .error e ∧ matching p rows = .error e) ∨
      matching p rows = .ok ((rows.zipIdx.filter fun entry =>
        (p.holds (.dict entry.1)).toOption = some true).map Prod.fst) := by
  have placed : matching p rows =
      (rows.zipIdx.filterM fun entry => p.holds (.dict entry.1)).map (List.map Prod.fst) := by
    have placed := Rows.filterM_map Prod.fst (fun row => p.holds (.dict row)) rows.zipIdx
    rwa [List.zipIdx_map_fst] at placed
  rw [placed]
  cases decided : rows.zipIdx.filterM fun entry => p.holds (.dict entry.1) with
  | error e =>
    obtain ⟨entry, member, failed⟩ := filterM_eq_error decided
    have member : entry.1 ∈ rows := by
      rw [← List.zipIdx_map_fst 0 rows]
      exact List.mem_map_of_mem member
    exact .inl ⟨entry.1, member, e, failed, rfl⟩
  | ok found =>
    rw [(filterM_eq_ok decided).2]
    exact .inr rfl

namespace EntityStore

variable {s : EntityStore} {q : QueryState}

/-- A whole selection is the records that the query is about, put in order; it fails only where the
query cannot be decided on a record. -/
theorem select_lexicographic (ordered : ∀ field ∈ q.sort, field.Orders s.records) (single : q.groupBy = [])
    (unlimited : q.limit = none) (fromStart : q.offset = none) :
    (∃ record ∈ s.records, ∃ e, q.predicate.holds (.dict record) = .error e ∧ s.select q = .error e) ∨
    ∃ placed : List (Record × Nat),
      placed.Perm (s.records.zipIdx.filter fun entry =>
        (q.predicate.holds (.dict entry.1)).toOption = some true) ∧
      placed.Pairwise (fun a b => SortField.Lexicographic q.sort a.1 b.1 ∨
        (∀ field ∈ q.sort, field.Ties a.1 b.1) ∧ a.2 < b.2) ∧
      s.select q = (placed.map Prod.fst).mapM (s.withRelations q) ∧
      (q.relations = [] → q.counts = [] → s.select q = .ok (placed.map Prod.fst)) := by
  rcases Rows.matching_zipIdx q.predicate s.records with ⟨record, member, e, failed, undecided⟩ | decided
  · refine .inl ⟨record, member, e, failed, ?_⟩
    rw [select, rows, undecided]
    rfl
  · -- The places in the store go along with the records, so that ties are told by them.
    generalize chosen : s.records.zipIdx.filter _ = found at decided ⊢
    have sub : found.Sublist s.records.zipIdx := chosen ▸ List.filter_sublist
    have stood : found.Pairwise fun a b => a.2 < b.2 := by
      apply List.Pairwise.sublist sub
      rw [← List.pairwise_map, List.zipIdx_map_snd]
      exact List.pairwise_lt_range'
    have ordered' : ∀ field ∈ q.sort, field.Orders (found.map Prod.fst) := by
      intro field member
      apply (ordered field member).subset
      rw [← List.zipIdx_map_fst 0 s.records]
      exact (sub.map Prod.fst).subset
    obtain ⟨placed, run, perm, ranked⟩ := SortField.exists_sorted ordered' stood
    have selected : s.rows q = .ok (found.map Prod.fst) := by
      rw [rows, decided, single]
      rfl
    have whole : Rows.cut q.offset q.limit (placed.map Prod.fst) = placed.map Prod.fst := by
      rw [unlimited, fromStart, Rows.cut_none]
    refine .inr ⟨placed, perm, ranked, ?_, fun relations counts => ?_⟩
    · rw [select, selected]
      simp only [bind, Except.bind, run, whole]
    · rw [select_bare s relations counts, selected]
      simp only [bind, Except.bind, run, whole]
      rfl

theorem select_lexicographic_mixed :
    let record (id : Int) (team : String) (age : Value) : Record :=
      [("id", .int id), ("team", .str team), ("age", age)]
    let s : EntityStore := {
      entity := "user"
      records := [record 1 "b" (.int 30), record 2 "a" (.int 30), record 3 "c" .null, record 4 "a" .null,
        record 5 "b" (.int 30)] }
    let q : QueryState := {
      wheres := [.field "team" .neq [.str "c"]], sort := [⟨"team", .asc⟩, ⟨"age", .desc⟩, ⟨"team", .desc⟩] }
    (∀ field ∈ q.sort, field.Orders s.records) ∧ q.groupBy = [] ∧ q.limit = none ∧ q.offset = none ∧
      ∃ placed : List (Record × Nat), s.select q = .ok (placed.map Prod.fst) ∧
        Value.sameAll (placed.map fun entry => idOf entry.1) [.int 4, .int 2, .int 1, .int 5] = true ∧
        placed.Pairwise fun a b => SortField.Lexicographic q.sort a.1 b.1 ∨
          (∀ field ∈ q.sort, field.Ties a.1 b.1) ∧ a.2 < b.2 := by
  intro record s q
  have texts : SortField.Orders ⟨"team", .asc⟩ s.records := by
    apply Value.totallyOrdered_str.subset
    rintro v ⟨-, row, member, rfl⟩
    simp only [s, List.mem_cons, List.not_mem_nil, or_false] at member
    rcases member with rfl | rfl | rfl | rfl | rfl
    · exact ⟨"b", rfl⟩
    · exact ⟨"a", rfl⟩
    · exact ⟨"c", rfl⟩
    · exact ⟨"a", rfl⟩
    · exact ⟨"b", rfl⟩
  have numbers : SortField.Orders ⟨"age", .desc⟩ s.records := by
    apply Value.totallyOrdered_int.subset
    rintro v ⟨null, row, member, rfl⟩
    simp only [s, List.mem_cons, List.not_mem_nil, or_false] at member
    rcases member with rfl | rfl | rfl | rfl | rfl
    · exact ⟨30, rfl⟩
    · exact ⟨30, rfl⟩
    · cases null
    · cases null
    · exact ⟨30, rfl⟩
  have texts' : SortField.Orders ⟨"team", .desc⟩ s.records := texts
  have ordered : ∀ field ∈ q.sort, field.Orders s.records := by simp [q, texts, numbers, texts']
  have run : (s.select q).toOption.map (fun rows =>
      Value.sameAll (rows.map idOf) [.int 4, .int 2, .int 1, .int 5]) = some true := by decide +kernel
  obtain ⟨rows, selected, ids⟩ := Option.map_eq_some_iff.1 run
  replace selected := of_toOption selected
  refine ⟨ordered, rfl, rfl, rfl, ?_⟩
  rcases select_lexicographic ordered rfl rfl rfl with ⟨_, _, e, _, failed⟩ | ⟨placed, -, ranked, -, all⟩
  · cases selected.symm.trans failed
  · cases selected.symm.trans (all rfl rfl)
    exact ⟨placed, selected, by simpa [List.map_map, Function.comp_def] using ids, ranked⟩

end EntityStore

end QueryCache
