import QueryCache.Proofs.Predicate.Leaves
import QueryCache.Proofs.Predicate.Reads

/-! Records that satisfy a predicate, told by its parts. -/

set_option autoImplicit false

namespace QueryCache

/-- All, or some, of the items. -/
def Join.Over {α : Type} (join : Join) (items : List α) (holds : α → Prop) : Prop :=
  match join with
  | .and => ∀ item ∈ items, holds item
  | .or => ∃ item ∈ items, holds item

theorem Join.over_congr {α β : Type} {R : α → β → Prop} {P : α → Prop} {Q : β → Prop} {xs : List α}
    {ys : List β} (pairs : List.Forall₂ R xs ys) (same : ∀ x y, R x y → (P x ↔ Q y)) (join : Join) :
    join.Over xs P ↔ join.Over ys Q := by
  induction pairs with
  | nil => cases join <;> simp [Over]
  | @cons x y xs ys first _ ih =>
    cases join <;> simp only [Over, List.forall_mem_cons, List.exists_mem_cons_iff] at ih ⊢ <;>
      rw [same x y first, ih]

namespace Predicate

variable {record : Value} {p : Predicate} {parts : List Predicate}

/-- Every leaf gives an answer. -/
def Evaluates (record : Value) (p : Predicate) : Prop := ∀ leaf ∈ p.leaves, ∃ b, leaf.holds record = .ok b

def Satisfied (record : Value) (p : Predicate) : Prop := p.holds record = .ok true

theorem evaluates_parts : (∀ leaf ∈ parts.flatMap leaves, ∃ b, leaf.holds record = .ok b) ↔
    ∀ part ∈ parts, part.Evaluates record := by
  simp only [List.mem_flatMap, Evaluates]
  constructor
  · intro each part member leaf found
    exact each leaf ⟨part, member, found⟩
  · rintro each leaf ⟨part, member, found⟩
    exact each part member leaf found

theorem exists_anyHolds (each : ∀ part ∈ parts, ∃ b, part.holds record = .ok b) :
    ∃ b, anyHolds record parts = .ok b := by
  induction parts with
  | nil => exact ⟨false, rfl⟩
  | cons part rest ih =>
    obtain ⟨b, answer⟩ := each part (by simp)
    obtain ⟨b', others⟩ := ih fun p member => each p (by simp [member])
    rw [anyHolds, answer]
    cases b with
    | false => exact ⟨b', others⟩
    | true => exact ⟨true, rfl⟩

theorem exists_holds (evaluates : p.Evaluates record) : ∃ b, p.holds record = .ok b := by
  induction p using byParts with
  | field | column | never => exact evaluates _ (List.mem_singleton.2 rfl)
  | not part ih =>
    rw [Evaluates, leaves_not] at evaluates
    obtain ⟨b, answer⟩ := ih evaluates
    exact ⟨!b, by rw [holds, answer]; rfl⟩
  | all parts ih =>
    rw [Evaluates, leaves_all, evaluates_parts] at evaluates
    exact exists_allHold fun part member => ih part member (evaluates part member)
  | any parts ih =>
    rw [Evaluates, leaves_any, evaluates_parts] at evaluates
    exact exists_anyHolds fun part member => ih part member (evaluates part member)

theorem satisfied_all : Satisfied record (.all parts) ↔ ∀ part ∈ parts, part.Satisfied record := by
  change allHold record parts = .ok true ↔ _
  induction parts with
  | nil => simp [allHold]
  | cons part rest ih =>
    rw [allHold, List.forall_mem_cons, ← ih, Satisfied, Outcome.bind_eq_ok]
    constructor
    · rintro ⟨b, answer, others⟩
      cases b with
      | true => exact ⟨answer, others⟩
      | false => cases others
    · rintro ⟨answer, others⟩
      exact ⟨true, answer, others⟩

-- Parts are looked at only as far as needed, but one that fails to answer would hide the next.
theorem satisfied_any (evaluates : ∀ part ∈ parts, part.Evaluates record) :
    Satisfied record (.any parts) ↔ ∃ part ∈ parts, part.Satisfied record := by
  change anyHolds record parts = .ok true ↔ _
  induction parts with
  | nil => simp [anyHolds]
  | cons part rest ih =>
    obtain ⟨b, answer⟩ := exists_holds (evaluates part (by simp))
    have others := ih fun p member => evaluates p (by simp [member])
    rw [anyHolds, List.exists_mem_cons_iff, ← others, Satisfied, answer]
    cases b with
    | true => exact ⟨fun _ => .inl rfl, fun _ => rfl⟩
    | false => exact ⟨.inr, fun found => found.resolve_left (by simp)⟩

theorem satisfied_not (evaluates : p.Evaluates record) : Satisfied record (.not p) ↔ ¬p.Satisfied record := by
  obtain ⟨b, answer⟩ := exists_holds evaluates
  rw [Satisfied, holds, Satisfied, answer]
  cases b <;> simp [Except.map]

theorem evaluates_combine {join : Join} :
    Evaluates record (combine parts join) ↔ ∀ part ∈ parts, part.Evaluates record := by
  rw [← evaluates_parts]
  unfold combine
  split
  · simp [Evaluates]
  · rw [Evaluates, leaves_any]
  · rw [Evaluates, leaves_all]

theorem satisfied_combine {join : Join} (evaluates : ∀ part ∈ parts, part.Evaluates record) :
    Satisfied record (combine parts join) ↔ join.Over parts (Satisfied record) := by
  unfold combine
  split
  · cases join <;> simp [Join.Over]
  · exact satisfied_any evaluates
  · exact satisfied_all

end Predicate

end QueryCache
