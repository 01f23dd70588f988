import QueryCache.Proofs.Criteria.Built
import QueryCache.Tag

/-! The conjuncts of a query's predicate, and the values that criteria say they pin fields to.

A criterion says so of what it was given, and not of the predicate that it becomes. The two agree where
no identifier is decoded, no term is looked for by equality, and no scope compares for equality. -/

set_option autoImplicit false

namespace QueryCache

open Outcome

namespace Predicate

variable {p : Predicate} {name : String} {op : Operator} {values : List Value}

mutual

/-- The predicates that all hold where a conjunction does, those of conjunctions inside it included. -/
def conjuncts : Predicate → List Predicate
  | .all parts => conjunctsOf parts
  | p => [p]

def conjunctsOf : List Predicate → List Predicate
  | [] => []
  | part :: rest => part.conjuncts ++ conjunctsOf rest

end

theorem conjunctsOf_eq_flatMap (parts : List Predicate) : conjunctsOf parts = parts.flatMap conjuncts := by
  induction parts with
  | nil => rfl
  | cons part rest ih => rw [conjunctsOf, ih, List.flatMap_cons]

@[simp]
theorem conjuncts_all (parts : List Predicate) : (Predicate.all parts).conjuncts = parts.flatMap conjuncts := by
  rw [conjuncts, conjunctsOf_eq_flatMap]

@[simp]
theorem conjuncts_field (name : String) (op : Operator) (values : List Value) :
    (Predicate.field name op values).conjuncts = [.field name op values] := by
  rw [conjuncts.eq_def]

theorem mem_leaves_of_conjunct (member : .field name op values ∈ p.conjuncts) :
    .field name op values ∈ p.leaves := by
  induction p using byParts with
  | all parts ih =>
    simp only [conjuncts_all, leaves_all, List.mem_flatMap] at member ⊢
    obtain ⟨part, inside, member⟩ := member
    exact ⟨part, inside, ih part inside member⟩
  | field | column | never | any | not =>
    rw [conjuncts.eq_def, List.mem_singleton] at member
    cases member
    all_goals simp [leaves]

end Predicate

namespace QueryState

/-- Predicates alone make up what a query asks of records. -/
theorem predicate_bare (q : QueryState) : q.bare.predicate = q.predicate := rfl

end QueryState

/-! ## Requests -/

namespace RequestCriterion

variable {c : RequestCriterion} {part : Section} {default : Operator} {decode : Bool} {condition : Condition}
  {q q' : QueryState} {name text : String} {v : Value}

/-- The values of a condition are taken for identifiers. -/
def Decodes (c : RequestCriterion) (decode : Bool) (condition : Condition) : Prop :=
  decode = true ∧ c.transcoder ≠ none ∧ condition.maybeEncodedId = true

/-- A condition that becomes `name = v` by decoding compares for equality with a text that is that of the
value in tags, and no word of a term is looked for by equality with the value in that field. -/
structure PinsAsWritten (c : RequestCriterion) (name : String) (v : Value) : Prop where
  decoded : ∀ part default decode, c.IsSection part default decode → ∀ condition ∈ part.conditions,
    c.Decodes decode condition →
      c.leaf condition (c.operatorFor condition part) decode = .ok (.field name .eq [v]) →
        c.operatorFor condition part = .eq ∧ condition.values = [Tag.valueText v]
  term : ∀ part tokens, c.request.search = some part → part.term.isSome = true → part.tokens = .ok tokens →
    ∀ f ∈ c.searched part, f.field = name → c.LookedForBy f .eq → ∀ token ∈ tokens, v ≠ .str token.text

/-- Without decoding a condition compares with its texts as they are. -/
theorem asWritten_of_plain {op : Operator} (plain : ¬ c.Decodes decode condition)
    (made : c.leaf condition op decode = .ok (.field name .eq [v])) :
    op = .eq ∧ condition.values = [Tag.valueText v] := by
  have off : decode = false ∨ c.transcoder = none ∨ condition.maybeEncodedId = false := by
    by_contra on
    exact plain (by simpa [Decodes] using on)
  rw [leaf_plain off, Except.ok.injEq, Predicate.field.injEq] at made
  obtain ⟨-, rfl, values⟩ := made
  rw [if_neg (by decide), List.map_eq_singleton_iff] at values
  obtain ⟨text, values, rfl⟩ := values
  exact ⟨rfl, values⟩

/-- A condition that compares for equality with one text is one of those that pin. -/
theorem mem_equalities {pinned : List (String × Value)} (asked : c.IsSection part default decode)
    (member : condition ∈ part.conditions) (equal : c.operatorFor condition part = .eq)
    (values : condition.values = [text]) (found : c.equalities = .ok pinned) :
    (condition.field, .str text) ∈ pinned := by
  obtain ⟨parts, run, same⟩ := bind_eq_ok.1 found
  cases same
  have held : part ∈ [c.request.filter, c.request.search].filterMap id := by
    cases asked with
    | search held | filter held => simp [held]
  obtain ⟨pins, inside, run⟩ := exists_of_mem_mapM run held
  obtain ⟨pin, among, made⟩ := exists_of_mem_mapM run (List.mem_filter.2 ⟨member, by simp [equal]⟩)
  rw [values] at made
  cases made
  exact List.mem_flatten_of_mem inside among

/-- What a request adds that compares a field for equality it says it pins, where it pins as written. -/
theorem pinned_of_leaf {pinned : List (String × Value)} (written : c.PinsAsWritten name v)
    (found : c.equalities = .ok pinned) (leaf : c.LeafOf (.field name .eq [v])) :
    ∃ w, (name, w) ∈ pinned ∧ Tag.valueText w = Tag.valueText v := by
  cases leaf with
  | @condition part default op decode condition values asked member _ _ made =>
    have ⟨equal, values⟩ : c.operatorFor condition part = .eq ∧ condition.values = [Tag.valueText v] := by
      by_cases decodes : c.Decodes decode condition
      · exact written.decoded _ _ _ asked _ member decodes made
      · exact asWritten_of_plain decodes made
    exact ⟨_, mem_equalities asked member equal values found, rfl⟩
  | term held term searched looked split among =>
    exact absurd rfl (written.term _ _ held term split _ searched rfl looked _ among)

theorem predicate_of_apply (applied : c.apply q = .ok q') :
    ∃ added : List Predicate, (∀ leaf ∈ added.flatMap Predicate.leaves, c.LeafOf leaf) ∧
      q'.predicate = .all (q.wheres ++ added) := by
  obtain ⟨added, each, rfl⟩ := of_apply applied
  exact ⟨added, each, congrArg Predicate.all (wheres_applyShape c.request _)⟩

end RequestCriterion

/-! ## Criteria -/

namespace Criterion

variable {c : Criterion} {q q' : QueryState} {name : String} {v : Value}

/-- A criterion pins a field to a value as it was given: a request as it is written, and a scope not
at all. -/
def PinsAsWritten (name : String) (v : Value) : Criterion → Prop
  | .request r => r.PinsAsWritten name v
  | .scope s => ∀ q q', s.run s.args q = .ok q' → .field name .eq [v] ∈ q'.predicate.conjuncts →
    .field name .eq [v] ∈ q.predicate.conjuncts
  | _ => True

/-- A conjunct that compares a field for equality was there before a criterion, or is one of what the
criterion says it pins. -/
theorem pinned_of_conjunct {pinned : List (String × Value)} (written : c.PinsAsWritten name v)
    (found : c.equalities = .ok pinned) (applied : c.apply q = .ok q')
    (conjunct : .field name .eq [v] ∈ q'.predicate.conjuncts) :
    .field name .eq [v] ∈ q.predicate.conjuncts ∨
      ∃ w, (name, w) ∈ pinned ∧ Tag.valueText w = Tag.valueText v := by
  -- A query with one more predicate has the conjuncts of that as well.
  have added {p : Predicate} (conjunct : .field name .eq [v] ∈ (q.addPredicate p).predicate.conjuncts) :
      .field name .eq [v] ∈ q.predicate.conjuncts ∨ .field name .eq [v] ∈ p.conjuncts := by
    simpa [QueryState.predicate, QueryState.addPredicate] using conjunct
  cases c with
  | field own op values =>
    cases applied
    refine (added conjunct).imp_right fun conjunct => ?_
    obtain ⟨rfl, rfl, rfl⟩ : name = own ∧ .eq = op ∧ [v] = values := by
      simpa using conjunct
    cases found
    exact ⟨v, List.mem_singleton.2 rfl, rfl⟩
  | column left op right =>
    obtain ⟨p, made, rfl⟩ := map_eq_ok.1 applied
    refine (added conjunct).imp_right fun conjunct => ?_
    unfold Predicate.compareColumns at made
    split at made
    · cases made
      simp [Predicate.conjuncts] at conjunct
    · cases made
  | orderBy =>
    cases applied
    exact .inl conjunct
  | relation path =>
    cases applied
    rw [← QueryState.predicate_bare, QueryState.bare_addRelation] at conjunct
    exact .inl conjunct
  | relationCount path =>
    cases applied
    rw [← QueryState.predicate_bare, QueryState.bare_addCount] at conjunct
    exact .inl conjunct
  | scope s => exact .inl (written q q' applied conjunct)
  | request r =>
    obtain ⟨parts, each, same⟩ := RequestCriterion.predicate_of_apply applied
    rw [same, Predicate.conjuncts_all, List.flatMap_append, List.mem_append] at conjunct
    rcases conjunct with before | conjunct
    · left
      rw [QueryState.predicate, Predicate.conjuncts_all]
      exact before
    · right
      obtain ⟨part, member, conjunct⟩ := List.mem_flatMap.1 conjunct
      have leaf := each _ (List.mem_flatMap.2 ⟨part, member, Predicate.mem_leaves_of_conjunct conjunct⟩)
      exact RequestCriterion.pinned_of_leaf written found leaf

end Criterion

/-- The tags of a query name each value that a conjunct of it equates a field with, where criteria pin as
they were given. -/
theorem Tag.value_mem_ofQuery {type name : String} {v : Value} {criteria : List Criterion} {q : QueryState}
    {tags : List String} (tagged : Tag.ofQuery type criteria = .ok tags)
    (built : criteria.foldlM (fun q c => c.apply q) {} = .ok q) (written : ∀ c ∈ criteria, c.PinsAsWritten name v)
    (conjunct : .field name .eq [v] ∈ q.predicate.conjuncts) :
    Tag.value type name v ∈ tags := by
  obtain ⟨parts, run, same⟩ := bind_eq_ok.1 tagged
  cases same
  simp only [mem_distinct, List.mem_cons]
  right
  revert conjunct
  refine of_foldlM_eq_ok (P := fun q => .field name .eq [v] ∈ q.predicate.conjuncts → _) built
    (fun conjunct => ?_) fun c member q q' before applied conjunct => ?_
  · simp [QueryState.predicate] at conjunct
  · obtain ⟨own, inside, made⟩ := exists_of_mem_mapM run member
    obtain ⟨pinned, found, same⟩ := bind_eq_ok.1 made
    cases same
    rcases Criterion.pinned_of_conjunct (written c member) found applied conjunct with conjunct | ⟨w, pins, text⟩
    · exact before conjunct
    · refine List.mem_flatten_of_mem inside (List.mem_append_right _ (List.mem_map.2 ⟨(name, w), pins, ?_⟩))
      simp only [Tag.value, text]

end QueryCache
