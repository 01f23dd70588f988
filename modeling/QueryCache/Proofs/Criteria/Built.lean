import QueryCache.Proofs.Criteria.Meaning
import QueryCache.Proofs.Predicate.Rendering
import QueryCache.Repository.Basic

/-! What a request puts into a query, leaf by leaf.

Every leaf comes from a condition, from a word of the term or from a comparison of the request. Besides its
leaves a request adds only what it says itself: its sort, its groups, their conditions and its relations. -/

set_option autoImplicit false

namespace QueryCache

open Outcome

namespace Predicate

@[simp]
theorem leaves_combine (parts : List Predicate) (join : Join) :
    (combine parts join).leaves = parts.flatMap leaves := by
  unfold combine
  split
  · simp
  · exact leaves_any parts
  · exact leaves_all parts

end Predicate

namespace QueryState

variable {P : Predicate → Prop} {q q' q'' : QueryState}

/-- Nothing but predicates is added to a query, and their leaves are of one kind. -/
def AddsLeaves (P : Predicate → Prop) (q q' : QueryState) : Prop :=
  ∃ added : List Predicate, (∀ leaf ∈ added.flatMap Predicate.leaves, P leaf) ∧
    q' = { q with wheres := q.wheres ++ added }

theorem AddsLeaves.refl (q : QueryState) : AddsLeaves P q q :=
  ⟨[], by simp, by simp⟩

theorem AddsLeaves.trans (first : AddsLeaves P q q') (second : AddsLeaves P q' q'') : AddsLeaves P q q'' := by
  obtain ⟨added, each, rfl⟩ := first
  obtain ⟨added', each', rfl⟩ := second
  refine ⟨added ++ added', ?_, by simp⟩
  intro leaf found
  rw [List.flatMap_append, List.mem_append] at found
  exact found.elim (each leaf) (each' leaf)

theorem AddsLeaves.one {p : Predicate} (each : ∀ leaf ∈ p.leaves, P leaf) : AddsLeaves P q (q.addPredicate p) :=
  ⟨[p], by simpa using each, rfl⟩

end QueryState

namespace RequestCriterion

open QueryState

variable {c : RequestCriterion} {part : Section} {default : Operator} {decode : Bool} {condition : Condition}
  {p : Predicate} {q q' : QueryState}

/-! ## Where leaves come from -/

/-- The sections of conditions, with their default operators and whether their identifiers are decoded. -/
inductive IsSection (c : RequestCriterion) : Section → Operator → Bool → Prop
  | search {part : Section} : c.request.search = some part → part.term = none →
    IsSection c part .like c.decodeSearch
  | filter {part : Section} : c.request.filter = some part → IsSection c part .eq c.decodeFilters

/-- The text that a word is looked for as. -/
def sought (op : Operator) (text : String) : String := if op = .like then containsPattern text else text

inductive LeafOf (c : RequestCriterion) : Predicate → Prop
  /-- An identifier stands for nothing. -/
  | never : LeafOf c .never
  | condition {part : Section} {default op : Operator} {decode : Bool} {condition : Condition}
    {values : List Value} : c.IsSection part default decode → condition ∈ part.conditions →
    op = c.operatorFor condition part ∨ c.operatorFor condition part = .like ∧ op = .eq →
    values.length = condition.values.length →
    c.leaf condition (c.operatorFor condition part) decode = .ok (.field condition.field op values) →
    LeafOf c (.field condition.field op values)
  | term {part : Section} {f : SearchField} {op : Operator} {tokens : List SearchToken} {token : SearchToken} :
    c.request.search = some part → part.term.isSome = true → f ∈ c.searched part → c.LookedForBy f op →
    part.tokens = .ok tokens → token ∈ tokens → LeafOf c (.field f.field op [.str (sought op token.text)])
  | comparison {comparison : Comparison} {test : Comparator} : comparison ∈ c.request.compare →
    comparison.operator.comparator? = some test → LeafOf c (.column comparison.left test comparison.right)

/-- The plain and the decoded form of a condition. -/
theorem leaf_cases {op : Operator} (made : c.leaf condition op decode = .ok p) :
    p = .never ∨ ∃ op' values, p = .field condition.field op' values ∧ (op' = op ∨ op = .like ∧ op' = .eq) ∧
      values.length = condition.values.length := by
  by_cases plain : decode = false ∨ c.transcoder = none ∨ condition.maybeEncodedId = false
  · rw [leaf_plain plain] at made
    cases made
    exact .inr ⟨op, _, rfl, .inl rfl, by split <;> simp⟩
  · obtain ⟨on, some, encoded⟩ : decode = true ∧ c.transcoder ≠ none ∧ condition.maybeEncodedId = true := by
      simpa using plain
    obtain ⟨transcoder, held⟩ := Option.ne_none_iff_exists'.1 some
    rw [leaf_decoded on held encoded] at made
    obtain ⟨found, run, rfl⟩ := map_eq_ok.1 made
    cases found with
    | none => exact .inl rfl
    | some values =>
      -- Decoding keeps the count of the values, and changes no operator but LIKE.
      refine .inr ⟨_, values, rfl, ?_, (decodeValues_eq_some.1 run).length_eq.symm⟩
      by_cases like : op = .like
      · exact .inr ⟨like, by simp [like]⟩
      · exact .inl (by simp [like])

theorem leafOf_leaf (asked : c.IsSection part default decode) (member : condition ∈ part.conditions)
    (made : c.leaf condition (c.operatorFor condition part) decode = .ok p) : ∀ leaf ∈ p.leaves, c.LeafOf leaf := by
  rcases leaf_cases made with rfl | ⟨op, values, rfl, compared, count⟩
  · simpa [Predicate.leaves] using LeafOf.never
  · simpa [Predicate.leaves] using LeafOf.condition asked member compared count made

theorem addsLeaves_applySection (asked : c.IsSection part default decode)
    (applied : c.applySection part decode q = .ok q') : AddsLeaves c.LeafOf q q' := by
  obtain ⟨parts, made, applied⟩ := bind_eq_ok.1 applied
  have each : ∀ p ∈ parts, ∀ leaf ∈ p.leaves, c.LeafOf leaf := by
    refine forall_of_mapM_eq_ok made fun condition member p madeOne => ?_
    obtain ⟨-, -, madeOne⟩ := bind_eq_ok.1 madeOne
    exact leafOf_leaf asked member madeOne
  cases applied
  split
  · exact .refl q
  · refine .one fun leaf found => ?_
    rw [Predicate.leaves_combine, List.mem_flatMap] at found
    obtain ⟨p, member, found⟩ := found
    exact each p member leaf found

/-- The leaves of a text that is looked for in fields. -/
theorem leaves_across {fields : List (String × Operator)} {join : Join} {text : String} {leaf : Predicate}
    (found : leaf ∈ (across fields join text).leaves) :
    ∃ field ∈ fields, leaf = .field field.1 field.2 [.str (sought field.2 text)] := by
  rw [across, Predicate.leaves_combine, List.flatMap_map, List.mem_flatMap] at found
  obtain ⟨⟨name, op⟩, member, found⟩ := found
  exact ⟨(name, op), member, List.mem_singleton.1 found⟩

/-- Each leaf of the predicates of a term is one of a token. -/
theorem leaves_termParts {fields : List (String × Operator)} {join : Join} {tokens : List SearchToken}
    (member : p ∈ termParts fields join tokens) {leaf : Predicate} (found : leaf ∈ p.leaves) :
    ∃ join', ∃ token ∈ tokens, leaf ∈ (across fields join' token.text).leaves := by
  have ofMode {mode : TokenMode} {text : String}
      (member : text ∈ (tokens.filter fun t => t.mode == mode).map (·.text)) :
      ∃ token ∈ tokens, token.text = text := by
    obtain ⟨token, held, rfl⟩ := List.mem_map.1 member
    exact ⟨token, (List.mem_filter.1 held).1, rfl⟩
  have spread {mode : TokenMode} {join' : Join} {p : Predicate}
      (member : p ∈ ((tokens.filter fun t => t.mode == mode).map (·.text)).map (across fields join'))
      (found : leaf ∈ p.leaves) : ∃ join', ∃ token ∈ tokens, leaf ∈ (across fields join' token.text).leaves := by
    obtain ⟨text, among, rfl⟩ := List.mem_map.1 member
    obtain ⟨token, held, rfl⟩ := ofMode among
    exact ⟨join', token, held, found⟩
  simp only [termParts, List.mem_append] at member
  rcases member with (optional | required) | excluded
  · split at optional
    · cases optional
    · rw [List.mem_singleton.1 optional, Predicate.leaves_combine, List.mem_flatMap] at found
      obtain ⟨p, member, found⟩ := found
      exact spread member found
  · exact spread required found
  · obtain ⟨text, among, rfl⟩ := List.mem_map.1 excluded
    obtain ⟨token, held, rfl⟩ := ofMode among
    exact ⟨.or, token, held, by simpa using found⟩

theorem looked_of_termFields {fields : List (String × Operator)} (found : c.termFields part = .ok fields) :
    ∀ field ∈ fields, ∃ f ∈ c.searched part, field.1 = f.field ∧ c.LookedForBy f field.2 := by
  -- Fields and operators stand side by side, so the induction is on the two lists at once.
  have pairs := of_termFields found
  clear found
  generalize c.searched part = searched at pairs
  induction pairs with
  | nil => simp
  | cons first _ ih =>
    intro field member
    rcases List.mem_cons.1 member with rfl | member
    · exact ⟨_, by simp, first⟩
    · obtain ⟨f, inside, looked⟩ := ih field member
      exact ⟨f, by simp [inside], looked⟩

theorem addsLeaves_applyTerm (held : c.request.search = some part) (term : part.term.isSome = true)
    (applied : c.applyTerm part q = .ok q') : AddsLeaves c.LeafOf q q' := by
  obtain ⟨fields, found, applied⟩ := bind_eq_ok.1 applied
  obtain ⟨tokens, split, applied⟩ := bind_eq_ok.1 applied
  have split := mapError_eq_ok.1 split
  cases applied
  split
  · exact .refl q
  · refine .one fun leaf inside => ?_
    rw [Predicate.leaves_combine, List.mem_flatMap] at inside
    obtain ⟨p, member, inside⟩ := inside
    obtain ⟨join, token, among, inside⟩ := leaves_termParts member inside
    obtain ⟨field, chosen, rfl⟩ := leaves_across inside
    obtain ⟨f, searched, same, looked⟩ := looked_of_termFields found field chosen
    rw [same]
    exact .term held term searched looked split among

theorem addsLeaves_applyComparison {comparison : Comparison} (member : comparison ∈ c.request.compare)
    (applied : c.applyComparison q comparison = .ok q') : AddsLeaves c.LeafOf q q' := by
  obtain ⟨-, -, applied⟩ := bind_eq_ok.1 applied
  obtain ⟨-, -, applied⟩ := bind_eq_ok.1 applied
  obtain ⟨p, made, rfl⟩ := map_eq_ok.1 applied
  unfold Predicate.compareColumns at made
  split at made
  · next test named =>
    cases made
    refine .one fun leaf found => ?_
    rw [List.mem_singleton.1 found]
    exact .comparison member named
  · cases made

/-! ## The whole request -/

theorem mem_leaves_havings {request : Request} {leaf : Predicate}
    (found : leaf ∈ (havings request).flatMap Predicate.leaves) :
    ∃ part, request.having = some part ∧ ∃ condition ∈ part.conditions,
      leaf = .field condition.field condition.operator (condition.values.map .str) := by
  unfold havings at found
  cases held : request.having with
  | none =>
    rw [held] at found
    cases found
  | some part =>
    rw [held, Option.elim_some, onGroups] at found
    split at found
    · cases found
    · rw [List.flatMap_singleton, Predicate.leaves_combine, List.flatMap_map, List.mem_flatMap] at found
      obtain ⟨condition, member, found⟩ := found
      exact ⟨part, rfl, condition, member, List.mem_singleton.1 found⟩

/-- A request adds predicates to a query, and then its shape. -/
theorem of_apply (applied : c.apply q = .ok q') :
    ∃ added : List Predicate, (∀ leaf ∈ added.flatMap Predicate.leaves, c.LeafOf leaf) ∧
      q' = applyShape c.request { q with wheres := q.wheres ++ added } := by
  obtain ⟨q₁, q₂, q₃, searched, filtered, compared, rfl⟩ := stages_of_apply applied
  have search : AddsLeaves c.LeafOf q q₁ := by
    cases held : c.request.search with
    | none =>
      rw [held] at searched
      cases searched
      exact .refl q
    | some part =>
      rw [held, Option.elim_some, applySearch] at searched
      split at searched
      · next term => exact addsLeaves_applyTerm held term searched
      · next bare => exact addsLeaves_applySection (.search held (by simpa using bare)) searched
  have filter : AddsLeaves c.LeafOf q₁ q₂ := by
    cases held : c.request.filter with
    | none =>
      rw [held] at filtered
      cases filtered
      exact .refl q₁
    | some part =>
      rw [held] at filtered
      exact addsLeaves_applySection (.filter held) filtered
  have compare : AddsLeaves c.LeafOf q₂ q₃ := by
    apply of_foldlM_eq_ok (P := AddsLeaves c.LeafOf q₂) compared (.refl q₂)
    exact fun comparison member q q' before applied => before.trans (addsLeaves_applyComparison member applied)
  obtain ⟨added, each, rfl⟩ := (search.trans filter).trans compare
  exact ⟨added, each, rfl⟩

/-- What a request asks where nothing was asked before it. -/
theorem leaves_of_apply (applied : c.apply {} = .ok q) :
    (∀ leaf ∈ q.predicate.leaves, c.LeafOf leaf) ∧ q.havings = havings c.request := by
  obtain ⟨added, each, rfl⟩ := of_apply applied
  have built := bare_applyShape c.request { wheres := [] ++ added }
  have wheres := congrArg QueryState.wheres built
  have groups := congrArg QueryState.havings built
  simp only [bare, List.nil_append] at wheres groups
  constructor
  · rw [QueryState.predicate, List.nil_append, wheres, Predicate.leaves_all]
    exact each
  · exact groups

end RequestCriterion

end QueryCache
