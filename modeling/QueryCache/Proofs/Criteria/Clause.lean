import QueryCache.Proofs.Criteria.WellFormed
import QueryCache.Proofs.Predicate.Wording

/-! The clause of a request holds none of its text but names of fields.

Names that stand in the request are identifiers. A term that names no fields is looked for in the
searchable ones, whose names the repository was given and nothing checks. -/

set_option autoImplicit false

namespace QueryCache

open Outcome

namespace Clause

variable {isWord : String → Prop} {text : List Char}

/-- A character that is in no word and no mark is in no text. -/
theorem Spelled.not_mem (spelled : Spelled isWord text) {c : Char} (unmarked : c ∉ marks)
    (free : ∀ word, isWord word → c ∉ word.toList) : c ∉ text := by
  induction spelled with
  | nothing => simp
  | @word word spelled => exact free word spelled
  | @apart before after mark _ member _ first last =>
    have other : c ≠ mark := fun same => unmarked (same ▸ member)
    simp [first, last, other]

theorem semicolon_not_mem {word : String}
    (spelled : Word (fun name => Request.isFieldName name.toList = true) word) : ';' ∉ word.toList := by
  cases spelled with
  | keyword member =>
    have each : ∀ word ∈ keywords, ';' ∉ word.toList := by decide
    exact each word member
  | constant _ digits => exact fun found => absurd (digits _ found) (by decide)
  | placeholder n =>
    intro found
    have name : (":p" ++ toString n).toList = ':' :: (Binding.paramName n).toList := by
      rw [Binding.paramName, String.toList_append, String.toList_append]
      rfl
    rw [name, Binding.toList_paramName] at found
    have digit : ';' ∈ Nat.toDigits 10 n := by simpa using found
    exact absurd (Nat.isDigit_of_mem_toDigits (by decide) (by decide) digit) (by decide)
  | name dotted =>
    intro found
    rcases Request.isWord_of_mem dotted found with same | word
    · exact absurd same (by decide)
    · exact absurd word (by decide)

end Clause

namespace RequestCriterion

variable {c : RequestCriterion} {q : QueryState}

/-- The names that the clause of a request may hold. -/
inductive MayName (c : RequestCriterion) : String → Prop
  | identifier {name : String} : Request.isFieldName name.toList = true → MayName c name
  | searchable {part : Section} {f : SearchField} : c.request.search = some part → part.term.isSome = true →
    part.fields = [] → f ∈ c.searchable → MayName c f.field

theorem LeafOf.mayName {leaf : Predicate} {enhanced : Bool} (readable : c.request.Readable enhanced)
    (found : c.LeafOf leaf) : ∀ name ∈ leaf.ownFields, c.MayName name := by
  cases found with
  | never => simp [Predicate.ownFields]
  | @condition part default op decode condition values asked member =>
    have named := ((asked.readable readable).2.1.conditions condition member).field
    simpa [Predicate.ownFields] using MayName.identifier named.dotted
  | @term part f op tokens token held term searched looked =>
    have name : c.MayName f.field := by
      unfold RequestCriterion.searched at searched
      split at searched
      · next spread => exact .searchable held term spread searched
      · exact .identifier ((readable.search part held).fields f searched).field.dotted
    simpa [Predicate.ownFields] using name
  | @comparison comparison test member named =>
    have read := readable.compare comparison member
    simpa [Predicate.ownFields] using
      And.intro (MayName.identifier (c := c) read.left.dotted) (MayName.identifier (c := c) read.right.dotted)

/-- Nothing of a request but identifiers is written into its clause, and values never are. -/
theorem spelled_clause :
    (∀ (context : SqlContext) (p p' : Predicate) (n : Nat), p.shape = p'.shape →
      p.wording context n = p'.wording context n) ∧
    ∀ (params : RequestParams) (names : ParamNames) (enhanced : Bool) (c : RequestCriterion) (q : QueryState),
      Request.parse params names enhanced = .ok c.request → c.apply {} = .ok q →
        (∀ made, q.toSql {} = .ok made → Clause.Spelled (Clause.Word c.MayName) made.clause.text.toList) ∧
        ((∀ f ∈ c.searchable, f.TakesOne) → ∃ made, q.toSql {} = .ok made) := by
  refine ⟨fun context p p' n same => Predicate.wording_eq_of_shape same n, ?_⟩
  intro params names enhanced c q parsed applied
  have readable := Request.readable_of_parse parsed
  obtain ⟨leaves, -⟩ := leaves_of_apply applied
  constructor
  · intro made rendered
    obtain ⟨next, run⟩ : ∃ next, Predicate.render {} q.predicate 0 = (.ok made, next) := ⟨_, Prod.ext rendered rfl⟩
    -- Without mappings and without a table a column is called as its field is.
    have own (name : String) : ({} : SqlContext).columnName name = name := rfl
    refine Predicate.spelled_render (fun leaf member field inside => ?_) run
    rw [own]
    exact (leaves leaf member).mayName readable field inside
  · intro allowed
    have formed := isWellFormed_of_apply readable allowed applied
    obtain ⟨made, run⟩ := Predicate.exists_render formed.wheres {} 0
    exact ⟨made, congrArg Prod.fst run⟩

theorem spelled_clause_mixed :
    let params : RequestParams := [("search", .str "x'); -\"--\""), ("searchFields", .str "name"),
      ("filter", .str "id:in:1) OR (1,2;created:dateBetween:0,9"), ("compare", .str "created:lte:updated")]
    let p : Predicate := .not (.any [.field "a" .isIn [.int 1, .null], .field "b" .like [.str "%"]])
    let p' : Predicate := .not (.any [.field "a" .isIn [.str ")", .str "--"], .field "b" .like [.str "'"]])
    let text := "((name LIKE :p0) AND (NOT (name LIKE :p1))) AND " ++
      "((id IN (:p2,:p3)) AND (DATE(created) BETWEEN :p4 AND :p5)) AND (created <= updated)"
    (∀ n, p.wording {} n = p'.wording {} n) ∧
      ∃ (c : RequestCriterion) (q : QueryState) (made : BoundClause), Request.parse params = .ok c.request ∧
        c.apply {} = .ok q ∧ q.toSql {} = .ok made ∧
        made.clause.text = text ∧ Clause.Spelled (Clause.Word c.MayName) made.clause.text.toList := by
  intro params p p' text
  obtain ⟨alike, each⟩ := spelled_clause
  refine ⟨fun n => alike {} p p' n rfl, ?_⟩
  have run : ((Request.parse params).toOption.bind fun request => (apply { request } {}).toOption.map fun q =>
      (q.toSql {}).toOption.map fun made => made.clause.text) = some (some text) := by decide +kernel
  obtain ⟨request, parsed, run⟩ := Option.bind_eq_some_iff.1 run
  obtain ⟨q, applied, run⟩ := Option.map_eq_some_iff.1 run
  obtain ⟨made, rendered, written⟩ := Option.map_eq_some_iff.1 run
  have spelled := (each params {} true { request } q (of_toOption parsed) (of_toOption applied)).1
  exact ⟨{ request }, q, made, of_toOption parsed, of_toOption applied, of_toOption rendered,
    written, spelled made (of_toOption rendered)⟩

/-- A searchable field may have any name, and a term is looked for in it under that name. -/
theorem unchecked_name_in_clause :
    let params : RequestParams := [("search", .str "ada")]
    ∃ (c : RequestCriterion) (q : QueryState) (made : BoundClause), Request.parse params = .ok c.request ∧
      SearchField.ofValue (.list [.str "a;b"]) = .ok c.searchable ∧ c.apply {} = .ok q ∧ q.toSql {} = .ok made ∧
      made.clause.text = "(a;b LIKE :p0)" ∧
      ¬Clause.Spelled (Clause.Word fun name => Request.isFieldName name.toList = true) made.clause.text.toList := by
  intro params
  have run : ((Request.parse params).toOption.bind fun request =>
      (apply { request, searchable := [⟨"a;b", none⟩] } {}).toOption.map fun q =>
        (q.toSql {}).toOption.map fun made => made.clause.text) = some (some "(a;b LIKE :p0)") := by
    decide +kernel
  obtain ⟨request, parsed, run⟩ := Option.bind_eq_some_iff.1 run
  obtain ⟨q, applied, run⟩ := Option.map_eq_some_iff.1 run
  obtain ⟨made, rendered, text⟩ := Option.map_eq_some_iff.1 run
  refine ⟨_, q, made, of_toOption parsed, rfl, of_toOption applied, of_toOption rendered, text, fun spelled => ?_⟩
  rw [text] at spelled
  exact spelled.not_mem (c := ';') (by decide) (fun _ => Clause.semicolon_not_mem) (by decide)

end RequestCriterion

end QueryCache
