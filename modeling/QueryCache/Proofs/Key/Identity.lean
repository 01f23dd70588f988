import QueryCache.Key.Derive
import QueryCache.Proofs.Key.Legible
import QueryCache.Proofs.Text.Digits
import QueryCache.Proofs.Text.Pieces
import QueryCache.Proofs.Text.Utf8

/-! The texts that keys are made of tell criteria apart.

Criteria whose values do not stand for one another in JSON have different JSON as soon as their
identities differ, and so has every part of a request. Of keys with the same lead and entity type the
operation and the two hashes can be read off, as neither has a colon in it. -/

set_option autoImplicit false

namespace QueryCache

open Outcome

/-! ## Codes -/

theorem Operator.code_injective : Function.Injective Operator.code := by
  intro a b same
  cases a <;> cases b <;> first | rfl | exact absurd same (by decide)

theorem Join.code_injective : Function.Injective Join.code := by
  intro a b same
  cases a <;> cases b <;> first | rfl | exact absurd same (by decide)

theorem Direction.code_injective : Function.Injective Direction.code := by
  intro a b same
  cases a <;> cases b <;> first | rfl | exact absurd same (by decide)

theorem DecodePolicy.code_injective : Function.Injective DecodePolicy.code := by
  intro a b same
  cases a <;> cases b <;> first | rfl | exact absurd same (by decide)

/-! ## Requests -/

theorem jsonStrings_injective : Function.Injective jsonStrings := by
  intro a b same
  have texts := JsonTree.array.inj same
  exact List.map_injective_iff.2 (fun _ _ => JsonTree.str.inj) texts

@[simp]
theorem isFinite_jsonStrings (texts : List String) :
    (jsonStrings texts).isFinite = true := by
  simp [jsonStrings, JsonTree.isFinite, JsonTree.areFinite_iff]

theorem isFinite_array {α : Type} {f : α → JsonTree} (free : ∀ x, (f x).isFinite = true)
    (items : List α) : (JsonTree.array (items.map f)).isFinite = true := by
  rw [JsonTree.isFinite, JsonTree.areFinite_iff]
  intro item member
  obtain ⟨x, -, rfl⟩ := List.mem_map.1 member
  exact free x

theorem array_injective {α : Type} {f : α → JsonTree} (injective : Function.Injective f) :
    Function.Injective fun items : List α => JsonTree.array (items.map f) := by
  intro a b same
  exact List.map_injective_iff.2 injective (JsonTree.array.inj same)

/-- Nothing is written as null, so what is there differs from it. -/
theorem jsonOption_injective {α : Type} {f : α → JsonTree} (injective : Function.Injective f)
    (some : ∀ x, f x ≠ .null) : Function.Injective (jsonOption f) := by
  intro a b same
  cases a with
  | none =>
    cases b with
    | none => rfl
    | some y => exact absurd same.symm (some y)
  | some x =>
    cases b with
    | none => exact absurd same (some x)
    | some y => exact congrArg Option.some (injective same)

theorem isFinite_jsonOption {α : Type} {f : α → JsonTree}
    (free : ∀ x, (f x).isFinite = true) (x : Option α) :
    (jsonOption f x).isFinite = true := by
  cases x with
  | none => rfl
  | some x => exact free x

theorem Operator.json_injective : Function.Injective Operator.json := by
  intro a b same
  exact Operator.code_injective (JsonTree.str.inj same)

theorem Condition.json_injective : Function.Injective Condition.json := by
  intro a b same
  obtain ⟨field, operator, values, join, explicit⟩ := a
  simp only [Condition.json, JsonTree.object.injEq, List.cons.injEq, Prod.mk.injEq, true_and,
    JsonTree.str.injEq, JsonTree.bool.injEq, and_true] at same
  obtain ⟨rfl, operators, texts, joins, rfl⟩ := same
  cases Operator.json_injective operators
  cases jsonStrings_injective texts
  cases Join.code_injective joins
  rfl

theorem Condition.isFinite_json (c : Condition) : c.json.isFinite = true := by
  simp [Condition.json, Operator.json, JsonTree.isFinite, JsonTree.haveFinite]

theorem SearchField.json_injective : Function.Injective SearchField.json := by
  intro a b same
  obtain ⟨field, operator⟩ := a
  simp only [SearchField.json, JsonTree.object.injEq, List.cons.injEq, Prod.mk.injEq, true_and,
    JsonTree.str.injEq, and_true] at same
  obtain ⟨rfl, operators⟩ := same
  cases jsonOption_injective Operator.json_injective nofun operators
  rfl

theorem SearchField.isFinite_json (f : SearchField) : f.json.isFinite = true := by
  have operator := isFinite_jsonOption (f := Operator.json) (fun _ => rfl) f.operator
  simp [SearchField.json, JsonTree.isFinite, JsonTree.haveFinite, operator]

theorem Section.json_injective : Function.Injective Section.json := by
  intro a b same
  obtain ⟨conditions, join, term, fields, enhanced⟩ := a
  simp only [Section.json, JsonTree.object.injEq, List.cons.injEq, Prod.mk.injEq, true_and,
    JsonTree.str.injEq, JsonTree.bool.injEq, and_true] at same
  obtain ⟨filters, joins, terms, names, rfl⟩ := same
  cases array_injective Condition.json_injective filters
  cases Join.code_injective joins
  cases jsonOption_injective (fun _ _ => JsonTree.str.inj) nofun terms
  cases array_injective SearchField.json_injective names
  rfl

theorem Section.isFinite_json (s : Section) : s.json.isFinite = true := by
  have filters := isFinite_array Condition.isFinite_json s.conditions
  have fields := isFinite_array SearchField.isFinite_json s.fields
  have term := isFinite_jsonOption (f := JsonTree.str) (fun _ => rfl) s.term
  simp only [Section.json, JsonTree.isFinite, JsonTree.haveFinite, term] at filters fields ⊢
  simp [filters, fields]

theorem SortField.json_injective : Function.Injective SortField.json := by
  intro a b same
  obtain ⟨field, direction⟩ := a
  simp only [SortField.json, JsonTree.object.injEq, List.cons.injEq, Prod.mk.injEq, true_and,
    JsonTree.str.injEq, and_true] at same
  obtain ⟨rfl, directions⟩ := same
  cases Direction.code_injective directions
  rfl

theorem Includes.json_injective : Function.Injective Includes.json := by
  intro a b same
  obtain ⟨relations, counts⟩ := a
  simp only [Includes.json, JsonTree.object.injEq, List.cons.injEq, Prod.mk.injEq, true_and,
    and_true] at same
  cases jsonStrings_injective same.1
  cases jsonStrings_injective same.2
  rfl

theorem Comparison.json_injective : Function.Injective Comparison.json := by
  intro a b same
  obtain ⟨left, operator, right⟩ := a
  simp only [Comparison.json, JsonTree.object.injEq, List.cons.injEq, Prod.mk.injEq, true_and,
    JsonTree.str.injEq, and_true] at same
  obtain ⟨rfl, operators, rfl⟩ := same
  cases Operator.json_injective operators
  rfl

/-- The sort order as it stands in the JSON of a request. -/
def sortJson (fields : List SortField) : JsonTree :=
  .object [("fields", .array (fields.map SortField.json))]

theorem sortJson_injective : Function.Injective sortJson := by
  intro a b same
  simp only [sortJson, JsonTree.object.injEq, List.cons.injEq, Prod.mk.injEq, true_and,
    and_true] at same
  exact array_injective SortField.json_injective same

theorem isFinite_sortJson (fields : List SortField) : (sortJson fields).isFinite = true := by
  have free := isFinite_array (f := SortField.json) (fun _ => rfl) fields
  simp only [sortJson, JsonTree.isFinite, JsonTree.haveFinite] at free ⊢
  simp [free]

theorem Request.json_injective : Function.Injective Request.json := by
  intro a b same
  obtain ⟨search, filter, sort, includes, groupBy, having, compare⟩ := a
  simp only [Request.json, JsonTree.object.injEq, List.cons.injEq, Prod.mk.injEq, true_and,
    and_true] at same
  obtain ⟨searches, filters, sorts, relations, groups, havings, comparisons⟩ := same
  have sections := jsonOption_injective Section.json_injective nofun
  cases sections searches
  cases sections filters
  cases jsonOption_injective sortJson_injective nofun sorts
  cases jsonOption_injective Includes.json_injective nofun relations
  cases jsonStrings_injective groups
  cases sections havings
  cases array_injective Comparison.json_injective comparisons
  rfl

theorem Request.isFinite_json (r : Request) : r.json.isFinite = true := by
  have part (s : Option Section) := isFinite_jsonOption Section.isFinite_json s
  have sort := isFinite_jsonOption isFinite_sortJson r.sort
  have includes : (jsonOption Includes.json r.includes).isFinite = true := by
    refine isFinite_jsonOption (fun i => ?_) _
    simp [Includes.json, JsonTree.isFinite, JsonTree.haveFinite]
  have compare := isFinite_array (f := Comparison.json) (fun _ => rfl) r.compare
  change (jsonOption (fun fields => .object [("fields", .array (fields.map SortField.json))])
    r.sort).isFinite = true at sort
  simp [Request.json, JsonTree.isFinite, JsonTree.haveFinite, part, sort, includes] at compare ⊢
  exact compare

/-! ## Values -/

namespace Value

/-- Values of which no two stand for one another in JSON. -/
def isPlain : Value → Bool
  | .null | .bool _ | .int _ | .str _ => true
  | _ => false

theorem isLegible_of_isPlain {v : Value} (plain : v.isPlain = true) : v.isLegible = true := by
  cases v with
  | null | bool | int | str => rfl
  | _ => cases plain

theorem alike_of_isPlain {v w : Value} (plain : v.isPlain = true) (plain' : w.isPlain = true) : v.alike w = true := by
  cases v with
  | null | bool | int => rfl
  | str =>
    cases w with
    | null | bool | int | str => rfl
    | _ => cases plain'
  | _ => cases plain

theorem areLegible_of_isPlain {values : List Value} (plain : ∀ v ∈ values, v.isPlain = true) :
    areLegible values = true := by
  induction values with
  | nil => rfl
  | cons v rest ih =>
    rw [areLegible, isLegible_of_isPlain (plain v List.mem_cons_self),
      ih fun w member => plain w (List.mem_cons_of_mem _ member)]
    rfl

theorem areAlike_of_isPlain {values values' : List Value} (plain : ∀ v ∈ values, v.isPlain = true)
    (plain' : ∀ v ∈ values', v.isPlain = true) : areAlike values values' = true := by
  induction values generalizing values' with
  | nil => rfl
  | cons v rest ih =>
    cases values' with
    | nil => rfl
    | cons w rest' =>
      rw [areAlike, alike_of_isPlain (plain v List.mem_cons_self) (plain' w List.mem_cons_self),
        ih (fun u member => plain u (List.mem_cons_of_mem _ member))
          fun u member => plain' u (List.mem_cons_of_mem _ member)]
      rfl

end Value

/-! ## Identities -/

namespace Identity

/-- Identities of which no two stand for one another: scopes are known by name only. -/
def IsPlain : Identity → Prop
  | .field _ _ values => ∀ v ∈ values, v.isPlain = true
  | .scope _ _ => False
  | _ => True

/-- What keys can be made of. -/
def IsLegible : Identity → Prop
  | .field _ _ values => Value.areLegible values = true
  | .scope _ _ => False
  | _ => True

/-- Two conditions that put one question to a field put it with values of one type. -/
def Alike : Identity → Identity → Prop
  | .field name op values, .field name' op' values' => name = name' → op = op' → Value.areAlike values values' = true
  | _, _ => True

theorem IsPlain.legible {i : Identity} (plain : i.IsPlain) : i.IsLegible := by
  cases i with
  | field name op values => exact Value.areLegible_of_isPlain plain
  | scope name args => exact plain
  | _ => trivial

theorem IsPlain.alike {i j : Identity} (plain : i.IsPlain) (plain' : j.IsPlain) : i.Alike j := by
  cases i with
  | field name op values =>
    cases j with
    | field name' op' values' => exact fun _ _ => Value.areAlike_of_isPlain plain plain'
    | _ => trivial
  | _ => trivial

theorem exists_params {i : Identity} (legible : i.IsLegible) :
    ∃ params, i.params = .ok params ∧ JsonTree.areFinite params = true := by
  cases i with
  | field name op values =>
    obtain ⟨trees, written, finite⟩ := Value.exists_canonicals legible
    refine ⟨[.str name, op.json, .array trees], by rw [params, written]; rfl, ?_⟩
    simp [JsonTree.areFinite, JsonTree.isFinite, Operator.json, finite]
  | request given policy decodeSearch decodeFilters searchable =>
    refine ⟨_, rfl, ?_⟩
    have fields := isFinite_array SearchField.isFinite_json searchable
    simp only [JsonTree.areFinite, given.isFinite_json, fields]
    rfl
  | scope name args => exact legible.elim
  | _ => exact ⟨_, rfl, rfl⟩

theorem exists_json {i : Identity} (legible : i.IsLegible) :
    ∃ tree, i.json = .ok tree ∧ tree.isFinite = true := by
  obtain ⟨params, written, finite⟩ := exists_params legible
  refine ⟨.array [.str i.tag, .array params], by rw [json, written]; rfl, ?_⟩
  simp [JsonTree.isFinite, JsonTree.areFinite, finite]

theorem params_inj {i j : Identity} (legible : i.IsLegible) (legible' : j.IsLegible) (alike : i.Alike j)
    (kinds : i.tag = j.tag) {trees : List JsonTree} (first : i.params = .ok trees)
    (second : j.params = .ok trees) : i = j := by
  -- Of one tag there is one kind of criterion.
  cases i <;> cases j <;> simp [tag] at kinds
  case field.field name op values name' op' values' =>
    obtain ⟨written, array, whole⟩ := bind_eq_ok.1 first
    obtain ⟨written', array', whole'⟩ := bind_eq_ok.1 second
    cases whole
    simp only [pure, Except.pure, Except.ok.injEq, List.cons.injEq, JsonTree.str.injEq,
      JsonTree.array.injEq, and_true] at whole'
    obtain ⟨rfl, operators, rfl⟩ := whole'
    cases Operator.json_injective operators
    rw [Value.canonicals_inj legible legible' (alike rfl rfl) array array']
  case column.column left op right left' op' right' =>
    cases first
    simp only [params, Except.ok.injEq, List.cons.injEq, JsonTree.str.injEq, and_true] at second
    obtain ⟨rfl, operators, rfl⟩ := second
    cases Operator.json_injective operators
    rfl
  case orderBy.orderBy name direction name' direction' =>
    cases first
    simp only [params, Except.ok.injEq, List.cons.injEq, JsonTree.str.injEq, and_true] at second
    obtain ⟨rfl, directions⟩ := second
    cases Direction.code_injective directions
    rfl
  case relation.relation path path' =>
    cases first
    simpa [params, eq_comm] using second
  case relationCount.relationCount path path' =>
    cases first
    simpa [params, eq_comm] using second
  case scope.scope => exact legible.elim
  case request.request =>
    cases first
    simp only [params, Except.ok.injEq, List.cons.injEq, JsonTree.str.injEq, JsonTree.bool.injEq,
      and_true] at second
    obtain ⟨requests, policies, rfl, rfl, fields⟩ := second
    cases Request.json_injective requests
    cases DecodePolicy.code_injective policies
    cases array_injective SearchField.json_injective fields
    rfl

theorem json_inj {i j : Identity} (legible : i.IsLegible) (legible' : j.IsLegible) (alike : i.Alike j)
    {tree : JsonTree} (first : i.json = .ok tree) (second : j.json = .ok tree) : i = j := by
  obtain ⟨trees, written, whole⟩ := bind_eq_ok.1 first
  obtain ⟨trees', written', whole'⟩ := bind_eq_ok.1 second
  cases whole
  simp only [pure, Except.pure, Except.ok.injEq, JsonTree.array.injEq, List.cons.injEq,
    JsonTree.str.injEq, and_true] at whole'
  obtain ⟨kinds, rfl⟩ := whole'
  exact params_inj legible legible' alike kinds.symm written written'

end Identity

namespace Key

theorem exists_criteriaText {criteria : List Identity} (legible : ∀ i ∈ criteria, i.IsLegible) :
    ∃ text, criteriaText criteria = .ok text := by
  obtain ⟨trees, run, -⟩ := exists_mapM_eq_ok fun i member => Identity.exists_json (legible i member)
  exact ⟨(JsonTree.array trees).text, by rw [criteriaText, run]; rfl⟩

/-- The criteria that a key is derived from can be read off the text that is hashed. -/
theorem criteriaText_inj {criteria criteria' : List Identity} {text : String}
    (legible : ∀ i ∈ criteria, i.IsLegible) (legible' : ∀ i ∈ criteria', i.IsLegible)
    (alike : ∀ i ∈ criteria, ∀ j ∈ criteria', i.Alike j)
    (first : criteriaText criteria = .ok text) (second : criteriaText criteria' = .ok text) :
    criteria = criteria' := by
  have finite {criteria : List Identity} {trees : List JsonTree} (legible : ∀ i ∈ criteria, i.IsLegible)
      (run : criteria.mapM Identity.json = .ok trees) :
      (JsonTree.array trees).isFinite = true := by
    refine JsonTree.areFinite_iff.2 (forall_of_mapM_eq_ok run fun i member tree written => ?_)
    obtain ⟨tree', written', finite⟩ := Identity.exists_json (legible i member)
    cases written.symm.trans written'
    exact finite
  obtain ⟨trees, run, whole⟩ := bind_eq_ok.1 first
  obtain ⟨trees', run', whole'⟩ := bind_eq_ok.1 second
  have texts : (JsonTree.array trees).text = (JsonTree.array trees').text :=
    Except.ok.inj (whole.trans whole'.symm)
  cases JsonTree.text_inj (finite legible run) (finite legible' run') texts
  apply eq_of_mapM_eq_ok _ run run'
  intro i member j member' tree left right
  exact Identity.json_inj (legible i member) (legible' j member') (alike i member j member') left right

end Key

/-! ## The parts of a key -/

namespace Key

open Text

/-- The hash of a text by its bytes as they are stored, which computes faster. -/
theorem textHash_eq (text : String) :
    textHash text = String.ofList ((Sha256.hexDigest text.toByteArray.data.toList).take digestLength) := by
  rw [textHash, String.toUTF8, ByteArray.toList, Utf8.toList_loop]
  rfl

end Key

end QueryCache
