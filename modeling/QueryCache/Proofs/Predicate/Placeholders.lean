import QueryCache.Proofs.Predicate.Rendering
import Mathlib.Data.List.Nodup
import Mathlib.Data.List.TakeWhile

/-! Placeholders in the texts of clauses.

The placeholders of clauses that are rendered one after the other, read off their texts from left to
right, are the names that follow on each other, each bound to the value that is met at its place. -/

set_option autoImplicit false

namespace QueryCache

open Binding

/-- A text in which no placeholder can begin. -/
def Colonless (text : String) : Prop := ':' ∉ text.toList

instance (text : String) : Decidable (Colonless text) := inferInstanceAs (Decidable (_ ∉ _))

theorem Colonless.append {first last : String} (free : Colonless first) (free' : Colonless last) :
    Colonless (first ++ last) := by
  rw [Colonless, String.toList_append, List.mem_append, not_or]
  exact ⟨free, free'⟩

namespace Clause

-- Every kind of clause has its text unfolded below; the equations are made once, before the proofs run.
attribute [local simp] text enclosed

/-- What the name of a parameter is made of. -/
def isNameChar (c : Char) : Bool := c.isAlphanum || c == '_'

/-- The names that stand behind the colons of a text. -/
def placeholdersIn : List Char → List String
  | [] => []
  | c :: rest =>
    if c = ':' then String.ofList (rest.takeWhile isNameChar) :: placeholdersIn rest
    else placeholdersIn rest

/-- The placeholders of a clause, from left to right. -/
def placeholders (c : Clause) : List String := placeholdersIn c.text.toList

/-- No name goes on in a text. -/
def Stops (text : List Char) : Prop := ∀ c ∈ text.head?, isNameChar c = false

theorem stops_nil : Stops [] := by
  intro c found
  cases found

/-- A text starts with a character that no name has. -/
def Breaks (text : List Char) : Prop := (text.head?.any fun c => !isNameChar c) = true

instance (text : List Char) : Decidable (Breaks text) := inferInstanceAs (Decidable (_ = _))

theorem Breaks.append {mark : List Char} (breaks : Breaks mark) (rest : List Char) : Stops (mark ++ rest) := by
  cases mark with
  | nil => cases breaks
  | cons c mark =>
    intro d found
    cases found
    simpa [Breaks] using breaks

theorem Breaks.stops {mark : List Char} (breaks : Breaks mark) : Stops mark := by
  simpa using breaks.append []

theorem takeWhile_append_of_stops {rest : List Char} (stops : Stops rest) (text : List Char) :
    (text ++ rest).takeWhile isNameChar = text.takeWhile isNameChar := by
  induction text with
  | nil =>
    cases rest with
    | nil => rfl
    | cons c rest => rw [List.nil_append, List.takeWhile_cons, stops c rfl]; rfl
  | cons c text ih => rw [List.cons_append, List.takeWhile_cons, List.takeWhile_cons, ih]

theorem placeholdersIn_append {rest : List Char} (stops : Stops rest) (text : List Char) :
    placeholdersIn (text ++ rest) = placeholdersIn text ++ placeholdersIn rest := by
  induction text with
  | nil => rfl
  | cons c text ih =>
    rw [List.cons_append, placeholdersIn, placeholdersIn, ih, takeWhile_append_of_stops stops]
    split <;> rfl

/-- Text without a colon has no placeholder and ends none. -/
theorem placeholdersIn_free {text : List Char} (free : ':' ∉ text) (rest : List Char) :
    placeholdersIn (text ++ rest) = placeholdersIn rest := by
  induction text with
  | nil => rfl
  | cons c text ih =>
    have other : c ≠ ':' := fun same => free (by simp [same])
    rw [List.cons_append, placeholdersIn, if_neg other, ih fun found => free (by simp [found])]

theorem isNameChar_of_mem_paramName {n : Nat} {c : Char} (member : c ∈ (paramName n).toList) :
    isNameChar c = true := by
  rw [toList_paramName] at member
  rcases List.mem_cons.1 member with rfl | digit
  · rfl
  · have decimal : c.isDigit = true := Nat.isDigit_of_mem_toDigits (by decide) (by decide) digit
    simp [isNameChar, Char.isAlphanum, decimal]

theorem colon_not_mem_paramName (n : Nat) : ':' ∉ (paramName n).toList :=
  fun found => absurd (isNameChar_of_mem_paramName found) (by decide)

theorem placeholdersIn_param (n : Nat) {rest : List Char} (stops : Stops rest) :
    placeholdersIn (':' :: (paramName n).toList ++ rest) = paramName n :: placeholdersIn rest := by
  have whole : (paramName n).toList.takeWhile isNameChar = (paramName n).toList :=
    List.takeWhile_eq_self_iff.2 fun c member => isNameChar_of_mem_paramName member
  rw [List.cons_append, placeholdersIn, if_pos rfl, takeWhile_append_of_stops stops, whole,
    String.ofList_toList, placeholdersIn_free (colon_not_mem_paramName n)]

/-- Pieces between marks that end every name. -/
theorem placeholdersIn_intercalate {mark : List Char} (breaks : Breaks mark) (free : ':' ∉ mark)
    (pieces : List (List Char)) :
    placeholdersIn (mark.intercalate pieces) = pieces.flatMap placeholdersIn := by
  induction pieces with
  | nil => rfl
  | cons piece rest ih =>
    cases rest with
    | nil => simp
    | cons next rest =>
      have split : (piece :: next :: rest).flatMap placeholdersIn =
          placeholdersIn piece ++ (next :: rest).flatMap placeholdersIn := List.flatMap_cons
      rw [List.intercalate_cons_cons, List.append_assoc, placeholdersIn_append (breaks.append _),
        placeholdersIn_free free, ih, split]

theorem colonless_sign (test : Comparator) : Colonless test.sign := by
  cases test <;> decide

theorem colonless_negation (negated : Bool) : Colonless (negation negated) := by
  cases negated <;> decide

theorem colonless_column {column : Column} (free : Colonless column.name) : Colonless column.text := by
  rw [Column.text]
  split
  · exact (Colonless.append (by decide) free).append (by decide)
  · exact free

/-- A parameter behind text without placeholders. -/
theorem placeholdersIn_behind {before : String} (free : Colonless before) (n : Nat) {rest : List Char}
    (stops : Stops rest) :
    placeholdersIn ((before ++ ":" ++ paramName n).toList ++ rest) = paramName n :: placeholdersIn rest := by
  rw [String.toList_append, String.toList_append, List.append_assoc, List.append_assoc,
    placeholdersIn_free free]
  exact placeholdersIn_param n stops

theorem placeholdersIn_last {before : String} (free : Colonless before) (n : Nat) :
    placeholdersIn (before ++ ":" ++ paramName n).toList = [paramName n] := by
  have whole := placeholdersIn_behind free n stops_nil
  rwa [List.append_nil] at whole

/-- A text in parentheses, behind text without placeholders. -/
theorem placeholdersIn_parenthesized {before : String} (free : Colonless before) (inner : String) :
    placeholdersIn (before ++ inner ++ ")").toList = placeholdersIn inner.toList := by
  have breaks : Breaks ")".toList := by decide
  rw [String.toList_append, String.toList_append, List.append_assoc, placeholdersIn_free free,
    placeholdersIn_append breaks.stops]
  exact List.append_nil _

/-- Parts in parentheses, with a mark between two of them that ends every name. -/
theorem placeholdersIn_enclosed {mark : String} (breaks : Breaks mark.toList) (free : Colonless mark)
    (parts : List Clause) :
    placeholdersIn (mark.intercalate (enclosed parts)).toList = parts.flatMap placeholders := by
  have pieces : enclosed parts = parts.map fun part => "(" ++ part.text ++ ")" := by
    induction parts with
    | nil => rw [enclosed, List.map_nil]
    | cons part rest ih => rw [enclosed, ih, List.map_cons]
  rw [String.toList_intercalate, placeholdersIn_intercalate breaks free, pieces, List.map_map, List.flatMap_map]
  exact List.flatMap_congr fun part _ => placeholdersIn_parenthesized (by decide) part.text

theorem placeholders_all (parts : List Clause) :
    (Clause.all parts).placeholders = parts.flatMap placeholders := by
  rw [placeholders, text]
  exact placeholdersIn_enclosed (by decide) (by decide) parts

theorem placeholders_any (parts : List Clause) :
    (Clause.any parts).placeholders = parts.flatMap placeholders := by
  rw [placeholders, text]
  exact placeholdersIn_enclosed (by decide) (by decide) parts

theorem placeholders_not (part : Clause) : (Clause.not part).placeholders = part.placeholders := by
  rw [placeholders, text]
  exact placeholdersIn_parenthesized (by decide) part.text

theorem placeholders_of_colonless {c : Clause} (free : Colonless c.text) : c.placeholders = [] := by
  have none := placeholdersIn_free free []
  rwa [List.append_nil] at none

variable {column : Column}

theorem placeholders_compare (free : Colonless column.name) (test : Comparator) (n : Nat) :
    (Clause.compare column test (paramName n)).placeholders = [paramName n] := by
  have before : Colonless (column.text ++ " " ++ test.sign ++ " ") :=
    (((colonless_column free).append (by decide)).append (colonless_sign test)).append (by decide)
  have shape : (Clause.compare column test (paramName n)).text =
      column.text ++ " " ++ test.sign ++ " " ++ ":" ++ paramName n := by
    rw [text, @String.append_assoc (column.text ++ " " ++ test.sign) " " ":"]
    rfl
  rw [placeholders, shape]
  exact placeholdersIn_last before n

theorem placeholders_like (free : Colonless column.name) (n : Nat) :
    (Clause.like column (paramName n)).placeholders = [paramName n] := by
  have before : Colonless (column.text ++ " LIKE ") := (colonless_column free).append (by decide)
  have shape : (Clause.like column (paramName n)).text = column.text ++ " LIKE " ++ ":" ++ paramName n := by
    rw [text, @String.append_assoc column.text " LIKE " ":"]
    rfl
  rw [placeholders, shape]
  exact placeholdersIn_last before n

theorem placeholders_between (free : Colonless column.name) (negated : Bool) (n m : Nat) :
    (Clause.between negated column (paramName n) (paramName m)).placeholders = [paramName n, paramName m] := by
  have before : Colonless (column.text ++ " " ++ negation negated ++ "BETWEEN ") :=
    (((colonless_column free).append (by decide)).append (colonless_negation negated)).append (by decide)
  have shape : (Clause.between negated column (paramName n) (paramName m)).text =
      column.text ++ " " ++ negation negated ++ "BETWEEN " ++ ":" ++ paramName n ++
        (" AND " ++ ":" ++ paramName m) := by
    rw [text, @String.append_assoc (column.text ++ " " ++ negation negated) "BETWEEN " ":",
      ← @String.append_assoc _ (" AND " ++ ":") (paramName m)]
    rfl
  have breaks : Breaks " AND ".toList := by decide
  have stops : Stops (" AND " ++ ":" ++ paramName m).toList := by
    rw [String.toList_append, String.toList_append, List.append_assoc]
    exact breaks.append _
  rw [placeholders, shape, String.toList_append, placeholdersIn_behind before n stops,
    placeholdersIn_last (by decide) m]

theorem placeholders_member (free : Colonless column.name) (negated : Bool) (n count : Nat) :
    (Clause.member negated column (namesFrom n count)).placeholders = namesFrom n count := by
  have before : Colonless (column.text ++ " " ++ negation negated ++ "IN (") :=
    (((colonless_column free).append (by decide)).append (colonless_negation negated)).append (by decide)
  have each (m : Nat) : placeholdersIn (":" ++ paramName m).toList = [paramName m] :=
    placeholdersIn_last (by decide : Colonless "") m
  rw [placeholders, text, placeholdersIn_parenthesized before, String.toList_intercalate,
    placeholdersIn_intercalate (by decide) (by decide), namesFrom, List.map_map, List.map_map, List.flatMap_map]
  rw [List.map_eq_flatMap]
  exact List.flatMap_congr fun m _ => each m

theorem placeholders_null (free : Colonless column.name) (negated : Bool) :
    (Clause.null negated column).placeholders = [] := by
  apply placeholders_of_colonless
  rw [text]
  exact (((colonless_column free).append (by decide)).append (colonless_negation negated)).append (by decide)

theorem placeholders_columns (free : Colonless column.name) {other : Column} (free' : Colonless other.name)
    (test : Comparator) : (Clause.columns column test other).placeholders = [] := by
  apply placeholders_of_colonless
  rw [text]
  exact ((((colonless_column free).append (by decide)).append (colonless_sign test)).append (by decide)).append
    (colonless_column free')

theorem placeholders_constant (holds : Bool) : (Clause.constant holds).placeholders = [] := by
  cases holds <;> decide

end Clause

/-- Neither the columns that fields are mapped to nor the table has a colon. -/
def SqlContext.Clear (context : SqlContext) : Prop :=
  (∀ entry ∈ context.mappings, Colonless entry.2) ∧ ∀ table ∈ context.table, Colonless table

instance (context : SqlContext) : Decidable context.Clear := inferInstanceAs (Decidable (_ ∧ _))

theorem SqlContext.Clear.columnName {context : SqlContext} (clear : context.Clear) {field : String}
    (free : Colonless field) : Colonless (context.columnName field) := by
  have name : Colonless ((context.mappings.lookup field).getD field) := by
    cases found : context.mappings.lookup field with
    | none => exact free
    | some column =>
      obtain ⟨before, after, whole, -⟩ := List.lookup_eq_some_iff.1 found
      exact clear.1 (field, column) (by simp [whole])
  rw [SqlContext.columnName]
  cases named : context.table with
  | none => exact name
  | some table =>
    have tableFree := clear.2 table named
    dsimp only
    split
    · exact name
    · exact (tableFree.append (by decide)).append name

namespace Predicate

open Clause

variable {context : SqlContext} {p : Predicate} {parts : List Predicate}

theorem placeholders_fieldClause {column : Column} (free : Colonless column.name) {name : String}
    {op : Operator} {values : List Value} (given : HasItsValues (.field name op values)) (n : Nat) :
    (fieldClause column op n values.length).placeholders = namesFrom n values.length := by
  have day : Colonless ({ column with day := true } : Column).name := free
  cases op with
  | eq | neq | gt | gte | lt | lte =>
    obtain ⟨v, rfl⟩ := given.one rfl (by simp)
    exact placeholders_compare free _ n
  | like =>
    obtain ⟨v, rfl⟩ := given.one rfl (by simp)
    exact placeholders_like free n
  | dateEquals =>
    obtain ⟨v, rfl⟩ := given.one rfl (by simp)
    exact placeholders_compare day _ n
  | between | notBetween =>
    obtain ⟨v, w, rfl⟩ := given.two rfl (by simp)
    exact placeholders_between free _ n (n + 1)
  | dateBetween =>
    obtain ⟨v, w, rfl⟩ := given.two rfl (by simp)
    exact placeholders_between day _ n (n + 1)
  | isIn | notIn =>
    cases values with
    | nil => exact placeholders_constant _
    | cons value rest => exact placeholders_member free _ n (rest.length + 1)
  | isNull | isNotNull =>
    rw [given.none rfl]
    exact placeholders_null free _

theorem placeholders_clausesFrom (each : ∀ part ∈ parts, ∀ n,
      (clauseFrom context n part).placeholders = namesFrom n part.values.length) (n : Nat) :
    (clausesFrom context n parts).flatMap placeholders = namesFrom n (parts.flatMap values).length := by
  induction parts generalizing n with
  | nil => rfl
  | cons part rest ih =>
    rw [clausesFrom, List.flatMap_cons, each part (by simp), ih fun p member => each p (by simp [member]),
      List.flatMap_cons, List.length_append, namesFrom_add]

theorem placeholders_clauseFrom_all (n : Nat) : (clauseFrom context n (.all parts)).placeholders =
    (clausesFrom context n parts).flatMap placeholders := by
  cases parts with
  | nil => exact placeholders_constant true
  | cons part rest => rw [clauseFrom, placeholders_all, clausesFrom]

theorem placeholders_clauseFrom_any (n : Nat) : (clauseFrom context n (.any parts)).placeholders =
    (clausesFrom context n parts).flatMap placeholders := by
  cases parts with
  | nil => exact placeholders_constant false
  | cons part rest => rw [clauseFrom, placeholders_any, clausesFrom]

theorem placeholders_clauseFrom (clear : context.Clear) (given : ∀ leaf ∈ p.leaves, leaf.HasItsValues)
    (free : ∀ leaf ∈ p.leaves, ∀ name ∈ leaf.ownFields, Colonless name) (n : Nat) :
    (clauseFrom context n p).placeholders = namesFrom n p.values.length := by
  induction p using byParts generalizing n with
  | field name op values =>
    have own : HasItsValues (.field name op values) := given _ (by simp [leaves])
    have named : Colonless name := free (.field name op values) (by simp [leaves]) name (by simp [ownFields])
    rw [values_field]
    exact placeholders_fieldClause (clear.columnName named) own n
  | column left test right =>
    have named : ∀ name ∈ [left, right], Colonless name :=
      free (.column left test right) (by simp [leaves])
    exact placeholders_columns (clear.columnName (named left (by simp)))
      (clear.columnName (named right (by simp))) test
  | never => exact placeholders_constant false
  | not part ih =>
    rw [clauseFrom, placeholders_not, values_not]
    rw [leaves_not] at given free
    exact ih given free n
  | all parts ih =>
    rw [leaves_all] at given free
    rw [placeholders_clauseFrom_all, values_all]
    apply placeholders_clausesFrom
    exact fun part member =>
      ih part member (leaves_of_parts given part member) (leaves_of_parts free part member)
  | any parts ih =>
    rw [leaves_any] at given free
    rw [placeholders_clauseFrom_any, values_any]
    apply placeholders_clausesFrom
    exact fun part member =>
      ih part member (leaves_of_parts given part member) (leaves_of_parts free part member)

/-- What is rendered of several predicates whose parameters are counted on from `n`. -/
def renderedFrom (context : SqlContext) (n : Nat) : List Predicate → List BoundClause
  | [] => []
  | part :: rest =>
    ⟨clauseFrom context n part, bound n part.values⟩ :: renderedFrom context (n + part.values.length) rest

theorem mapM_render_eq (given : ∀ leaf ∈ parts.flatMap leaves, leaf.HasItsValues) (n : Nat) :
    parts.mapM (render context) n =
      (.ok (renderedFrom context n parts), n + (parts.flatMap values).length) := by
  induction parts generalizing n with
  | nil => rfl
  | cons part rest ih =>
    rw [List.flatMap_cons, List.forall_mem_append] at given
    rw [List.mapM_cons, Attempt.bind_ok (render_eq given.1 n), Attempt.bind_ok (ih given.2 _),
      List.flatMap_cons, List.length_append, ← Nat.add_assoc]
    rfl

theorem toSqlShared_eq (given : ∀ leaf ∈ parts.flatMap leaves, leaf.HasItsValues) (n : Nat) :
    toSqlShared.go context parts n = (renderedFrom context n parts).map .ok := by
  induction parts generalizing n with
  | nil => rfl
  | cons part rest ih =>
    rw [List.flatMap_cons, List.forall_mem_append] at given
    have first : (render context part).run.run n = _ := render_eq given.1 n
    rw [toSqlShared.go, first]
    exact congrArg _ (ih given.2 _)

theorem bindings_renderedFrom (n : Nat) :
    (renderedFrom context n parts).flatMap (·.bindings) = bound n (parts.flatMap values) := by
  induction parts generalizing n with
  | nil => rfl
  | cons part rest ih => rw [renderedFrom, List.flatMap_cons, ih, List.flatMap_cons, bound_append]

theorem nodup_namesFrom (n count : Nat) : (namesFrom n count).Nodup :=
  List.Nodup.map paramName_injective List.nodup_range'

theorem placeholders_renderedFrom (clear : context.Clear)
    (free : ∀ leaf ∈ parts.flatMap leaves, ∀ name ∈ leaf.ownFields, Colonless name)
    (given : ∀ leaf ∈ parts.flatMap leaves, leaf.HasItsValues) (n : Nat) :
    ∀ one ∈ renderedFrom context n parts, one.clause.placeholders = one.bindings.map (·.1) := by
  induction parts generalizing n with
  | nil => simp [renderedFrom]
  | cons part rest ih =>
    rw [List.flatMap_cons, List.forall_mem_append] at free given
    rw [renderedFrom, List.forall_mem_cons]
    refine ⟨?_, ih free.2 given.2 _⟩
    rw [map_fst_bound]
    exact placeholders_clauseFrom clear given.1 free.1 n

/-- Predicates that are rendered one after the other share their count of parameters. -/
theorem placeholders_bound (clear : context.Clear)
    (free : ∀ leaf ∈ parts.flatMap leaves, ∀ name ∈ leaf.ownFields, Colonless name)
    (given : ∀ leaf ∈ parts.flatMap leaves, leaf.HasItsValues) (n : Nat) :
    let met := parts.flatMap values
    let names := namesFrom n met.length
    ∃ rendered : List BoundClause,
      toSqlShared.go context parts n = rendered.map .ok ∧
      parts.mapM (render context) n = (.ok rendered, n + met.length) ∧
      rendered.flatMap (·.clause.placeholders) = names ∧
      rendered.flatMap (·.bindings) = names.zip met ∧
      names.Nodup ∧
      ∀ one ∈ rendered, one.clause.placeholders = one.bindings.map (·.1) := by
  intro met names
  have keys := placeholders_renderedFrom clear free given n
  have bindings : (renderedFrom context n parts).flatMap (·.bindings) = bound n met := bindings_renderedFrom n
  refine ⟨renderedFrom context n parts, toSqlShared_eq given n, mapM_render_eq given n, ?_, bindings,
    nodup_namesFrom n _, keys⟩
  calc (renderedFrom context n parts).flatMap (·.clause.placeholders)
      = (renderedFrom context n parts).flatMap fun one => one.bindings.map (·.1) := List.flatMap_congr keys
    _ = ((renderedFrom context n parts).flatMap (·.bindings)).map (·.1) := List.map_flatMap.symm
    _ = names := by rw [bindings, map_fst_bound]

theorem placeholders_bound_nested :
    let context : SqlContext := { mappings := [("age", "years")], table := some "u" }
    let parts : List Predicate :=
      [.all [.field "age" .eq [.int 1], .not (.any [.field "name" .between [.str "a", .str "b"], .never])],
        .field "age" .notIn [], .any [.column "age" .lt "rank", .field "rank" .isIn [.int 2, .null]]]
    let met : List Value := [.int 1, .str "a", .str "b", .int 2, .null]
    let names := ["p9", "p10", "p11", "p12", "p13"]
    ∃ rendered : List BoundClause,
      toSqlShared.go context parts 9 = rendered.map .ok ∧
      parts.mapM (render context) 9 = (.ok rendered, 14) ∧
      rendered.flatMap (·.clause.placeholders) = names ∧
      rendered.flatMap (·.bindings) = names.zip met ∧
      names.Nodup ∧
      ∀ one ∈ rendered, one.clause.placeholders = one.bindings.map (·.1) :=
  placeholders_bound (by decide) (by decide) (by decide) 9

end Predicate

end QueryCache
