import QueryCache.Proofs.Predicate.Rendering

/-! What the texts of clauses are written with.

Values are bound and not written, so predicates that differ in their values only are rendered in the
same words. The words are those of the language of clauses, placeholders, and names of columns. -/

set_option autoImplicit false

namespace QueryCache

open Binding

/-! ## Values are not written -/

/-- The text of a clause and the names of its parameters. -/
def BoundClause.wording (made : BoundClause) : String × List String :=
  (made.clause.text, made.bindings.map (·.1))

namespace Predicate

mutual

/-- A predicate with nulls for its values. -/
def shape : Predicate → Predicate
  | .field name op values => .field name op (values.map fun _ => .null)
  | .all parts => .all (shapes parts)
  | .any parts => .any (shapes parts)
  | .not part => .not part.shape
  | .column left test right => .column left test right
  | .never => .never

def shapes : List Predicate → List Predicate
  | [] => []
  | part :: rest => part.shape :: shapes rest

end

/-- A rendering without the values that it binds. -/
def worded (work : Binding BoundClause) : Binding (Clause × List String) :=
  work >>= fun made => pure (made.clause, made.bindings.map (·.1))

def wordedAll (work : Binding (List Clause × Bindings)) : Binding (List Clause × List String) :=
  work >>= fun made => pure (made.1, made.2.map (·.1))

variable {context : SqlContext} {p p' : Predicate} {parts : List Predicate}

theorem worded_renderFirst (values : List Value) (clause : String → Clause) :
    worded (renderFirst values clause) = worded (renderFirst (values.map fun _ => .null) clause) := by
  cases values <;> simp [worded, renderFirst, first]

theorem worded_renderBetween (negated : Bool) (column : Column) (values : List Value) :
    worded (renderBetween negated column values) =
      worded (renderBetween negated column (values.map fun _ => .null)) := by
  match values with
  | [] | [_] | _ :: _ :: _ :: _ => rfl
  | [_, _] => simp [worded, renderBetween]

theorem worded_renderMember (negated : Bool) (column : Column) (values : List Value) :
    worded (renderMember negated column values) =
      worded (renderMember negated column (values.map fun _ => .null)) := by
  funext n
  -- An empty list gives a constant, so the clause is told by the count of the values alone.
  have told (values : List Value) : worded (renderMember negated column values) n =
      (.ok (if values.length = 0 then .constant negated else .member negated column (namesFrom n values.length),
        namesFrom n values.length), n + values.length) := by
    rw [worded, Attempt.bind_ok (renderMember_eq negated column values n), map_fst_bound]
    rfl
  rw [told, told, List.length_map]

theorem worded_renderField (column : Column) (op : Operator) (values : List Value) :
    worded (renderField column op values) = worded (renderField column op (values.map fun _ => .null)) := by
  cases op with
  | eq | neq | gt | gte | lt | lte | like | dateEquals => exact worded_renderFirst values _
  | between | notBetween | dateBetween => exact worded_renderBetween _ _ values
  | isIn | notIn => exact worded_renderMember _ column values
  | isNull | isNotNull => rfl

theorem wordedAll_cons (part : Predicate) (rest : List Predicate) :
    wordedAll (renderAll context (part :: rest)) = do
      let first ← worded (render context part)
      let others ← wordedAll (renderAll context rest)
      return (first.1 :: others.1, first.2 ++ others.2) := by
  simp [wordedAll, worded, renderAll]

theorem worded_all (part : Predicate) (rest : List Predicate) :
    worded (render context (.all (part :: rest))) = do
      let joined ← wordedAll (renderAll context (part :: rest))
      return (.all joined.1, joined.2) := by
  simp [worded, wordedAll, render_all]

theorem worded_any (part : Predicate) (rest : List Predicate) :
    worded (render context (.any (part :: rest))) = do
      let joined ← wordedAll (renderAll context (part :: rest))
      return (.any joined.1, joined.2) := by
  simp [worded, wordedAll, render_any]

theorem worded_not (part : Predicate) : worded (render context (.not part)) = do
    let inner ← worded (render context part)
    return (.not inner.1, inner.2) := by
  simp [worded, render]

theorem wordedAll_shapes (each : ∀ part ∈ parts, worded (render context part) = worded (render context part.shape)) :
    wordedAll (renderAll context parts) = wordedAll (renderAll context (shapes parts)) := by
  induction parts with
  | nil => rfl
  | cons part rest ih =>
    rw [shapes, wordedAll_cons, wordedAll_cons, each part (by simp), ih fun p member => each p (by simp [member])]

/-- A predicate is rendered in the words that its shape is rendered in. -/
theorem worded_shape (p : Predicate) : worded (render context p) = worded (render context p.shape) := by
  induction p using byParts with
  | field name op values => exact worded_renderField _ op values
  | column | never => rfl
  | not part ih => rw [shape, worded_not, worded_not, ih]
  | all parts ih =>
    -- Without parts the clause is a constant, and nothing is joined.
    cases parts with
    | nil => rfl
    | cons part rest =>
      rw [shape, shapes, worded_all, worded_all, wordedAll_shapes ih, shapes]
  | any parts ih =>
    cases parts with
    | nil => rfl
    | cons part rest =>
      rw [shape, shapes, worded_any, worded_any, wordedAll_shapes ih, shapes]

/-- What a rendering does, the values that it binds apart. -/
def wording (context : SqlContext) (p : Predicate) (n : Nat) : Except Failure (String × List String) × Nat :=
  let run := render context p n
  (run.1.map BoundClause.wording, run.2)

theorem wording_eq_of_shape (same : p.shape = p'.shape) (n : Nat) : wording context p n = wording context p' n := by
  have read (p : Predicate) : wording context p n =
      ((worded (render context p) n).1.map fun told => (told.1.text, told.2), (worded (render context p) n).2) := by
    rw [worded, Attempt.map_eq, wording]
    cases (render context p n).1 <;> rfl
  rw [read, read, worded_shape p, same, ← worded_shape p']

end Predicate

/-! ## What is written -/

namespace Clause

/-- The characters that stand between the words of a clause. -/
def marks : List Char := [' ', '(', ')', ',']

def keywords : List String :=
  ["AND", "OR", "NOT", "IN", "BETWEEN", "LIKE", "IS", "NULL", "DATE", "=", "!=", ">", ">=", "<", "<="]

/-- The words of clauses over columns of some names. -/
inductive Word (isName : String → Prop) : String → Prop
  | keyword {word : String} : word ∈ keywords → Word isName word
  | constant {word : String} : word ≠ "" → (∀ c ∈ word.toList, c.isDigit = true) → Word isName word
  | placeholder (n : Nat) : Word isName (":p" ++ toString n)
  | name {name : String} : isName name → Word isName name

/-- A text is made of words with marks between any two of them. -/
inductive Spelled (isWord : String → Prop) : List Char → Prop
  | nothing : Spelled isWord []
  | word {word : String} : isWord word → Spelled isWord word.toList
  | apart {before after : List Char} {mark : Char} : Spelled isWord before → mark ∈ marks →
    Spelled isWord after → Spelled isWord (before ++ mark :: after)

namespace Spelled

variable {isWord : String → Prop} {text before after : List Char}

theorem blank (spelled : Spelled isWord before) (spelled' : Spelled isWord after) :
    Spelled isWord (before ++ ' ' :: after) := .apart spelled (by decide) spelled'

theorem call (spelled : Spelled isWord before) (inner : Spelled isWord text) :
    Spelled isWord (before ++ '(' :: (text ++ [')'])) :=
  .apart spelled (by decide) (.apart inner (by decide) .nothing)

theorem enclosed (inner : Spelled isWord text) : Spelled isWord ('(' :: (text ++ [')'])) :=
  .call .nothing inner

theorem intercalate {mark : List Char} (glue : ∀ {before after}, Spelled isWord before → Spelled isWord after →
      Spelled isWord (before ++ mark ++ after))
    {pieces : List (List Char)} (each : ∀ piece ∈ pieces, Spelled isWord piece) :
    Spelled isWord (mark.intercalate pieces) := by
  induction pieces with
  | nil => exact .nothing
  | cons piece rest ih =>
    rw [List.forall_mem_cons] at each
    cases rest with
    | nil => simpa using each.1
    | cons next rest =>
      rw [List.intercalate_cons_cons]
      exact glue each.1 (ih each.2)

end Spelled

variable {isName : String → Prop} {column : Column}

theorem spelled_keyword {word : String} (member : word ∈ keywords) : Spelled (Word isName) word.toList :=
  .word (.keyword member)

theorem spelled_sign (test : Comparator) : Spelled (Word isName) test.sign.toList := by
  apply spelled_keyword
  cases test <;> decide

theorem spelled_param (n : Nat) : Spelled (Word isName) (':' :: (paramName n).toList) := by
  have text : ':' :: (paramName n).toList = (":p" ++ toString n).toList := by
    rw [paramName, String.toList_append, String.toList_append]
    rfl
  rw [text]
  exact .word (.placeholder n)

theorem spelled_column (named : isName column.name) : Spelled (Word isName) column.text.toList := by
  have name : Spelled (Word isName) column.name.toList := .word (.name named)
  rw [Column.text]
  split
  · have text : ("DATE(" ++ column.name ++ ")").toList = "DATE".toList ++ '(' :: (column.name.toList ++ [')']) := by
      simp
    rw [text]
    exact .call (spelled_keyword (by decide)) name
  · exact name

theorem spelled_constant (holds : Bool) : Spelled (Word isName) (Clause.constant holds).text.toList := by
  have shape : (Clause.constant holds).text.toList =
      "1".toList ++ ' ' :: ("=".toList ++ ' ' :: (if holds then "1" else "0").toList) := by
    cases holds <;> rfl
  have one : Spelled (Word isName) "1".toList := .word (.constant (by decide) (by simp))
  have last : Spelled (Word isName) (if holds then "1" else "0").toList := by
    cases holds <;> exact .word (.constant (by decide) (by simp))
  rw [shape]
  exact one.blank ((spelled_keyword (by decide)).blank last)

theorem spelled_compare (named : isName column.name) (test : Comparator) (n : Nat) :
    Spelled (Word isName) (Clause.compare column test (paramName n)).text.toList := by
  have shape : (Clause.compare column test (paramName n)).text.toList =
      column.text.toList ++ ' ' :: (test.sign.toList ++ ' ' :: (':' :: (paramName n).toList)) := by
    simp [text]
  rw [shape]
  exact (spelled_column named).blank ((spelled_sign test).blank (spelled_param n))

theorem spelled_like (named : isName column.name) (n : Nat) :
    Spelled (Word isName) (Clause.like column (paramName n)).text.toList := by
  have shape : (Clause.like column (paramName n)).text.toList =
      column.text.toList ++ ' ' :: ("LIKE".toList ++ ' ' :: (':' :: (paramName n).toList)) := by
    simp [text]
  rw [shape]
  exact (spelled_column named).blank ((spelled_keyword (by decide)).blank (spelled_param n))

/-- NOT may stand before the rest of a clause. -/
theorem spelled_negation (negated : Bool) {rest : List Char} (spelled : Spelled (Word isName) rest) :
    Spelled (Word isName) ((negation negated).toList ++ rest) := by
  cases negated with
  | false => exact spelled
  | true =>
    have split : (negation true).toList ++ rest = "NOT".toList ++ ' ' :: rest := by simp [negation]
    rw [split]
    exact (spelled_keyword (by decide)).blank spelled

theorem spelled_between (named : isName column.name) (negated : Bool) (n m : Nat) :
    Spelled (Word isName) (Clause.between negated column (paramName n) (paramName m)).text.toList := by
  have shape : (Clause.between negated column (paramName n) (paramName m)).text.toList =
      column.text.toList ++ ' ' :: ((negation negated).toList ++ ("BETWEEN".toList ++ ' ' ::
        (':' :: (paramName n).toList ++ ' ' :: ("AND".toList ++ ' ' :: (':' :: (paramName m).toList))))) := by
    simp [text]
  have range : Spelled (Word isName)
      (':' :: (paramName n).toList ++ ' ' :: ("AND".toList ++ ' ' :: (':' :: (paramName m).toList))) :=
    (spelled_param n).blank ((spelled_keyword (by decide)).blank (spelled_param m))
  rw [shape]
  apply (spelled_column named).blank
  apply spelled_negation negated
  exact (spelled_keyword (by decide)).blank range

theorem spelled_member (named : isName column.name) (negated : Bool) (n count : Nat) :
    Spelled (Word isName) (Clause.member negated column (namesFrom n count)).text.toList := by
  have shape : (Clause.member negated column (namesFrom n count)).text.toList =
      column.text.toList ++ ' ' :: ((negation negated).toList ++ ("IN".toList ++ ' ' :: ('(' ::
        ([','].intercalate ((namesFrom n count).map fun name => ':' :: name.toList) ++ [')'])))) := by
    simp [text, String.toList_intercalate, Function.comp_def]
  rw [shape]
  apply (spelled_column named).blank
  apply spelled_negation negated
  apply (spelled_keyword (by decide)).blank
  apply Spelled.enclosed
  apply Spelled.intercalate
  · intro before after first last
    simpa using first.apart (by decide : ',' ∈ marks) last
  · intro piece member
    simp only [namesFrom, List.map_map, List.mem_map, Function.comp_apply] at member
    obtain ⟨m, -, rfl⟩ := member
    exact spelled_param m

theorem spelled_null (named : isName column.name) (negated : Bool) :
    Spelled (Word isName) (Clause.null negated column).text.toList := by
  have shape : (Clause.null negated column).text.toList =
      column.text.toList ++ ' ' :: ("IS".toList ++ ' ' :: ((negation negated).toList ++ "NULL".toList)) := by
    simp [text]
  rw [shape]
  apply (spelled_column named).blank
  apply (spelled_keyword (by decide)).blank
  exact spelled_negation negated (spelled_keyword (by decide))

theorem spelled_columns (named : isName column.name) {other : Column} (named' : isName other.name)
    (test : Comparator) : Spelled (Word isName) (Clause.columns column test other).text.toList := by
  have shape : (Clause.columns column test other).text.toList =
      column.text.toList ++ ' ' :: (test.sign.toList ++ ' ' :: other.text.toList) := by
    simp [text]
  rw [shape]
  exact (spelled_column named).blank ((spelled_sign test).blank (spelled_column named'))

theorem spelled_not {part : Clause} (spelled : Spelled (Word isName) part.text.toList) :
    Spelled (Word isName) (Clause.not part).text.toList := by
  have shape : (Clause.not part).text.toList = "NOT".toList ++ ' ' :: ('(' :: (part.text.toList ++ [')'])) := by
    simp [text]
  rw [shape]
  exact (spelled_keyword (by decide)).blank spelled.enclosed

/-- Parts in parentheses with a keyword between two of them. -/
theorem spelled_enclosed {word : String} (member : word ∈ keywords) {parts : List Clause}
    (each : ∀ part ∈ parts, Spelled (Word isName) part.text.toList) :
    Spelled (Word isName) ((" " ++ word ++ " ").intercalate (Clause.enclosed parts)).toList := by
  rw [String.toList_intercalate]
  apply Spelled.intercalate
  · intro before after first last
    have split : before ++ (" " ++ word ++ " ").toList ++ after = before ++ ' ' :: (word.toList ++ ' ' :: after) := by
      simp
    rw [split]
    exact first.blank ((spelled_keyword member).blank last)
  · induction parts with
    | nil => simp [Clause.enclosed]
    | cons part rest ih =>
      rw [List.forall_mem_cons] at each
      have piece : ("(" ++ part.text ++ ")").toList = '(' :: (part.text.toList ++ [')']) := by simp
      rw [Clause.enclosed, List.map_cons, List.forall_mem_cons, piece]
      exact ⟨each.1.enclosed, ih each.2⟩

end Clause

namespace Predicate

open Clause

variable {context : SqlContext} {p : Predicate} {parts : List Predicate} {made : BoundClause} {n m : Nat}
  {isName : String → Prop}

theorem clause_of_renderFirst {values : List Value} {clause : String → Clause}
    (run : renderFirst values clause n = (.ok made, m)) : made.clause = clause (paramName n) := by
  cases values with
  | nil => cases run
  | cons value rest =>
    cases run
    rfl

theorem clause_of_renderBetween {negated : Bool} {column : Column} {values : List Value}
    (run : renderBetween negated column values n = (.ok made, m)) :
    made.clause = .between negated column (paramName n) (paramName (n + 1)) := by
  match values with
  | [] | [_] | _ :: _ :: _ :: _ => cases run
  | [_, _] =>
    cases run
    rfl

/-- Where a condition is rendered at all, its clause is the one of its operator. -/
theorem clause_of_renderField {column : Column} {op : Operator} {values : List Value}
    (run : renderField column op values n = (.ok made, m)) :
    made.clause = fieldClause column op n values.length := by
  cases op with
  | eq | neq | gt | gte | lt | lte | like | dateEquals => exact clause_of_renderFirst run
  | between | notBetween | dateBetween => exact clause_of_renderBetween run
  | isIn | notIn =>
    cases (renderMember_eq _ column values n).symm.trans run
    rfl
  | isNull | isNotNull =>
    cases run
    rfl

theorem spelled_fieldClause {column : Column} (named : isName column.name) (op : Operator) (n count : Nat) :
    Spelled (Word isName) (fieldClause column op n count).text.toList := by
  have day : isName ({ column with day := true } : Column).name := named
  cases op with
  | eq | neq | gt | gte | lt | lte => exact spelled_compare named _ n
  | dateEquals => exact spelled_compare day _ n
  | like => exact spelled_like named n
  | between | notBetween => exact spelled_between named _ n (n + 1)
  | dateBetween => exact spelled_between day _ n (n + 1)
  | isNull | isNotNull => exact spelled_null named _
  | isIn | notIn =>
    rw [fieldClause]
    split
    · exact spelled_constant _
    · exact spelled_member named _ n count

theorem spelled_renderAll {clauses : List Clause} {bindings : Bindings}
    (each : ∀ part ∈ parts, ∀ {made n m}, render context part n = (.ok made, m) →
      Spelled (Word isName) made.clause.text.toList)
    (run : renderAll context parts n = (.ok (clauses, bindings), m)) :
    ∀ clause ∈ clauses, Spelled (Word isName) clause.text.toList := by
  induction parts generalizing n m clauses bindings with
  | nil =>
    cases run
    simp
  | cons part rest ih =>
    rw [renderAll] at run
    obtain ⟨first, t, here, run⟩ := Attempt.bind_eq_ok.1 run
    obtain ⟨⟨others, bindings'⟩, t', there, run⟩ := Attempt.bind_eq_ok.1 run
    cases run
    rw [List.forall_mem_cons] at each
    exact List.forall_mem_cons.2 ⟨each.1 here, ih each.2 there⟩

/-- What is rendered is written over the columns of the leaves. -/
theorem spelled_render (named : ∀ leaf ∈ p.leaves, ∀ field ∈ leaf.ownFields, isName (context.columnName field))
    (run : render context p n = (.ok made, m)) : Spelled (Word isName) made.clause.text.toList := by
  induction p using byParts generalizing n m made with
  | field name op values =>
    have own : isName (context.columnName name) :=
      named (.field name op values) (by simp [leaves]) name (by simp [ownFields])
    rw [clause_of_renderField run]
    exact spelled_fieldClause own op n _
  | column left test right =>
    have own := named (.column left test right) (by simp [leaves])
    cases run
    exact spelled_columns (own left (by simp [ownFields])) (own right (by simp [ownFields])) test
  | never =>
    cases run
    exact spelled_constant false
  | not part ih =>
    rw [leaves_not] at named
    rw [render] at run
    obtain ⟨inner, t, here, run⟩ := Attempt.bind_eq_ok.1 run
    cases run
    exact spelled_not (ih named here)
  | all parts ih =>
    rw [leaves_all] at named
    cases parts with
    | nil =>
      cases run
      exact spelled_constant true
    | cons part rest =>
      rw [render_all] at run
      obtain ⟨joined, t, here, run⟩ := Attempt.bind_eq_ok.1 run
      cases run
      have each := spelled_renderAll (fun p member _ _ _ => ih p member (leaves_of_parts named p member)) here
      exact spelled_enclosed (by decide : "AND" ∈ keywords) each
  | any parts ih =>
    rw [leaves_any] at named
    cases parts with
    | nil =>
      cases run
      exact spelled_constant false
    | cons part rest =>
      rw [render_any] at run
      obtain ⟨joined, t, here, run⟩ := Attempt.bind_eq_ok.1 run
      cases run
      have each := spelled_renderAll (fun p member _ _ _ => ih p member (leaves_of_parts named p member)) here
      exact spelled_enclosed (by decide : "OR" ∈ keywords) each

end Predicate

end QueryCache
