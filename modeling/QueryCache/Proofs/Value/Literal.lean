import QueryCache.Proofs.Predicate.Likeness
import QueryCache.Proofs.Text.Nesting
import QueryCache.Proofs.Value.Symmetry
import QueryCache.Value.Field
import Std.Data.String.ToNat

/-! How values are written inside containers and messages.

A value is written so that it closes what it opens, as long as the names that stand in no quotes are plain.
Of two values that are the same and written alike the texts are the same as well, and the days. -/

set_option autoImplicit false

namespace QueryCache

open Text

/-! ## Words in brackets -/

theorem Text.closed_of_steady {text : List Char} (steady : Like.Steady text) : Closed text := by
  have all : Like.steady.all isNeutral = true := by decide
  exact closed_of_neutral fun c member => List.all_eq_true.1 all c (steady c member)

theorem Text.closed_quote (text : String) : Closed (quote text).toList := by
  rw [quote, String.toList_ofList]
  exact closed_quoted text.toList

/-- A text that is plain up to the bracket that it ends with. -/
def Text.isOpening (head : String) : Bool :=
  decide (Closed head.toList.dropLast) && head.toList.getLast?.any fun c => openers.contains c

/-- A list of words that a bracket opens and another closes. -/
theorem Text.closed_call {head closing : String} {words : List String} (opens : isOpening head = true)
    (closes : ∃ c ∈ closers, closing.toList = [c]) (closed : ∀ word ∈ words, Closed word.toList) :
    Closed (head ++ commaSeparated words ++ closing).toList := by
  rw [isOpening, Bool.and_eq_true, decide_eq_true_iff, Option.any_eq_true] at opens
  obtain ⟨plain, c, last, opener⟩ := opens
  obtain ⟨c', closer, closes⟩ := closes
  have parts : head.toList = head.toList.dropLast ++ [c] := by
    rw [List.dropLast_append_getLast? c last]
  have inner : ∀ text ∈ words.map String.toList, Closed text := List.forall_mem_map.2 closed
  have bracketed := closed_bracketed (by simpa using opener) closer inner
  rw [String.toList_append, String.toList_append, toList_commaSeparated, closes, parts]
  simpa using plain.append bracketed

theorem Text.closes_round : ∃ c ∈ closers, ")".toList = [c] := ⟨')', by decide, by decide⟩

theorem Text.closes_square : ∃ c ∈ closers, "]".toList = [c] := ⟨']', by decide, by decide⟩

theorem Text.closes_curly : ∃ c ∈ closers, "\x7d".toList = [c] := ⟨'\x7d', by decide, by decide⟩

theorem Text.closed_repr (n : Int) : Closed (toString n).toList := closed_of_steady (Like.steady_int n)

theorem Text.closed_nat (n : Nat) : Closed (toString n).toList := closed_repr (n : Int)

/-- A word with its name before it. -/
theorem Text.closed_named {name word : String} (plain : Closed name.toList) (closed : Closed word.toList) :
    Closed (name ++ word).toList := by
  rw [String.toList_append]
  exact plain.append closed

theorem DateTime.closed_zone {parts : List String} (closed : ∀ part ∈ parts, Closed part.toList) :
    Closed ("datetime.timezone(datetime.timedelta(" ++ commaSeparated parts ++ "))").toList := by
  have whole : "datetime.timezone(datetime.timedelta(" ++ commaSeparated parts ++ "))" =
      "datetime.timezone(" ++ commaSeparated ["datetime.timedelta(" ++ commaSeparated parts ++ ")"] ++ ")" := by
    apply String.toList_injective
    simp only [String.toList_append, toList_commaSeparated, List.map_cons, List.map_nil]
    simp [listed, List.intercalate]
  rw [whole]
  refine closed_call (by decide +kernel) closes_round (List.forall_mem_singleton.2 ?_)
  exact closed_call (by decide +kernel) closes_round closed

theorem DateTime.closed_offset (offset : Int) : Closed (offsetLiteral offset).toList := by
  unfold offsetLiteral
  split
  · decide
  · refine closed_zone ?_
    simp only [List.forall_mem_append]
    refine ⟨⟨?_, ?_⟩, ?_⟩ <;> split
    all_goals first
      | exact List.forall_mem_nil _
      | exact List.forall_mem_singleton.2 (closed_named (by decide) (closed_repr _))

namespace DateTime

/-- The fields that a time is written with. -/
def literalFields (t : DateTime) : List Nat :=
  [t.date.year, t.date.month, t.date.day, t.hour, t.minute] ++
    (if t.second = 0 ∧ t.micro = 0 then [] else [t.second]) ++ (if t.micro = 0 then [] else [t.micro])

def literalZone (t : DateTime) : List String := t.offset.toList.map fun offset => "tzinfo=" ++ offsetLiteral offset

theorem literal_eq (t : DateTime) : t.literal =
    "datetime.datetime(" ++ commaSeparated (t.literalFields.map toString ++ t.literalZone) ++ ")" := rfl

theorem closed_words (t : DateTime) : ∀ word ∈ t.literalFields.map toString ++ t.literalZone, Closed word.toList := by
  intro word member
  rcases List.mem_append.1 member with field | zone
  · obtain ⟨n, -, rfl⟩ := List.mem_map.1 field
    exact closed_nat n
  · obtain ⟨offset, -, rfl⟩ := List.mem_map.1 zone
    exact closed_named (by decide) (closed_offset offset)

theorem closed_literal (t : DateTime) : Closed t.literal.toList :=
  closed_call (by decide +kernel) closes_round t.closed_words

theorem head_repr_ne (n : Nat) : (toString n).toList.head? ≠ some 't' := by
  intro head
  have member := List.mem_of_mem_head? head
  rw [Nat.toString_eq_repr, Nat.toList_repr] at member
  exact absurd (Nat.isDigit_of_mem_toDigits (by decide) (by decide) member) (by decide)

/-- A word that starts with a letter is that of an offset. -/
theorem filter_words (t : DateTime) :
    (t.literalFields.map toString ++ t.literalZone).filter (fun word => word.toList.head? != some 't') =
      t.literalFields.map toString := by
  rw [List.filter_append, List.filter_eq_self.2, List.filter_eq_nil_iff.2, List.append_nil]
  · intro word member
    obtain ⟨offset, -, rfl⟩ := List.mem_map.1 member
    simp
  · intro word member
    obtain ⟨n, -, rfl⟩ := List.mem_map.1 member
    exact bne_iff_ne.2 (head_repr_ne n)

theorem literalFields_inj {s t : DateTime} (same : s.literalFields = t.literalFields) :
    s.date = t.date ∧ s.hour = t.hour ∧ s.minute = t.minute ∧ s.second = t.second ∧ s.micro = t.micro := by
  obtain ⟨⟨year, month, day⟩, hour, minute, second, micro, offset⟩ := s
  obtain ⟨⟨year', month', day'⟩, hour', minute', second', micro', offset'⟩ := t
  simp only [literalFields] at same
  simp only [Date.mk.injEq]
  -- How many fields there are tells which of the last two were dropped.
  split at same <;> split at same <;> split at same <;> split at same <;> simp_all

theorem literalFields_of_literal {s t : DateTime} (same : s.literal = t.literal) :
    s.literalFields = t.literalFields := by
  have words : (s.literalFields.map toString ++ s.literalZone).map String.toList =
      (t.literalFields.map toString ++ t.literalZone).map String.toList := by
    have chars := congrArg String.toList same
    simp only [literal_eq, String.toList_append, toList_commaSeparated, List.append_assoc] at chars
    have closes : ')' ∈ closers := by decide
    refine listed_inj (List.forall_mem_map.2 s.closed_words) (List.forall_mem_map.2 t.closed_words) closes closes ?_
      (List.append_cancel_left chars)
    simp [literalFields]
  have fields := congrArg (List.filter fun word => word.toList.head? != some 't')
    (List.map_injective_iff.2 (fun _ _ => String.toList_injective) words)
  rw [filter_words, filter_words] at fields
  exact List.map_injective_iff.2 (fun _ _ => Nat.repr_injective) fields

/-- Of a time at two offsets the two are written with different fields. -/
theorem eq_of_literal {s t : DateTime} (equal : s.equal t = true) (same : s.literal = t.literal) : s = t := by
  obtain ⟨date, hour, minute, second, micro⟩ := literalFields_inj (literalFields_of_literal same)
  have clock : s.localMicros = t.localMicros := by
    simp only [localMicros, date, hour, minute, second, micro]
  have offset : s.offset = t.offset := by
    obtain ⟨kind, place⟩ := (s.equal_iff t).1 equal
    unfold DateTime.place instant at place
    cases first : s.offset <;> cases second : t.offset
    case none.none => rfl
    case some.some =>
      simp only [first, second, Option.isSome_some, if_true, Option.getD_some, clock] at place
      exact congrArg some (by omega)
    all_goals simp [first, second] at kind
  cases s
  cases t
  simp only [DateTime.mk.injEq]
  exact ⟨date, hour, minute, second, micro, offset⟩

end DateTime

namespace Value

mutual

/-- Whether the names that stand in no quotes, of types, functions and attributes, are plain. -/
def isNamedPlainly : Value → Bool
  | .function path => path.toList.all isNeutral
  | .foreign type _ => type.toList.all isNeutral
  | .list items | .tuple items | .set items | .page items _ => areNamedPlainly items
  | .dict entries => entriesNamedPlainly entries
  | .object entries => entries.all (fun entry => entry.1.toList.all isNeutral) && entriesNamedPlainly entries
  | _ => true

def areNamedPlainly : List Value → Bool
  | [] => true
  | item :: rest => item.isNamedPlainly && areNamedPlainly rest

def entriesNamedPlainly : List (String × Value) → Bool
  | [] => true
  | (_, value) :: rest => value.isNamedPlainly && entriesNamedPlainly rest

end

theorem areNamedPlainly_iff {items : List Value} :
    areNamedPlainly items = true ↔ ∀ item ∈ items, item.isNamedPlainly = true := by
  induction items with
  | nil => simp [areNamedPlainly]
  | cons item rest ih => rw [areNamedPlainly, Bool.and_eq_true, ih, List.forall_mem_cons]

theorem entriesNamedPlainly_iff {entries : List (String × Value)} :
    entriesNamedPlainly entries = true ↔ ∀ entry ∈ entries, entry.2.isNamedPlainly = true := by
  induction entries with
  | nil => simp [entriesNamedPlainly]
  | cons entry rest ih => rw [entriesNamedPlainly, Bool.and_eq_true, ih, List.forall_mem_cons]

theorem literals_eq_map (items : List Value) : literals items = items.map literal := by
  induction items with
  | nil => rfl
  | cons item rest ih => rw [literals, ih, List.map_cons]

theorem entryLiterals_eq_map (mark : String) (entries : List (String × Value)) :
    entryLiterals mark entries = entries.map fun entry => quote entry.1 ++ mark ++ entry.2.literal := by
  induction entries with
  | nil => rfl
  | cons entry rest ih => rw [entryLiterals, ih, List.map_cons]

theorem attributeLiterals_eq_map (entries : List (String × Value)) :
    attributeLiterals entries = entries.map fun entry => entry.1 ++ "=" ++ entry.2.literal := by
  induction entries with
  | nil => rfl
  | cons entry rest ih => rw [attributeLiterals, ih, List.map_cons]

theorem closed_literals {items : List Value}
    (each : ∀ item ∈ items, item.isNamedPlainly = true → Closed item.literal.toList)
    (plain : areNamedPlainly items = true) : ∀ word ∈ literals items, Closed word.toList := by
  rw [literals_eq_map]
  exact List.forall_mem_map.2 fun item member => each item member (areNamedPlainly_iff.1 plain item member)

theorem closed_atom {v : Value} (atomic : v.isAtomic = true) (plain : v.isNamedPlainly = true) :
    Closed v.literal.toList := by
  cases v with
  | list | tuple | set | dict | object | page => cases atomic
  | null => decide
  | bool b => cases b <;> decide
  | int n => exact closed_repr n
  | float x => exact closed_of_steady (Like.steady_float x)
  | nan => exact closed_of_steady (Like.steady_float .nan)
  | str s => exact closed_quote s
  | bytes b =>
    have text : (Value.bytes b).literal.toList = quotedBytes b := String.toList_ofList
    rw [text]
    exact closed_quotedBytes b
  | date d =>
    refine closed_call (by decide +kernel) closes_round fun word member => ?_
    obtain ⟨n, -, rfl⟩ := List.mem_map.1 member
    exact closed_nat n
  | dateTime t => exact t.closed_literal
  | operator op => cases op <;> decide +kernel
  | names given =>
    refine closed_call (by decide +kernel) closes_round fun word member => ?_
    obtain ⟨field, inside, rfl⟩ := List.mem_map.1 member
    have names : ∀ name ∈ ({} : ParamNames).fields.map Prod.fst, Closed name.toList := by decide +kernel
    have among : field.1 ∈ given.fields.map Prod.fst := List.mem_map_of_mem inside
    have plain : Closed field.1.toList := names field.1 among
    rw [String.toList_append, String.toList_append]
    exact (plain.append (by decide)).append (closed_quote field.2)
  | function path =>
    have plain : Closed path.toList := closed_of_neutral (List.all_eq_true.1 plain)
    change Closed ("<function " ++ path ++ ">").toList
    rw [String.toList_append]
    exact (closed_named (by decide) plain).append (by decide)
  | foreign type serial =>
    have plain : Closed type.toList := closed_of_neutral (List.all_eq_true.1 plain)
    change Closed ("<" ++ type ++ " object>").toList
    rw [String.toList_append]
    exact (closed_named (by decide) plain).append (by decide)

theorem closed_tupleText {words : List String} (closed : ∀ word ∈ words, Closed word.toList) :
    Closed (tupleText words).toList := by
  unfold tupleText
  split
  · next word =>
    have inner := closed word List.mem_cons_self
    rw [String.toList_append, String.toList_append]
    change Closed ('(' :: word.toList ++ [',', ')'])
    rw [Closed, List.cons_append, Place.after?, next?_open (by decide), Option.bind_some, Place.after?_append,
      inner.after, Option.bind_some]
    rfl
  · exact closed_call (by decide +kernel) closes_round closed

theorem closed_pagination (p : Pagination) : Closed p.literal.toList := by
  have known (n : Option Int) : Closed ((n.map toString).getD "None").toList := by
    cases n with
    | none => decide
    | some n => exact closed_repr n
  have whole (page size items pages : String) : "PaginationInfo(page=" ++ page ++ ", page_size=" ++ size ++
      ", total_items=" ++ items ++ ", total_pages=" ++ pages ++ ")" = "PaginationInfo(" ++
        commaSeparated ["page=" ++ page, "page_size=" ++ size, "total_items=" ++ items, "total_pages=" ++ pages] ++
        ")" := by
    apply String.toList_injective
    simp only [String.toList_append, toList_commaSeparated, List.map_cons, List.map_nil]
    simp [listed, List.intercalate]
  unfold Pagination.literal
  rw [whole]
  refine closed_call (by decide +kernel) closes_round ?_
  simp only [List.forall_mem_cons]
  exact ⟨closed_named (by decide) (closed_repr _), closed_named (by decide) (closed_repr _),
    closed_named (by decide) (known _), closed_named (by decide) (known _), List.forall_mem_nil _⟩

/-- A value closes what it opens. -/
theorem closed_literal (v : Value) (plain : v.isNamedPlainly = true) : Closed v.literal.toList := by
  -- What is listed between commas is closed item by item, and its brackets close around it.
  induction v using byItems with
  | atom v atomic => exact closed_atom atomic plain
  | list items each =>
    exact closed_call (by decide +kernel) closes_square (closed_literals each plain)
  | tuple items each =>
    exact closed_tupleText (closed_literals each plain)
  | set items each =>
    have inner := closed_literals each plain
    cases items with
    | nil => decide
    | cons item rest => exact closed_call (by decide +kernel) closes_curly inner
  | dict entries each =>
    refine closed_call (by decide +kernel) closes_curly fun word member => ?_
    rw [entryLiterals_eq_map] at member
    obtain ⟨entry, inside, rfl⟩ := List.mem_map.1 member
    have value := each entry inside (entriesNamedPlainly_iff.1 plain entry inside)
    rw [String.toList_append, String.toList_append]
    exact ((closed_quote entry.1).append (by decide)).append value
  | object entries each =>
    refine closed_call (by decide +kernel) closes_round fun word member => ?_
    rw [attributeLiterals_eq_map] at member
    obtain ⟨entry, inside, rfl⟩ := List.mem_map.1 member
    simp only [isNamedPlainly, Bool.and_eq_true, List.all_eq_true] at plain
    have value := each entry inside (entriesNamedPlainly_iff.1 plain.2 entry inside)
    rw [String.toList_append, String.toList_append]
    exact ((closed_of_neutral (plain.1 entry inside)).append (by decide)).append value
  | page items p each =>
    have whole : (Value.page items p).literal = "Page(" ++
        commaSeparated ["items=[" ++ commaSeparated (literals items) ++ "]", "pagination=" ++ p.literal] ++ ")" := by
      change "Page(items=[" ++ commaSeparated (literals items) ++ "], pagination=" ++ p.literal ++ ")" = _
      apply String.toList_injective
      simp only [String.toList_append, toList_commaSeparated, List.map_cons, List.map_nil]
      simp [listed, List.intercalate]
    rw [whole]
    refine closed_call (by decide +kernel) closes_round ?_
    simp only [List.forall_mem_cons]
    exact ⟨closed_call (by decide +kernel) closes_square (closed_literals each plain),
      closed_named (by decide) (closed_pagination p), List.forall_mem_nil _⟩

/-- What is no text, day or time is read as it is written. -/
theorem text_of_number {v : Value} {n : Number} (numeric : v.number? = some n) :
    v.text = v.literal ∧ v.day? = none := by
  cases v with
  | bool | int | float | nan => exact ⟨rfl, rfl⟩
  | _ => cases numeric

theorem read_alike {v w : Value} (same : v.same w = true) (written : v.literal = w.literal) :
    v.text = w.text ∧ v.day? = w.day? := by
  cases v with
  | list xs =>
    obtain ⟨ys, rfl, -⟩ := same_list.1 same
    exact ⟨written, rfl⟩
  | tuple xs =>
    obtain ⟨ys, rfl, -⟩ := same_tuple.1 same
    exact ⟨written, rfl⟩
  | set xs =>
    obtain ⟨ys, rfl, -⟩ := same_set.1 same
    exact ⟨written, rfl⟩
  | dict xs =>
    obtain ⟨ys, rfl, -⟩ := same_dict.1 same
    exact ⟨written, rfl⟩
  | object xs =>
    obtain ⟨ys, rfl, -⟩ := same_object.1 same
    exact ⟨written, rfl⟩
  | page xs p =>
    obtain ⟨ys, rfl, -⟩ := same_page.1 same
    exact ⟨written, rfl⟩
  | bool | int | float =>
    obtain ⟨atom, first, second⟩ := (same_iff_atom rfl).1 same
    obtain ⟨n, numeric, -⟩ := numeric_of_atoms first second
    obtain ⟨text, day⟩ := text_of_number numeric
    exact ⟨written.trans text.symm, day.symm⟩
  | dateTime t =>
    cases w with
    | dateTime t' =>
      rw [DateTime.eq_of_literal (by simpa [Value.same] using same) written]
      exact ⟨rfl, rfl⟩
    | _ => simp [Value.same, number?] at same
  | foreign type serial =>
    cases w with
    | foreign type' serial' => exact ⟨written, rfl⟩
    | _ => simp [Value.same, number?] at same
  | _ =>
    -- The rest are the same only as themselves.
    obtain ⟨atom, first, second⟩ := (same_iff_atom rfl).1 same
    cases first
    cases w with
    | bool | int | float => simp [atom?, Number.atom?] at second
    | _ => cases second <;> exact ⟨rfl, rfl⟩

end Value

end QueryCache
