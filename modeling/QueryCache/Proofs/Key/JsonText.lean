import QueryCache.Key.JsonTree
import QueryCache.Proofs.Decimal.Notation
import Mathlib.Data.List.Basic
import Std.Data.String.ToInt

/-! Compact JSON texts tell trees apart, as long as all their floats are numbers.

Every text but a number's says where it ends; a number ends where none of its characters follows.
The proofs read two texts side by side, each with something behind it. -/

set_option autoImplicit false

namespace QueryCache.JsonTree

mutual

/-- Whether the floats of a tree are numbers of the format. -/
def isFinite : JsonTree → Bool
  | .float (.finite _ units) => decide (Binary64.Kept units)
  | .float _ => false
  | .array items => areFinite items
  | .object fields => haveFinite fields
  | _ => true

def areFinite : List JsonTree → Bool
  | [] => true
  | item :: rest => item.isFinite && areFinite rest

def haveFinite : List (String × JsonTree) → Bool
  | [] => true
  | (_, value) :: rest => value.isFinite && haveFinite rest

end

theorem areFinite_iff {items : List JsonTree} :
    areFinite items = true ↔ ∀ item ∈ items, item.isFinite = true := by
  induction items with
  | nil => simp [areFinite]
  | cons item rest ih => simp [areFinite, ih]

/-! ## Numbers -/

/-- The characters of a number. -/
def isNumeral (c : Char) : Bool := c.isDigit || ['-', '.', 'e', '+'].contains c

/-- A number that stands before it is over. -/
def Breaks (rest : List Char) : Prop := ∀ c ∈ rest.head?, isNumeral c = false

theorem breaks_cons {c : Char} {rest : List Char} (other : isNumeral c = false) :
    Breaks (c :: rest) := by
  intro d first
  cases first
  exact other

theorem isNumeral_of_isDigit {c : Char} (digit : c.isDigit = true) : isNumeral c = true := by
  rw [isNumeral, digit, Bool.true_or]

theorem isDigit_of_mem_repr {n : Int} {c : Char} (found : c ∈ n.repr.toList) :
    c = '-' ∨ c.isDigit = true := by
  have digit (k : Nat) (found : c ∈ k.repr.toList) : c.isDigit = true := by
    rw [Nat.toList_repr] at found
    exact Nat.isDigit_of_mem_toDigits (by omega) (by omega) found
  cases n with
  | ofNat k => exact .inr (digit k found)
  | negSucc k =>
    rw [Int.repr, String.toList_append, List.mem_append] at found
    rcases found with sign | later
    · exact .inl (by simpa using sign)
    · exact .inr (digit (k + 1) later)

theorem repr_ne_nil (n : Int) : n.repr.toList ≠ [] := by
  cases n with
  | ofNat k => simp [Int.repr, Nat.toList_repr, Nat.toDigits_ne_nil]
  | negSucc k => simp [Int.repr]

/-- A text of the characters of numbers. -/
def AllNumerals (text : List Char) : Prop := ∀ c ∈ text, isNumeral c = true

theorem allNumerals_repr (n : Int) : AllNumerals n.repr.toList := by
  intro c found
  rcases isDigit_of_mem_repr found with rfl | digit
  · rfl
  · exact isNumeral_of_isDigit digit

theorem takeWhile_numeral {text rest : List Char} (all : AllNumerals text) (breaks : Breaks rest) :
    (text ++ rest).takeWhile isNumeral = text := by
  rw [List.takeWhile_append_of_pos all]
  cases rest with
  | nil => simp
  | cons c rest => simp [breaks c rfl]

theorem numerals_append {text text' rest rest' : List Char} (all : AllNumerals text) (all' : AllNumerals text')
    (breaks : Breaks rest) (breaks' : Breaks rest') (same : text ++ rest = text' ++ rest') :
    text = text' ∧ rest = rest' := by
  -- Each text is all that comes before the first character that is of no number.
  have texts : text = text' := by
    rw [← takeWhile_numeral all breaks, ← takeWhile_numeral all' breaks', same]
  rw [texts] at same
  exact ⟨texts, List.append_cancel_left same⟩

theorem int_append {n m : Int} {rest rest' : List Char} (breaks : Breaks rest)
    (breaks' : Breaks rest') (same : n.repr.toList ++ rest = m.repr.toList ++ rest') :
    n = m ∧ rest = rest' := by
  obtain ⟨texts, rests⟩ := numerals_append (allNumerals_repr n) (allNumerals_repr m) breaks breaks' same
  exact ⟨Int.repr_injective (String.toList_injective texts), rests⟩

section

open Binary64

theorem regular_compact : Style.compact.Regular := by
  unfold Style.Regular
  decide

variable {negative negative' : Bool} {units units' : Nat} {rest rest' : List Char}

theorem floatText_eq (negative : Bool) (units : Nat) : floatText (.finite negative units) =
    (if negative then ['-'] else []) ++ (decimalOf units).layout .compact :=
  textIn_finite regular_compact negative units

theorem allNumerals_floatText (negative : Bool) (units : Nat) : AllNumerals (floatText (.finite negative units)) := by
  intro c found
  rw [floatText_eq] at found
  rcases List.mem_append.1 found with sign | found
  · split at sign
    · rw [List.mem_singleton.1 sign]
      rfl
    · cases sign
  · rcases isDigit_of_mem_layout found with digit | mark
    · exact isNumeral_of_isDigit digit
    · simp only [List.mem_cons, List.not_mem_nil, or_false] at mark
      rcases mark with rfl | rfl | rfl | rfl <;> rfl

theorem floatText_ne_nil (negative : Bool) (units : Nat) : floatText (.finite negative units) ≠ [] := by
  obtain ⟨c, more, head, -⟩ := layout_head .compact (decimalOf units)
  rw [floatText_eq, head]
  simp

theorem float_append (kept : Kept units) (kept' : Kept units') (breaks : Breaks rest) (breaks' : Breaks rest')
    (same : floatText (.finite negative units) ++ rest = floatText (.finite negative' units') ++ rest') :
    negative = negative' ∧ units = units' ∧ rest = rest' := by
  obtain ⟨texts, rests⟩ := numerals_append (allNumerals_floatText _ _) (allNumerals_floatText _ _) breaks breaks' same
  obtain ⟨signs, numbers⟩ := textIn_inj regular_compact kept kept' texts
  exact ⟨signs, numbers, rests⟩

/-- A float has a point or an exponent, an integer neither. -/
theorem int_ne_float {n : Int} (breaks : Breaks rest) (breaks' : Breaks rest') :
    n.repr.toList ++ rest ≠ floatText (.finite negative units) ++ rest' := by
  intro same
  obtain ⟨texts, -⟩ := numerals_append (allNumerals_repr n) (allNumerals_floatText _ _) breaks breaks' same
  -- So the float would be written with a sign and digits only.
  have bare {c : Char} (marks : c = '.' ∨ c = 'e') : c ∉ floatText (.finite negative units) := by
    intro found
    rw [← texts] at found
    rcases marks with rfl | rfl <;> rcases isDigit_of_mem_repr found with other | digit <;> contradiction
  rw [floatText_eq] at bare
  rcases point_or_exponent_mem_layout .compact (decimalOf units) with point | exponent
  · exact bare (.inl rfl) (List.mem_append_right _ point)
  · exact bare (.inr rfl) (List.mem_append_right _ exponent)

end

/-! ## Strings -/

/-- The characters that are escaped by a single letter or mark, each after that. -/
def shortEscapes : List (Char × Char) := [('\"', '\"'), ('\\', '\\'), ('n', '\n'), ('r', '\r'),
  ('t', '\t'), ('b', Char.ofNat 8), ('f', Char.ofNat 12)]

theorem shortEscapes_inj : ∀ p ∈ shortEscapes, ∀ q ∈ shortEscapes, p.1 = q.1 → p.2 = q.2 := by
  decide

theorem hex_inj : ∀ n < 32, ∀ m < 32, Text.hex 4 n = Text.hex 4 m → n = m := by
  decide

theorem length_hex : ∀ n < 32, (Text.hex 4 n).length = 4 := by
  decide

/-- The three forms of a character in a string. -/
inductive Escaped (c : Char) : List Char → Prop where
  | plain : c ≠ '\\' → c ≠ '\"' → Escaped c [c]
  | short {mark : Char} : (mark, c) ∈ shortEscapes → Escaped c ['\\', mark]
  | code : c.toNat < 32 → Escaped c ('\\' :: 'u' :: Text.hex 4 c.toNat)

theorem escaped (c : Char) : Escaped c (escapedChar c) := by
  have ofNat {n : Nat} (same : c.toNat = n) : c = Char.ofNat n := by
    rw [← same, Char.ofNat_toNat]
  have short {mark d : Char} (same : c = d) (pair : (mark, d) ∈ shortEscapes) :
      Escaped c ['\\', mark] := .short (same ▸ pair)
  unfold escapedChar
  split
  · next same => exact short same (by decide)
  split
  · next same => exact short same (by decide)
  split
  · next same => exact short same (by decide)
  split
  · next same => exact short same (by decide)
  split
  · next same => exact short same (by decide)
  split
  · next same => exact short (ofNat same) (by decide)
  split
  · next same => exact short (ofNat same) (by decide)
  split
  · next low => exact .code low
  · next quote backslash _ _ _ _ _ _ => exact .plain backslash quote

theorem escapedChar_append {c d : Char} {rest rest' : List Char}
    (same : escapedChar c ++ rest = escapedChar d ++ rest') : c = d ∧ rest = rest' := by
  -- The three forms differ in their first character, or in the one after the backslash: no short
  -- escape is by a `u`.
  have mark : ∀ p ∈ shortEscapes, p.1 ≠ 'u' := by decide
  revert same
  generalize formC : escapedChar c = textC
  generalize formD : escapedChar d = textD
  have escapedC := formC ▸ escaped c
  have escapedD := formD ▸ escaped d
  intro same
  cases escapedC with
  | plain visible =>
    cases escapedD with
    | plain => simpa using same
    | short | code => simp [visible] at same
  | short pair =>
    cases escapedD with
    | plain visible => simp [Ne.symm visible] at same
    | short pair' =>
      simp only [List.cons_append, List.nil_append, List.cons.injEq, true_and] at same
      exact ⟨shortEscapes_inj _ pair _ pair' same.1, same.2⟩
    | code => simp [mark _ pair] at same
  | code low =>
    cases escapedD with
    | plain visible => simp [Ne.symm visible] at same
    | short pair' => simp [Ne.symm (mark _ pair')] at same
    | code low' =>
      simp only [List.cons_append, List.cons.injEq, true_and] at same
      have codes := List.append_inj same ((length_hex _ low).trans (length_hex _ low').symm)
      exact ⟨Char.toNat_inj.1 (hex_inj _ low _ low' codes.1), codes.2⟩

theorem escapedChar_ne_quote (c : Char) (rest rest' : List Char) :
    escapedChar c ++ rest ≠ '\"' :: rest' := by
  intro same
  have form := escaped c
  cases text : escapedChar c with
  | nil => rw [text] at form; cases form
  | cons first more =>
    rw [text] at form same
    cases form with
    | plain _ quote => exact quote (List.cons.inj same).1
    | short | code => simp at same

theorem escapedChars_append {xs ys rest rest' : List Char}
    (same : xs.flatMap escapedChar ++ '\"' :: rest = ys.flatMap escapedChar ++ '\"' :: rest') :
    xs = ys ∧ rest = rest' := by
  induction xs generalizing ys with
  | nil =>
    cases ys with
    | nil => simpa using same
    | cons d ys =>
      rw [List.flatMap_cons, List.append_assoc] at same
      exact absurd same.symm (escapedChar_ne_quote d _ _)
  | cons c xs ih =>
    cases ys with
    | nil =>
      rw [List.flatMap_cons, List.append_assoc] at same
      exact absurd same (escapedChar_ne_quote c _ _)
    | cons d ys =>
      rw [List.flatMap_cons, List.flatMap_cons, List.append_assoc, List.append_assoc] at same
      obtain ⟨first, same⟩ := escapedChar_append same
      obtain ⟨more, rests⟩ := ih same
      exact ⟨by rw [first, more], rests⟩

theorem stringText_append {s t : String} {rest rest' : List Char}
    (same : stringText s ++ rest = stringText t ++ rest') : s = t ∧ rest = rest' := by
  simp only [stringText, List.cons_append, List.append_assoc, List.nil_append, List.cons.injEq,
    true_and] at same
  obtain ⟨texts, rests⟩ := escapedChars_append same
  exact ⟨String.toList_injective texts, rests⟩

/-! ## Trees -/

theorem breaks_itemChars (items : List JsonTree) (rest : List Char) :
    Breaks (itemChars items ++ rest) := by
  cases items <;> exact breaks_cons rfl

theorem breaks_fieldChars (fields : List (String × JsonTree)) (rest : List Char) :
    Breaks (fieldChars fields ++ rest) := by
  cases fields <;> exact breaks_cons rfl

/-- The characters that tell the kinds of trees apart; one stands for all that begin numbers. -/
def kindOf : JsonTree → Char
  | .null => 'n'
  | .bool true => 't'
  | .bool false => 'f'
  | .int _ | .float _ => '0'
  | .str _ => '\"'
  | .array _ => '['
  | .object _ => '\x7b'

theorem head_chars (t : JsonTree) (free : t.isFinite = true) :
    ∃ c more, t.chars = c :: more ∧ (if isNumeral c then '0' else c) = t.kindOf := by
  cases t with
  | null => exact ⟨_, _, rfl, rfl⟩
  | bool b => cases b <;> exact ⟨_, _, rfl, rfl⟩
  | int n =>
    obtain ⟨c, more, text⟩ := List.exists_cons_of_ne_nil (repr_ne_nil n)
    have numeral := allNumerals_repr n c (text ▸ List.mem_cons_self)
    exact ⟨c, more, text, by rw [numeral]; rfl⟩
  | float x =>
    cases x with
    | finite negative units =>
      obtain ⟨c, more, text⟩ := List.exists_cons_of_ne_nil (floatText_ne_nil negative units)
      have numeral := allNumerals_floatText negative units c (text ▸ List.mem_cons_self)
      exact ⟨c, more, text, by rw [numeral]; rfl⟩
    | _ => cases free
  | str s => exact ⟨_, _, rfl, rfl⟩
  | array items => cases items <;> exact ⟨_, _, rfl, rfl⟩
  | object fields => cases fields <;> exact ⟨_, _, rfl, rfl⟩

theorem kindOf_eq {t u : JsonTree} {rest rest' : List Char} (free : t.isFinite = true)
    (free' : u.isFinite = true) (same : t.chars ++ rest = u.chars ++ rest') :
    t.kindOf = u.kindOf := by
  obtain ⟨c, more, text, kind⟩ := head_chars t free
  obtain ⟨d, more', text', kind'⟩ := head_chars u free'
  rw [text, text'] at same
  rw [← kind, ← kind', (List.cons.inj same).1]

/-- No tree begins as an array or an object ends. -/
theorem head_ne_end {t : JsonTree} (free : t.isFinite = true) {rest rest' : List Char} :
    t.chars ++ rest ≠ ']' :: rest' := by
  intro same
  obtain ⟨c, more, text, kind⟩ := head_chars t free
  rw [text] at same
  have first : c = ']' := (List.cons.inj same).1
  subst first
  cases t with
  | bool b => cases b <;> cases kind
  | _ => cases kind

/-- Apart from its bracket an array is written like further items. -/
theorem itemChars_of_array {xs ys : List JsonTree} {rest rest' : List Char}
    (free : areFinite xs = true) (free' : areFinite ys = true)
    (same : (JsonTree.array xs).chars ++ rest = (JsonTree.array ys).chars ++ rest') :
    itemChars xs ++ rest = itemChars ys ++ rest' := by
  -- An empty array is the only one whose second character closes it.
  cases xs with
  | nil =>
    cases ys with
    | nil => simpa [chars, itemChars] using same
    | cons y ys =>
      simp only [areFinite, Bool.and_eq_true] at free'
      simp only [chars, List.cons_append, List.nil_append, List.append_assoc, List.cons.injEq,
        true_and] at same
      exact absurd same.symm (head_ne_end free'.1)
  | cons x xs =>
    cases ys with
    | nil =>
      simp only [areFinite, Bool.and_eq_true] at free
      simp only [chars, List.cons_append, List.nil_append, List.append_assoc, List.cons.injEq,
        true_and] at same
      exact absurd same (head_ne_end free.1)
    | cons y ys => simpa [chars, itemChars] using same

theorem fieldChars_of_object {xs ys : List (String × JsonTree)} {rest rest' : List Char}
    (same : (JsonTree.object xs).chars ++ rest = (JsonTree.object ys).chars ++ rest') :
    fieldChars xs ++ rest = fieldChars ys ++ rest' := by
  cases xs with
  | nil => cases ys <;> simp_all [chars, fieldChars, stringText]
  | cons x xs => cases ys <;> simp_all [chars, fieldChars, stringText]

mutual

/-- Two texts with something behind them, neither of which goes on with a number. -/
theorem chars_append {t u : JsonTree} {rest rest' : List Char} (free : t.isFinite = true)
    (free' : u.isFinite = true) (breaks : Breaks rest) (breaks' : Breaks rest')
    (same : t.chars ++ rest = u.chars ++ rest') : t = u ∧ rest = rest' := by
  -- Induction on the first tree. The first character rules out all kinds but its own, and leaves an
  -- integer beside a float.
  have kinds := kindOf_eq free free' same
  match t with
  | .null =>
    cases u with
    | null => exact ⟨rfl, by simpa [chars] using same⟩
    | bool b => cases b <;> simp [kindOf] at kinds
    | _ => simp [kindOf] at kinds
  | .bool b =>
    cases u with
    | bool b' => cases b <;> cases b' <;> simp_all [chars, kindOf]
    | _ => cases b <;> simp [kindOf] at kinds
  | .int n =>
    cases u with
    | int m =>
      obtain ⟨numbers, rests⟩ := int_append breaks breaks' same
      exact ⟨congrArg JsonTree.int numbers, rests⟩
    | bool b => cases b <;> simp [kindOf] at kinds
    | float x =>
      cases x with
      | finite negative units => exact (int_ne_float breaks breaks' same).elim
      | _ => cases free'
    | _ => simp [kindOf] at kinds
  | .float x =>
    cases x with
    | finite negative units =>
      cases u with
      | float y =>
        cases y with
        | finite negative' units' =>
          obtain ⟨rfl, rfl, rests⟩ :=
            float_append (of_decide_eq_true free) (of_decide_eq_true free') breaks breaks' same
          exact ⟨rfl, rests⟩
        | _ => cases free'
      | int n => exact (int_ne_float breaks' breaks same.symm).elim
      | bool b => cases b <;> simp [kindOf] at kinds
      | _ => simp [kindOf] at kinds
    | _ => cases free
  | .str s =>
    cases u with
    | str s' =>
      obtain ⟨texts, rests⟩ := stringText_append same
      exact ⟨congrArg JsonTree.str texts, rests⟩
    | bool b => cases b <;> simp [kindOf] at kinds
    | _ => simp [kindOf] at kinds
  | .array items =>
    cases u with
    | array items' =>
      obtain ⟨arrays, rests⟩ := itemChars_append free free' (itemChars_of_array free free' same)
      exact ⟨congrArg JsonTree.array arrays, rests⟩
    | bool b => cases b <;> simp [kindOf] at kinds
    | _ => simp [kindOf] at kinds
  | .object fields =>
    cases u with
    | object fields' =>
      obtain ⟨objects, rests⟩ := fieldChars_append free free' (fieldChars_of_object same)
      exact ⟨congrArg JsonTree.object objects, rests⟩
    | bool b => cases b <;> simp [kindOf] at kinds
    | _ => simp [kindOf] at kinds

theorem itemChars_append {xs ys : List JsonTree} {rest rest' : List Char}
    (free : areFinite xs = true) (free' : areFinite ys = true)
    (same : itemChars xs ++ rest = itemChars ys ++ rest') : xs = ys ∧ rest = rest' := by
  match xs, ys with
  | [], [] => exact ⟨rfl, by simpa [itemChars] using same⟩
  | [], y :: ys => simp [itemChars] at same
  | x :: xs, [] => simp [itemChars] at same
  | x :: xs, y :: ys =>
    simp only [areFinite, Bool.and_eq_true] at free free'
    simp only [itemChars, List.cons_append, List.append_assoc, List.cons.injEq, true_and] at same
    obtain ⟨firsts, same⟩ := chars_append free.1 free'.1 (breaks_itemChars _ _)
      (breaks_itemChars _ _) same
    obtain ⟨laters, rests⟩ := itemChars_append free.2 free'.2 same
    exact ⟨by rw [firsts, laters], rests⟩

theorem fieldChars_append {xs ys : List (String × JsonTree)} {rest rest' : List Char}
    (free : haveFinite xs = true) (free' : haveFinite ys = true)
    (same : fieldChars xs ++ rest = fieldChars ys ++ rest') : xs = ys ∧ rest = rest' := by
  match xs, ys with
  | [], [] => exact ⟨rfl, by simpa [fieldChars] using same⟩
  | [], (name, y) :: ys => simp [fieldChars] at same
  | (name, x) :: xs, [] => simp [fieldChars] at same
  | (name, x) :: xs, (name', y) :: ys =>
    simp only [haveFinite, Bool.and_eq_true] at free free'
    simp only [fieldChars, List.cons_append, List.append_assoc, List.cons.injEq, true_and] at same
    obtain ⟨names, same⟩ := stringText_append same
    simp only [List.cons.injEq, true_and] at same
    obtain ⟨firsts, same⟩ := chars_append free.1 free'.1 (breaks_fieldChars _ _)
      (breaks_fieldChars _ _) same
    obtain ⟨laters, rests⟩ := fieldChars_append free.2 free'.2 same
    exact ⟨by rw [names, firsts, laters], rests⟩

end

theorem text_inj {t u : JsonTree} (free : t.isFinite = true) (free' : u.isFinite = true)
    (same : t.text = u.text) : t = u := by
  have texts : t.chars ++ [] = u.chars ++ [] := by
    simpa using String.ofList_injective same
  exact (chars_append free free' (by nofun) (by nofun) texts).1

end QueryCache.JsonTree
