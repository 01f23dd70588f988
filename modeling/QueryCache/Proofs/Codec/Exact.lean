import QueryCache.Codec.Exact
import QueryCache.Proofs.Codec.Reading
import QueryCache.Proofs.Outcome

/-! The binary form that keeps values as they are: a value of the kinds that records hold is read back
from the bytes that it is written in. -/

set_option autoImplicit false

namespace QueryCache

open Outcome

namespace Value

mutual

/-- Whether a value is made of the kinds that the fields of records have, pages among them: days and
times are of the calendar, the names in a mapping are distinct. -/
def isStorable : Value → Bool
  | .null | .bool _ | .int _ | .str _ | .bytes _ => true
  | .date d => d.isValid
  | .dateTime t => t.isValid
  | .list items | .tuple items | .page items _ => areStorable items
  | .dict fields => decide (fields.map (·.1)).Nodup && storableFields fields
  | _ => false

def areStorable : List Value → Bool
  | [] => true
  | item :: rest => item.isStorable && areStorable rest

def storableFields : List (String × Value) → Bool
  | [] => true
  | (_, value) :: rest => value.isStorable && storableFields rest

end

end Value

namespace Exact

open Reader

theorem reads_text (s : String) : Reads readText (text s) s := by
  -- A text is the list of its code points.
  have codes : List.Forall₂ (Reads nat) (s.toList.map fun c => Bytes.ofNat c.toNat) (s.toList.map Char.toNat) := by
    rw [List.forall₂_map_left_iff, List.forall₂_map_right_iff]
    exact List.forall₂_same.2 fun c _ => reads_nat c.toNat
  have back : String.ofList ((s.toList.map Char.toNat).map Char.ofNat) = s := by
    simp [Function.comp_def, Char.ofNat_toNat]
  have read := (reads_repeated codes).map fun codes => String.ofList (codes.map Char.ofNat)
  rw [back, List.length_map] at read
  rw [text, List.flatMap_def]
  exact (reads_nat s.toList.length).bind read

theorem reads_int (n : Int) : Reads readInt (int n) n := by
  refine (reads_nat _).bind ?_
  have read := (reads_nat n.natAbs).map fun size =>
    if (if n < 0 then 1 else 0) = 1 then -(size : Int) else size
  have same : (if (if n < 0 then 1 else 0) = 1 then -(n.natAbs : Int) else n.natAbs) = n := by
    split <;> split at * <;> omega
  rw [same] at read
  exact read

theorem reads_date (d : Date) : Reads readDate (date d) d := by
  rw [date, List.append_assoc]
  exact (reads_nat d.year).bind ((reads_nat d.month).bind ((reads_nat d.day).map (Date.mk d.year d.month)))

theorem reads_optional (n : Option Int) : Reads readOptional (optional n) n := by
  cases n with
  | none => exact (reads_pure none).cons
  | some n => exact ((reads_int n).map some).cons

theorem reads_dateTime (t : DateTime) : Reads readDateTime (dateTime t) t := by
  simp only [dateTime, List.append_assoc]
  refine (reads_date t.date).bind ((reads_nat t.hour).bind ((reads_nat t.minute).bind ?_))
  refine (reads_nat t.second).bind ((reads_nat t.micro).bind ?_)
  exact (reads_optional t.offset).map (DateTime.mk t.date t.hour t.minute t.second t.micro)

theorem reads_pagination (p : Pagination) : Reads readPagination (pagination p) p := by
  simp only [pagination, List.append_assoc]
  refine (reads_int p.page).bind ((reads_int p.pageSize).bind ((reads_optional p.totalItems).bind ?_))
  exact (reads_optional p.totalPages).map (Pagination.mk p.page p.pageSize p.totalItems)

theorem ofValue_ne_nil (value : Value) : ofValue value ≠ .ok [] := by
  cases value <;> simp [ofValue, map_eq_ok]

mutual

/-- A value is read back, with as much fuel as it has bytes. -/
theorem reads_value {value : Value} {bytes : Bytes} {fuel : Nat} (storable : value.isStorable = true)
    (written : ofValue value = .ok bytes) (room : bytes.length ≤ fuel) : Reads (readValue fuel) bytes value := by
  -- Every value is written in a byte at least, so there is fuel for it, and one less for its parts.
  obtain _ | fuel := fuel
  · rw [Nat.le_zero, List.length_eq_zero_iff] at room
    exact absurd (room ▸ written) (ofValue_ne_nil value)
  match value with
  | .null =>
    cases written
    exact (reads_pure Value.null).cons
  | .bool b =>
    cases written
    cases b with
    | false => exact (reads_pure (Value.bool false)).cons
    | true => exact (reads_pure (Value.bool true)).cons
  | .int n =>
    cases written
    exact ((reads_int n).map Value.int).cons
  | .str s =>
    cases written
    exact ((reads_text s).map Value.str).cons
  | .bytes b =>
    cases written
    exact ((reads_nat b.length).bind ((reads_take b).map Value.bytes)).cons
  | .date d =>
    cases written
    exact ((reads_date d).map Value.date).cons
  | .dateTime t =>
    cases written
    exact ((reads_dateTime t).map Value.dateTime).cons
  | .list items =>
    obtain ⟨body, parts, rfl⟩ := map_eq_ok.1 written
    simp only [List.cons_append, List.length_cons, List.length_append] at room
    have read := reads_values storable parts (by omega : body.length ≤ fuel)
    exact (((reads_nat _).bind read).map Value.list).cons
  | .tuple items =>
    obtain ⟨body, parts, rfl⟩ := map_eq_ok.1 written
    simp only [List.cons_append, List.length_cons, List.length_append] at room
    have read := reads_values storable parts (by omega : body.length ≤ fuel)
    exact (((reads_nat _).bind read).map Value.tuple).cons
  | .page items p =>
    obtain ⟨body, parts, rfl⟩ := map_eq_ok.1 written
    simp only [List.cons_append, List.append_assoc, List.length_cons, List.length_append] at room ⊢
    have read := reads_values storable parts (by omega : body.length ≤ fuel)
    exact ((reads_pagination p).bind (((reads_nat _).bind read).map fun items => Value.page items p)).cons
  | .dict fields =>
    obtain ⟨body, parts, rfl⟩ := map_eq_ok.1 written
    rw [Value.isStorable, Bool.and_eq_true] at storable
    simp only [List.cons_append, List.length_cons, List.length_append] at room
    have read := reads_fields storable.2 parts (by omega : body.length ≤ fuel)
    exact (((reads_nat _).bind read).map Value.dict).cons

theorem reads_values {items : List Value} {bytes : Bytes} {fuel : Nat} (storable : Value.areStorable items = true)
    (written : ofValues items = .ok bytes) (room : bytes.length ≤ fuel) :
    Reads (repeated (readValue fuel) items.length) bytes items := by
  match items with
  | [] =>
    cases written
    exact reads_pure []
  | item :: rest =>
    rw [Value.areStorable, Bool.and_eq_true] at storable
    obtain ⟨first, head, after⟩ := bind_eq_ok.1 written
    obtain ⟨others, tail, same⟩ := bind_eq_ok.1 after
    cases same
    rw [List.length_append] at room
    have head := reads_value storable.1 head (by omega : first.length ≤ fuel)
    have tail := reads_values storable.2 tail (by omega : others.length ≤ fuel)
    exact head.bind (tail.map (item :: ·))

theorem reads_fields {fields : List (String × Value)} {bytes : Bytes} {fuel : Nat}
    (storable : Value.storableFields fields = true) (written : ofFields fields = .ok bytes)
    (room : bytes.length ≤ fuel) :
    Reads (repeated (do
      let name ← readText
      return (name, ← readValue fuel)) fields.length) bytes fields := by
  match fields with
  | [] =>
    cases written
    exact reads_pure []
  | (name, value) :: rest =>
    rw [Value.storableFields, Bool.and_eq_true] at storable
    obtain ⟨first, head, after⟩ := bind_eq_ok.1 written
    obtain ⟨others, tail, same⟩ := bind_eq_ok.1 after
    cases same
    simp only [List.length_append] at room
    have head := reads_value storable.1 head (by omega : first.length ≤ fuel)
    have tail := reads_fields storable.2 tail (by omega : others.length ≤ fuel)
    exact ((reads_text name).bind (head.map (name, ·))).bind (tail.map ((name, value) :: ·))

end

/-- What is written comes back as it was. -/
theorem decode_encode {value : Value} {bytes : Bytes} (storable : value.isStorable = true)
    (written : encode value = .ok bytes) : decode bytes = .ok value := by
  obtain ⟨body, parts, rfl⟩ := map_eq_ok.1 written
  have read := whole_of_reads (reads_value storable parts (Nat.le_refl _))
  have front : (signature ++ body).take signature.length = signature := List.take_left
  have back : (signature ++ body).drop signature.length = body := List.drop_left
  rw [decode, if_pos front, back]
  simp only [read]
  rfl

end Exact

end QueryCache
