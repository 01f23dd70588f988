import QueryCache.Codec.Payload
import QueryCache.Proofs.Codec.Exact
import QueryCache.Proofs.Codec.MessagePack
import QueryCache.Proofs.Distinct
import QueryCache.Proofs.Value.Same

/-! What a cached value comes back as.

The exact form gives back what was written. MessagePack has neither days, nor times without an offset, nor
tuples, nor pages: they come back as their texts, as lists and as mappings. Everything else comes back
equal. -/

set_option autoImplicit false

namespace QueryCache

open Outcome Reader

namespace Value

/-- The counts of a page. -/
def countsOf (p : Pagination) : List (String × Value) := [
  ("page", .int p.page), ("page_size", .int p.pageSize), ("total_items", .ofOption .int p.totalItems),
  ("total_pages", .ofOption .int p.totalPages)]

theorem nodup_countsOf (p : Pagination) : ((countsOf p).map (·.1)).Nodup := by
  change ["page", "page_size", "total_items", "total_pages"].Nodup
  decide

mutual

/-- What a value is after it was written as MessagePack and read again. -/
def packed : Value → Value
  | .date d => .str d.text
  | .dateTime t =>
    if t.offset.isNone then .str t.text else .dateTime ((DateTime.ofEpochMicros? t.epochMicros).getD t)
  | .list items | .tuple items => .list (packedAll items)
  | .dict fields => .dict (packedFields fields)
  | .page items p => .dict [("items", .list (packedAll items)), ("pagination", .dict (countsOf p))]
  | v => v

def packedAll : List Value → List Value
  | [] => []
  | item :: rest => item.packed :: packedAll rest

def packedFields : List (String × Value) → List (String × Value)
  | [] => []
  | (name, value) :: rest => (name, value.packed) :: packedFields rest

end

theorem names_packedFields (fields : List (String × Value)) : (packedFields fields).map (·.1) = fields.map (·.1) := by
  induction fields with
  | nil => rfl
  | cons field rest ih =>
    rw [packedFields, List.map_cons, List.map_cons, ih]

mutual

/-- Whether a value has no part that MessagePack has no form for. -/
def survives : Value → Bool
  | .date _ | .tuple _ | .page _ _ => false
  | .dateTime t => t.offset.isSome
  | .list items => allSurvive items
  | .dict fields => fieldsSurvive fields
  | _ => true

def allSurvive : List Value → Bool
  | [] => true
  | item :: rest => item.survives && allSurvive rest

def fieldsSurvive : List (String × Value) → Bool
  | [] => true
  | (_, value) :: rest => value.survives && fieldsSurvive rest

end

end Value

namespace MessagePack

mutual

/-- What is written of a value is read as what it is packed as. -/
theorem reads_write {v : Value} {bytes : Bytes} {depth : Nat} (storable : v.isStorable = true)
    (written : write v = .ok bytes) (room : levels v ≤ depth) : Reads (value depth false) bytes v.packed := by
  -- Induction on the value: what is written of the parts is read first, in one depth less.
  match v with
  | .null =>
    cases written
    rw [value]
    exact (reads_pure Value.null).cons
  | .bool b =>
    cases written
    rw [value]
    cases b with
    | false => exact (reads_pure (Value.bool false)).cons
    | true => exact (reads_pure (Value.bool true)).cons
  | .int n =>
    have counted : countOf (some n) = .ok bytes := written
    exact reads_count counted
  | .str s => exact reads_text written
  | .bytes b =>
    obtain ⟨front, header, same⟩ := map_eq_ok.1 written
    cases same
    exact reads_bytes header
  | .date d => exact reads_text written
  | .dateTime t =>
    rw [write, time] at written
    rw [Value.packed]
    split at written
    · next local' =>
      rw [if_pos local']
      exact reads_text written
    · next aware =>
      rw [if_neg aware]
      split at written
      · next inside =>
        cases written
        obtain ⟨t', found⟩ := Option.isSome_iff_exists.1 inside
        rw [found]
        exact reads_timestamp found
      · cases written
  | .list items =>
    obtain ⟨parts, written, whole⟩ := bind_eq_ok.1 written
    cases depth with
    | zero => cases room
    | succ depth => exact reads_sequence whole (reads_writeAll storable written (Nat.le_of_succ_le_succ room))
  | .tuple items =>
    obtain ⟨parts, written, whole⟩ := bind_eq_ok.1 written
    cases depth with
    | zero => cases room
    | succ depth => exact reads_sequence whole (reads_writeAll storable written (Nat.le_of_succ_le_succ room))
  | .dict fields =>
    rw [Value.isStorable, Bool.and_eq_true, decide_eq_true_eq] at storable
    obtain ⟨parts, written, whole⟩ := bind_eq_ok.1 written
    cases depth with
    | zero => cases room
    | succ depth =>
      have distinct : ((Value.packedFields fields).map (·.1)).Nodup := by
        rw [Value.names_packedFields]
        exact storable.1
      exact reads_mapping whole distinct (reads_writeFields storable.2 written (Nat.le_of_succ_le_succ room))
  | .page items p =>
    -- A page is written as a mapping of two entries, the second of which is a mapping of four.
    obtain ⟨parts, items', after⟩ := bind_eq_ok.1 written
    obtain ⟨listed, sequenced, after⟩ := bind_eq_ok.1 after
    obtain ⟨page, first, after⟩ := bind_eq_ok.1 after
    obtain ⟨size, second, after⟩ := bind_eq_ok.1 after
    obtain ⟨total, third, after⟩ := bind_eq_ok.1 after
    obtain ⟨pages, fourth, after⟩ := bind_eq_ok.1 after
    obtain ⟨counts, counted, whole⟩ := bind_eq_ok.1 after
    obtain ⟨depth, rfl⟩ : ∃ d, depth = d + 2 := ⟨depth - 2, by rw [levels] at room; omega⟩
    rw [levels] at room
    have listed : Reads (value (depth + 1) false) listed (.list (Value.packedAll items)) :=
      reads_sequence sequenced (reads_writeAll storable items' (by omega))
    have counted : Reads (value (depth + 1) false) counts (.dict (Value.countsOf p)) :=
      reads_mapping counted (Value.nodup_countsOf p) (.cons ⟨rfl, reads_count first⟩ (.cons ⟨rfl, reads_count second⟩
        (.cons ⟨rfl, reads_count third⟩ (.cons ⟨rfl, reads_count fourth⟩ .nil))))
    have distinct : ["items", "pagination"].Nodup := by decide
    exact reads_mapping whole distinct (.cons ⟨rfl, listed⟩ (.cons ⟨rfl, counted⟩ .nil))

theorem reads_writeAll {items : List Value} {parts : List Bytes} {depth : Nat} (storable : Value.areStorable items = true)
    (written : writeAll items = .ok parts) (room : levelsAll items ≤ depth) :
    List.Forall₂ (Reads (value depth false)) parts (Value.packedAll items) := by
  match items with
  | [] =>
    cases written
    exact .nil
  | item :: rest =>
    rw [Value.areStorable, Bool.and_eq_true] at storable
    rw [levelsAll] at room
    obtain ⟨first, head, after⟩ := bind_eq_ok.1 written
    obtain ⟨others, tail, same⟩ := bind_eq_ok.1 after
    cases same
    exact .cons (reads_write storable.1 head (by omega)) (reads_writeAll storable.2 tail (by omega))

theorem reads_writeFields {fields : List (String × Value)} {parts : List (String × Bytes)} {depth : Nat}
    (storable : Value.storableFields fields = true) (written : writeFields fields = .ok parts)
    (room : levelsFields fields ≤ depth) :
    List.Forall₂ (fun field item => field.1 = item.1 ∧ Reads (value depth false) field.2 item.2) parts
      (Value.packedFields fields) := by
  match fields with
  | [] =>
    cases written
    exact .nil
  | (name, v) :: rest =>
    rw [Value.storableFields, Bool.and_eq_true] at storable
    rw [levelsFields] at room
    obtain ⟨first, head, after⟩ := bind_eq_ok.1 written
    obtain ⟨others, tail, same⟩ := bind_eq_ok.1 after
    cases same
    exact .cons ⟨rfl, reads_write storable.1 head (by omega)⟩ (reads_writeFields storable.2 tail (by omega))

end

theorem decode_encode {v : Value} {bytes : Bytes} (storable : v.isStorable = true) (encoded : encode v = .ok bytes) :
    decode bytes = .ok v.packed := by
  obtain ⟨bytes', written, after⟩ := bind_eq_ok.1 encoded
  split at after
  · cases after
  · next room =>
    cases after
    have read := whole_of_reads (reads_write storable written (Nat.le_of_not_lt room))
    rw [decode, read]
    rfl

end MessagePack

/-! ## Equality with what was written -/

namespace DateTime

/-- The instant of a time is the same at offset zero. -/
theorem equal_ofEpochMicros {t t' : DateTime} (aware : t.offset.isSome = true)
    (found : ofEpochMicros? t.epochMicros = some t') : t'.equal t = true := by
  obtain ⟨same, zero, -⟩ := of_ofEpochMicros found
  rw [epochMicros, epochMicros, Int.sub_left_inj] at same
  rw [equal_iff, place, place, aware, zero]
  exact ⟨rfl, same⟩

end DateTime

namespace Value

theorem same_of_atom {v : Value} {atom : Atom} (found : v.atom? = some atom) (atomic : v.isAtomic = true) :
    v.same v = true :=
  (same_iff_atom atomic).2 ⟨atom, found, found⟩

mutual

/-- A value comes back from MessagePack the same exactly if it has no part without a form there. -/
theorem same_packed {v : Value} {bytes : Bytes} (storable : v.isStorable = true)
    (written : MessagePack.write v = .ok bytes) : v.packed.same v = v.survives := by
  -- What is no atom for MessagePack comes back as a value of another kind, and is equal to none of
  -- its own.
  match v with
  | .null => exact same_of_atom rfl rfl
  | .bool b => exact same_of_atom rfl rfl
  | .int n => exact same_of_atom rfl rfl
  | .str s => exact same_of_atom rfl rfl
  | .bytes b => exact same_of_atom rfl rfl
  | .date d => simp [packed, same, number?, survives]
  | .dateTime t =>
    rw [packed, survives]
    cases aware : t.offset.isSome with
    | false =>
      rw [if_pos (by simpa using aware)]
      simp [same, number?]
    | true =>
      have offset : ¬t.offset.isNone = true := by simpa [Option.isSome_iff_ne_none] using aware
      rw [MessagePack.write, MessagePack.time, if_neg offset] at written
      rw [if_neg offset, same]
      split at written
      · next inside =>
        obtain ⟨t', found⟩ := Option.isSome_iff_exists.1 inside
        rw [found]
        exact DateTime.equal_ofEpochMicros aware found
      · cases written
  | .list items =>
    obtain ⟨parts, written, -⟩ := bind_eq_ok.1 written
    rw [packed, same, survives]
    exact sameAll_packed storable written
  | .tuple items => simp [packed, same, number?, survives]
  | .dict fields =>
    rw [isStorable, Bool.and_eq_true, decide_eq_true_eq] at storable
    obtain ⟨parts, written, -⟩ := bind_eq_ok.1 written
    -- Equal mappings have as many entries; the names are what they were.
    have count := congrArg List.length (names_packedFields fields)
    rw [List.length_map, List.length_map] at count
    rw [packed, same, count, beq_self_eq_true, Bool.true_and, survives]
    exact allEntries_packed storable.2 written fun field member => lookup_of_mem storable.1 member
  | .page items p => simp [packed, same, number?, survives]

theorem sameAll_packed {items : List Value} {parts : List Bytes} (storable : areStorable items = true)
    (written : MessagePack.writeAll items = .ok parts) : sameAll (packedAll items) items = allSurvive items := by
  match items with
  | [] => rw [packedAll, sameAll, allSurvive]
  | item :: rest =>
    rw [areStorable, Bool.and_eq_true] at storable
    obtain ⟨first, head, after⟩ := bind_eq_ok.1 written
    obtain ⟨others, tail, -⟩ := bind_eq_ok.1 after
    rw [packedAll, sameAll, allSurvive, same_packed storable.1 head, sameAll_packed storable.2 tail]

theorem allEntries_packed {fields whole : List (String × Value)} {parts : List (String × Bytes)}
    (storable : storableFields fields = true) (written : MessagePack.writeFields fields = .ok parts)
    (inside : ∀ field ∈ fields, whole.lookup field.1 = some field.2) :
    allEntries (packedFields fields) whole = fieldsSurvive fields := by
  match fields with
  | [] => rw [packedFields, allEntries, fieldsSurvive]
  | (name, v) :: rest =>
    rw [storableFields, Bool.and_eq_true] at storable
    rw [List.forall_mem_cons] at inside
    obtain ⟨first, head, after⟩ := bind_eq_ok.1 written
    obtain ⟨others, tail, -⟩ := bind_eq_ok.1 after
    rw [packedFields, allEntries, fieldsSurvive, inside.1]
    dsimp only
    rw [same_packed storable.1 head, allEntries_packed storable.2 tail inside.2]

end

/-- Two values of which one is storable are equal if they are the same. -/
theorem equal_eq_same (back : Value) {v : Value} (storable : v.isStorable = true) : back.equal v = back.same v := by
  refine equal_eq_same_of_ne_nan ?_
  rintro serial rfl
  cases storable

end Value

namespace Codec

variable {codec : Codec} {v : Value} {payload : Bytes}

/-- A payload is read back as far as its form goes, whether it is compressed or not. -/
theorem decode_encode (encoded : codec.encode v = .ok payload) :
    ∃ body, codec.serializer.dump v = .ok body ∧ codec.decode payload = codec.serializer.load body := by
  obtain ⟨body, dumped, after⟩ := bind_eq_ok.1 encoded
  obtain ⟨level, rfl⟩ : ∃ level, payload = frame level body := by
    -- Compression changes how the body is framed, and the frame says which way it was.
    dsimp only at after
    split at after
    · obtain ⟨level, -, same⟩ := bind_eq_ok.1 after
      cases same
      exact ⟨level, rfl⟩
    · cases after
      exact ⟨none, rfl⟩
  refine ⟨body, dumped, ?_⟩
  rw [decode, unframe_frame]
  rfl

end Codec

end QueryCache
