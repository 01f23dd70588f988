import QueryCache.Codec.MessagePack
import QueryCache.Proofs.Calendar.Ordinal
import QueryCache.Proofs.Codec.Reading
import QueryCache.Proofs.Outcome
import QueryCache.Proofs.Text.Utf8
import Mathlib.Algebra.Group.Nat.Defs

/-! Reading what was written as MessagePack. -/

set_option autoImplicit false

namespace QueryCache.MessagePack

open Outcome Reader

/-! ## Marks -/

theorem header_eq_some {mark short n : Nat} {wide : List (Nat × Nat)} {bytes : Bytes}
    (found : header? mark short wide n = some bytes) :
    n < short ∧ bytes = [(mark + n).toUInt8] ∨
      ∃ form ∈ wide, n < power 2 (8 * form.2) ∧ bytes = form.1.toUInt8 :: Bytes.bigEndian form.2 n := by
  rw [header?] at found
  split at found
  · next small =>
    cases found
    exact .inl ⟨small, rfl⟩
  · obtain ⟨form, first, rfl⟩ := Option.map_eq_some_iff.1 found
    have fits := List.find?_some first
    exact .inr ⟨form, List.mem_of_find?_eq_some first, of_decide_eq_true fits, rfl⟩

theorem sized_eq_ok {kind : String} {header : Option Bytes} {bytes : Bytes} :
    sized kind header = .ok bytes ↔ header = some bytes := by
  cases header <;> simp [sized]

variable {depth : Nat} {asKey : Bool} {bytes : Bytes}

/-! ## Values without parts -/

theorem reads_chars (s : String) : Reads (Reader.text (Bytes.ofString s).length) (Bytes.ofString s) s := by
  intro rest
  have taken := reads_take (Bytes.ofString s) rest
  rw [Reader.text, StateT.run_bind, taken]
  simp only [bind, Except.bind, Text.Utf8.decode_ofString, String.ofList_toList]
  rfl

theorem reads_text {s : String} (written : text s = .ok bytes) : Reads (value depth asKey) bytes (.str s) := by
  obtain ⟨front, header, same⟩ := bind_eq_ok.1 written
  cases same
  have read := (reads_chars s).map Value.str
  rw [value]
  -- A short length is in the mark itself, and any other stands behind its mark.
  rcases header_eq_some (sized_eq_ok.1 header) with ⟨small, rfl⟩ | ⟨form, member, fits, rfl⟩
  · refine Reads.cons ?_
    dsimp only
    rw [Nat.toUInt8, Bytes.toNat_ofNat (by omega), if_neg (by omega), if_neg (by omega), if_neg (by omega),
      if_pos (by omega), Nat.add_sub_cancel_left]
    exact read
  · simp only [List.mem_cons, List.not_mem_nil, or_false] at member
    rcases member with rfl | rfl | rfl
    · exact ((reads_unsigned fits).bind read).cons
    · exact ((reads_unsigned fits).bind read).cons
    · exact ((reads_unsigned fits).bind read).cons

theorem reads_bytes {body : Bytes} (written : bytesHeader body.length = .ok bytes) :
    Reads (value depth asKey) (bytes ++ body) (.bytes body) := by
  have read := (reads_take body).map Value.bytes
  rw [value]
  rcases header_eq_some (sized_eq_ok.1 written) with ⟨small, rfl⟩ | ⟨form, member, fits, rfl⟩
  · cases small
  · simp only [List.mem_cons, List.not_mem_nil, or_false] at member
    rcases member with rfl | rfl | rfl
    · exact ((reads_unsigned fits).bind read).cons
    · exact ((reads_unsigned fits).bind read).cons
    · exact ((reads_unsigned fits).bind read).cons

theorem reads_int {n : Int} (written : int? n = some bytes) : Reads (value depth asKey) bytes (.int n) := by
  rw [int?] at written
  rw [value]
  split at written
  · next natural =>
    obtain ⟨m, rfl⟩ := Int.eq_ofNat_of_zero_le natural
    rcases header_eq_some written with ⟨small, rfl⟩ | ⟨form, member, fits, rfl⟩
    · refine Reads.cons ?_
      dsimp only
      rw [Nat.toUInt8, Bytes.toNat_ofNat (by omega), if_pos (by omega), Nat.zero_add]
      exact reads_pure _
    · simp only [List.mem_cons, List.not_mem_nil, or_false] at member
      have read {width : Nat} (fits : m < power 2 (8 * width)) := (reads_unsigned fits).map fun n => Value.int n
      rcases member with rfl | rfl | rfl | rfl
      · exact (read fits).cons
      · exact (read fits).cons
      · exact (read fits).cons
      · exact (read fits).cons
  · next negative =>
    have read {width : Nat} (some : 0 < width) (most : -(power 2 (8 * width - 1) : Nat) ≤ n) :=
      (reads_signed some (by omega) most).map Value.int
    dsimp only at written
    split at written
    · next small =>
      cases written
      refine Reads.cons ?_
      dsimp only
      -- One byte holds the small negative numbers in two's complement.
      have back : (((n + 256).toNat : Nat) : Int) - 256 = n := by omega
      rw [Nat.toUInt8, Bytes.toNat_ofNat (by omega), if_neg (by omega), if_neg (by omega), if_neg (by omega),
        if_neg (by omega), if_pos (by omega), back]
      exact reads_pure _
    split at written
    · next most =>
      cases written
      exact (read (by decide) most).cons
    split at written
    · next most =>
      cases written
      exact (read (by decide) most).cons
    split at written
    · next most =>
      cases written
      exact (read (by decide) most).cons
    split at written
    · next most =>
      cases written
      exact (read (by decide) most).cons
    · cases written

theorem reads_count {n : Option Int} (written : countOf n = .ok bytes) :
    Reads (value depth asKey) bytes (.ofOption .int n) := by
  cases n with
  | none =>
    cases written
    rw [value]
    exact (reads_pure Value.null).cons
  | some n =>
    rw [countOf] at written
    split at written
    · next found =>
      cases written
      exact reads_int found
    · cases written

/-! ## Times -/

theorem reads_timeOf {payload : Bytes} {nanos : Nat} {seconds micros : Int} {t : DateTime}
    (parts : timeParts? payload = some (nanos, seconds)) (whole : seconds * 1000000 + (nanos : Int) / 1000 = micros)
    (exact : nanos % 1000 = 0) (few : nanos < 1000000000) (found : DateTime.ofEpochMicros? micros = some t) :
    Reads (timeOf payload) [] (.dateTime t) := by
  obtain ⟨-, -, first, last⟩ := DateTime.of_ofEpochMicros found
  -- Whole microseconds are not rounded.
  have near : seconds * 1000000 + ((nanos : Int) + 500) / 1000 = micros := by omega
  have inside : ¬(seconds < firstSecond ∨ endSecond < seconds) := by
    rw [firstSecond, endSecond]
    omega
  rw [timeOf, parts]
  dsimp only
  rw [if_neg (by omega), if_neg inside, near, found]
  exact reads_pure _

theorem reads_extension {payload : Bytes} {count : Nat} {v : Value} (size : payload.length = count)
    (read : Reads (timeOf payload) [] v) : Reads (extension count) (0xFF :: payload) v := by
  subst size
  refine Reads.cons ?_
  have both : Reads (take payload.length >>= timeOf) (payload ++ []) v := (reads_take payload).bind read
  rwa [List.append_nil] at both

theorem power_34 : power 2 34 = 17179869184 := rfl

theorem power_63 : power 2 63 = 9223372036854775808 := rfl

theorem power_64 : power 2 64 = 18446744073709551616 := rfl

/-- Seconds and the nanoseconds beside them, in the form of eight bytes. -/
theorem timeParts_eight {seconds nanos : Nat} (few : seconds < power 2 34) (less : nanos < 1000000000) :
    timeParts? (Bytes.bigEndian 8 (nanos * power 2 34 + seconds)) = some (nanos, (seconds : Int)) := by
  rw [power_34] at few ⊢
  have back : Bytes.toNat (Bytes.bigEndian 8 (nanos * 17179869184 + seconds)) = nanos * 17179869184 + seconds := by
    apply Bytes.toNat_bigEndian
    rw [power_64]
    omega
  have high : (nanos * 17179869184 + seconds) / 17179869184 = nanos := by omega
  have low : (nanos * 17179869184 + seconds) % 17179869184 = seconds := by omega
  simp only [timeParts?, Bytes.length_bigEndian, back, power_34, high, low]

/-- In the form of twelve bytes the seconds are in two's complement. -/
theorem timeParts_twelve {seconds : Int} {nanos : Nat} (low : -(power 2 63 : Nat) ≤ seconds)
    (high : seconds < (power 2 63 : Nat)) (less : nanos < 1000000000) :
    timeParts? (Bytes.bigEndian 4 nanos ++ Bytes.bigEndian 8 (seconds % (power 2 64 : Nat)).toNat) =
      some (nanos, seconds) := by
  rw [power_63] at low high
  have front : Bytes.toNat (Bytes.bigEndian 4 nanos) = nanos := by
    apply Bytes.toNat_bigEndian
    change _ < 4294967296
    omega
  have back : Bytes.toNat (Bytes.bigEndian 8 (seconds % (power 2 64 : Nat)).toNat) =
      (seconds % (power 2 64 : Nat)).toNat := by
    apply Bytes.toNat_bigEndian
    rw [power_64]
    omega
  have size := Bytes.length_bigEndian 4 nanos
  simp only [timeParts?, List.length_append, Bytes.length_bigEndian, List.take_left' size, List.drop_left' size, front,
    back, power_63, power_64]
  congr 2
  split <;> omega

theorem timestamp_eq {t : DateTime} {seconds : Int} {nanos : Nat} (whole : t.epochMicros / 1000000 = seconds)
    (part : (t.epochMicros % 1000000).toNat * 1000 = nanos) :
    timestamp t =
      if 0 ≤ seconds ∧ seconds < power 2 34 then
        if nanos = 0 ∧ seconds < power 2 32 then 0xD6 :: 0xFF :: Bytes.bigEndian 4 seconds.toNat
        else 0xD7 :: 0xFF :: Bytes.bigEndian 8 (nanos * power 2 34 + seconds.toNat)
      else
        0xC7 :: 12 :: 0xFF :: Bytes.bigEndian 4 nanos ++ Bytes.bigEndian 8 (seconds % (power 2 64 : Nat)).toNat := by
  subst whole part
  rfl

/-- An instant is read from each of its three forms. -/
theorem reads_timestamp {t t' : DateTime} (found : DateTime.ofEpochMicros? t.epochMicros = some t') :
    Reads (value depth asKey) (timestamp t) (.dateTime t') := by
  obtain ⟨-, -, first, last⟩ := DateTime.of_ofEpochMicros found
  obtain ⟨seconds, whole⟩ : ∃ seconds, t.epochMicros / 1000000 = seconds := ⟨_, rfl⟩
  obtain ⟨nanos, part⟩ : ∃ nanos, (t.epochMicros % 1000000).toNat * 1000 = nanos := ⟨_, rfl⟩
  have both : seconds * 1000000 + (nanos : Int) / 1000 = t.epochMicros := by omega
  have few : nanos < 1000000000 := by omega
  have read {payload : Bytes} {count : Nat} (size : payload.length = count)
      (parts : timeParts? payload = some (nanos, seconds)) : Reads (extension count) (0xFF :: payload) (.dateTime t') :=
    reads_extension size (reads_timeOf parts both (by omega) few found)
  -- Whole seconds of 32 bits, seconds of 34 bits with a part beside them, and all others.
  rw [timestamp_eq whole part]
  split
  · next positive =>
    obtain ⟨n, rfl⟩ := Int.eq_ofNat_of_zero_le positive.1
    split
    · next none =>
      obtain ⟨rfl, less⟩ := none
      have fits : n < 4294967296 := Int.ofNat_lt.1 less
      have back : Bytes.toNat (Bytes.bigEndian 4 n) = n := Bytes.toNat_bigEndian (show n < power 2 (8 * 4) from fits)
      have parts : timeParts? (Bytes.bigEndian 4 n) = some (0, (n : Int)) := by
        simp only [timeParts?, Bytes.length_bigEndian, back]
      rw [value]
      exact (read (Bytes.length_bigEndian 4 n) parts).cons
    · rw [value]
      exact (read (Bytes.length_bigEndian 8 _) (timeParts_eight (Int.ofNat_lt.1 positive.2) few)).cons
  · have low : -(power 2 63 : Nat) ≤ seconds := by
      rw [power_63]
      omega
    have high : seconds < (power 2 63 : Nat) := by
      rw [power_63]
      omega
    have size : (Bytes.bigEndian 4 nanos ++ Bytes.bigEndian 8 (seconds % (power 2 64 : Nat)).toNat).length = 12 := by
      rw [List.length_append, Bytes.length_bigEndian, Bytes.length_bigEndian]
    have width : Reads (unsigned 1) [12] 12 := reads_unsigned (by decide : 12 < power 2 (8 * 1))
    rw [value]
    exact (width.bind (read size (timeParts_twelve low high few))).cons

/-! ## Sequences and mappings -/

theorem reads_sequence {parts : List Bytes} {items : List Value} (written : sequence parts = .ok bytes)
    (reads : List.Forall₂ (Reads (value depth false)) parts items) :
    Reads (value (depth + 1) false) bytes (.list items) := by
  obtain ⟨front, header, same⟩ := bind_eq_ok.1 written
  cases same
  have read := (reads_itemsFrom reads 0).map Value.list
  rw [value]
  rcases header_eq_some (sized_eq_ok.1 header) with ⟨small, rfl⟩ | ⟨form, member, fits, rfl⟩
  · refine Reads.cons ?_
    dsimp only
    rw [Nat.toUInt8, Bytes.toNat_ofNat (by omega), if_neg (by omega), if_neg (by omega), if_pos (by omega),
      Nat.add_sub_cancel_left]
    exact read
  · simp only [List.mem_cons, List.not_mem_nil, or_false] at member
    rcases member with rfl | rfl
    · exact ((reads_unsigned fits).bind read).cons
    · exact ((reads_unsigned fits).bind read).cons

theorem setEntry_of_not_mem {merged : List (Value × Value)} {key v : Value}
    (absent : ∀ entry ∈ merged, entry.1.same key = false) : setEntry merged key v = merged ++ [(key, v)] := by
  induction merged with
  | nil => rfl
  | cons entry rest ih =>
    rw [List.forall_mem_cons] at absent
    rw [setEntry, if_neg (by simp [absent.1]), ih absent.2, List.cons_append]

theorem foldl_setEntry {merged : List (Value × Value)} {fields : List (String × Value)}
    (distinct : (fields.map (·.1)).Nodup)
    (apart : ∀ entry ∈ merged, ∀ name ∈ fields.map (·.1), entry.1.same (.str name) = false) :
    (fields.map fun field => (Value.str field.1, field.2)).foldl (fun merged entry => setEntry merged entry.1 entry.2)
      merged = merged ++ fields.map fun field => (Value.str field.1, field.2) := by
  -- No name is there yet, so each entry goes behind those before it.
  induction fields generalizing merged with
  | nil => simp
  | cons field rest ih =>
    rw [List.map_cons, List.nodup_cons] at distinct
    rw [List.map_cons, List.foldl_cons, setEntry_of_not_mem fun entry member => apart entry member field.1 (by simp),
      ih distinct.2]
    · simp
    · intro entry member name found
      rcases List.mem_append.1 member with member | member
      · exact apart entry member name (List.mem_cons_of_mem _ found)
      · rw [List.mem_singleton.1 member]
        have other : field.1 ≠ name := fun same => distinct.1 (same ▸ found)
        simpa [Value.same] using other

theorem set_of_not_mem {record : Record} {name : String} {v : Value} (absent : name ∉ record.map (·.1)) :
    Record.set record name v = record ++ [(name, v)] := by
  induction record with
  | nil => rfl
  | cons field rest ih =>
    rw [List.map_cons, List.mem_cons, not_or] at absent
    rw [Record.set, if_neg (fun same => absent.1 same.symm), ih absent.2, List.cons_append]

theorem setAll_append {record fields : Record} (distinct : ((record ++ fields).map (·.1)).Nodup) :
    Record.setAll record fields = record ++ fields := by
  induction fields generalizing record with
  | nil => exact (List.append_nil record).symm
  | cons field rest ih =>
    have absent : field.1 ∉ record.map (·.1) := by
      rw [List.map_append, List.nodup_append] at distinct
      exact fun found => distinct.2.2 _ found _ (by simp) rfl
    have step : Record.setAll record (field :: rest) = Record.setAll (Record.set record field.1 field.2) rest := rfl
    rw [step, set_of_not_mem absent, ih (by simpa using distinct), List.append_assoc, List.singleton_append]

/-- Entries under distinct names make the mapping that they are the entries of. -/
theorem mappingOf_fields {fields : List (String × Value)} (distinct : (fields.map (·.1)).Nodup) :
    mappingOf (fields.map fun field => (Value.str field.1, field.2)) = .dict fields := by
  have named : (fields.map fun field => (Value.str field.1, field.2)).map (fun entry => (entry.1.text, entry.2)) =
      fields := by
    rw [List.map_map]
    exact List.map_id fields
  rw [mappingOf, merged, foldl_setEntry distinct (by simp), List.nil_append, named, setAll_append (by simpa using distinct),
    List.nil_append]

theorem reads_entries {fields : List (String × Bytes)} {items : List (String × Value)}
    (reads : List.Forall₂ (fun field item => field.1 = item.1 ∧ Reads (value depth false) field.2 item.2) fields items)
    (written : entries fields = .ok bytes) :
    Reads (repeated (entry (value depth true) (value depth false)) fields.length) bytes (items.map fun item => (Value.str item.1, item.2)) := by
  -- Each entry is a name and what its value reads as, in the order in which they are written.
  induction reads generalizing bytes with
  | nil =>
    cases written
    exact reads_pure []
  | @cons field item fields items first _ ih =>
    obtain ⟨name, body⟩ := field
    obtain ⟨rfl, read⟩ := first
    obtain ⟨key, named, after⟩ := bind_eq_ok.1 written
    obtain ⟨rest, others, same⟩ := bind_eq_ok.1 after
    cases same
    have one : Reads (entry (value depth true) (value depth false)) (key ++ (body ++ [])) (.str item.1, item.2) :=
      ((reads_text named).within .key).bind ((read.within .entry).bind (reads_pure _))
    rw [List.append_nil] at one
    exact one.bind ((ih others).map _)

theorem reads_mapping {fields : List (String × Bytes)} {items : List (String × Value)}
    (written : mapping fields = .ok bytes) (distinct : (items.map (·.1)).Nodup)
    (reads : List.Forall₂ (fun field item => field.1 = item.1 ∧ Reads (value depth false) field.2 item.2) fields items) :
    Reads (value (depth + 1) false) bytes (.dict items) := by
  obtain ⟨front, header, after⟩ := bind_eq_ok.1 written
  obtain ⟨body, parts, same⟩ := bind_eq_ok.1 after
  cases same
  have read := (reads_entries reads parts).map mappingOf
  rw [mappingOf_fields distinct] at read
  rw [value]
  rcases header_eq_some (sized_eq_ok.1 header) with ⟨small, rfl⟩ | ⟨form, member, fits, rfl⟩
  · refine Reads.cons ?_
    dsimp only
    rw [Nat.toUInt8, Bytes.toNat_ofNat (by omega), if_neg (by omega), if_pos (by omega), Nat.add_sub_cancel_left]
    exact read
  · simp only [List.mem_cons, List.not_mem_nil, or_false] at member
    rcases member with rfl | rfl
    · exact ((reads_unsigned fits).bind read).cons
    · exact ((reads_unsigned fits).bind read).cons

/-! ## Lists of texts -/

end QueryCache.MessagePack
