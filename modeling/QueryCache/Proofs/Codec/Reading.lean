import QueryCache.Codec.Bytes
import Mathlib.Data.List.Forall2

/-! Readers and the bytes they are meant for.

A reader takes what was written for it and leaves what comes after. Readers that follow one another
take what was written one after the other; numbers, texts and counted sequences are read from the
bytes that they are written in. -/

set_option autoImplicit false

namespace QueryCache

/-! ## Numbers as bytes -/

namespace Bytes

theorem toNat_ofNat {n : Nat} (small : n < 256) : (UInt8.ofNat n).toNat = n := by
  simp [Nat.mod_eq_of_lt small]

theorem length_bigEndian (width n : Nat) : (bigEndian width n).length = width := by
  induction width generalizing n with
  | zero => rfl
  | succ width ih => rw [bigEndian, List.length_append, ih, List.length_singleton]

theorem toNat_concat (bytes : Bytes) (last : UInt8) : toNat (bytes ++ [last]) = toNat bytes * 256 + last.toNat := by
  rw [toNat, List.foldl_append]
  rfl

theorem toNat_bigEndian {width n : Nat} (small : n < power 2 (8 * width)) : toNat (bigEndian width n) = n := by
  induction width generalizing n with
  | zero =>
    have none : n = 0 := by simpa [power] using small
    rw [none]
    rfl
  | succ width ih =>
    have high : n / 256 < power 2 (8 * width) := by
      apply Nat.div_lt_of_lt_mul
      have factor : power 2 (8 * (width + 1)) = 256 * power 2 (8 * width) := by
        change 2 ^ (8 * (width + 1)) = 256 * 2 ^ (8 * width)
        rw [Nat.mul_add, Nat.pow_add, Nat.mul_comm]
      omega
    rw [bigEndian, toNat_concat, ih high, Nat.toUInt8, toNat_ofNat (by omega)]
    omega

end Bytes

namespace Reader

variable {α β : Type} {reader : Reader α} {f : α → Reader β} {bytes bytes' : Bytes} {a : α} {b : β}

/-- A reader takes in the bytes, whatever comes after them. -/
def Reads (reader : Reader α) (bytes : Bytes) (a : α) : Prop :=
  ∀ rest, reader.run (bytes ++ rest) = .ok (a, rest)

theorem reads_pure (a : α) : Reads (pure a) [] a := fun _ => rfl

theorem Reads.bind (first : Reads reader bytes a) (next : Reads (f a) bytes' b) :
    Reads (reader >>= f) (bytes ++ bytes') b := by
  intro rest
  rw [StateT.run_bind, List.append_assoc, first]
  exact next rest

theorem Reads.map (first : Reads reader bytes a) (f : α → β) :
    Reads (reader >>= fun a => pure (f a)) bytes (f a) := by
  have next : Reads (reader >>= fun a => pure (f a)) (bytes ++ []) (f a) := first.bind (reads_pure (f a))
  rwa [List.append_nil] at next

theorem reads_byte (first : UInt8) : Reads byte [first] first := fun _ => rfl

/-- A mark is read first. -/
theorem Reads.cons {f : UInt8 → Reader β} {mark : UInt8} (next : Reads (f mark) bytes b) :
    Reads (byte >>= f) (mark :: bytes) b :=
  (reads_byte mark).bind next

theorem reads_take (bytes : Bytes) : Reads (take bytes.length) bytes bytes := by
  intro rest
  have front : (bytes ++ rest).take bytes.length = bytes := List.take_left
  have back : (bytes ++ rest).drop bytes.length = rest := List.drop_left
  change (if _ then _ else _ : Except Malformed (Bytes × Bytes)) = _
  rw [front, back, if_pos rfl]

theorem reads_unsigned {width n : Nat} (small : n < power 2 (8 * width)) :
    Reads (unsigned width) (Bytes.bigEndian width n) n := by
  have taken := (reads_take (Bytes.bigEndian width n)).map Bytes.toNat
  rwa [Bytes.length_bigEndian, Bytes.toNat_bigEndian small] at taken

/-- A negative number in two's complement. -/
theorem reads_signed {width : Nat} {n : Int} (some : 0 < width) (negative : n < 0)
    (most : -(power 2 (8 * width - 1) : Nat) ≤ n) :
    Reads (signed width) (Bytes.bigEndian width (n + (power 2 (8 * width) : Nat)).toNat) n := by
  have double : power 2 (8 * width) = 2 * power 2 (8 * width - 1) := by
    change 2 ^ (8 * width) = 2 * 2 ^ (8 * width - 1)
    rw [← Nat.pow_succ']
    congr 1
    omega
  have small : (n + (power 2 (8 * width) : Nat)).toNat < power 2 (8 * width) := by omega
  have read := (reads_unsigned small).map fun m =>
    if m < power 2 (8 * width - 1) then (m : Int) else (m : Int) - (power 2 (8 * width) : Nat)
  rw [if_neg (by omega), Int.toNat_of_nonneg (by omega), Int.add_sub_cancel] at read
  exact read

theorem reads_nat (n : Nat) : Reads nat (Bytes.ofNat n) n := by
  intro rest
  change natFrom (Bytes.ofNat n ++ rest) = _
  induction n using Nat.strongRecOn with
  | ind n ih =>
    rw [Bytes.ofNat]
    split
    · next small =>
      rw [List.singleton_append, natFrom, Nat.toUInt8, Bytes.toNat_ofNat (by omega), if_pos small]
    · next big =>
      rw [List.cons_append, natFrom, Nat.toUInt8, Bytes.toNat_ofNat (by omega), if_neg (by omega), ih (n / 128) (by omega)]
      have whole : n % 128 + 128 - 128 + 128 * (n / 128) = n := by omega
      simp only [bind, Except.bind, pure, Except.pure, whole]

theorem reads_repeated {parts : List Bytes} {items : List α} (reads : List.Forall₂ (Reads reader) parts items) :
    Reads (repeated reader parts.length) parts.flatten items := by
  induction reads with
  | nil => exact reads_pure []
  | cons first _ ih =>
    rw [List.length_cons, List.flatten_cons]
    exact first.bind (ih.map _)

theorem Reads.within (reads : Reads reader bytes a) (step : PartStep) : Reads (within step reader) bytes a := by
  intro rest
  change (reader.run (bytes ++ rest)).mapError _ = _
  rw [reads rest]
  rfl

theorem reads_itemsFrom {parts : List Bytes} {items : List α} (reads : List.Forall₂ (Reads reader) parts items)
    (index : Nat) : Reads (itemsFrom reader index parts.length) parts.flatten items := by
  induction reads generalizing index with
  | nil => exact reads_pure []
  | cons first _ ih =>
    rw [List.length_cons, List.flatten_cons]
    exact (first.within _).bind ((ih (index + 1)).map _)

theorem whole_of_reads (reads : Reads reader bytes a) : whole reader bytes = .ok a := by
  have read := reads []
  rw [List.append_nil] at read
  rw [whole, read]
  rfl

end Reader

end QueryCache
