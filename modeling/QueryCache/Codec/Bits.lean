import QueryCache.Codec.Bytes

/-! Bits in a row.

Eight of them make a byte, the first the lowest. A number of a fixed width has its lowest bit
first. A reader takes bits from the front and fails where too few are left. -/

set_option autoImplicit false

namespace QueryCache

abbrev Bits := List Bool

namespace Bits

/-- The lowest `width` bits of a number, the lowest first. -/
def ofNat : Nat → Nat → Bits
  | 0, _ => []
  | width + 1, n => (n % 2 == 1) :: ofNat width (n / 2)

/-- The number whose bits these are, the lowest first. -/
def toNat : Bits → Nat
  | [] => 0
  | bit :: rest => (if bit then 1 else 0) + 2 * toNat rest

def ofBytes (bytes : Bytes) : Bits := bytes.flatMap fun byte => ofNat 8 byte.toNat

/-- The bits as bytes, the last one filled up with zeros. -/
def toBytes : Bits → Bytes
  | a :: b :: c :: d :: e :: f :: g :: h :: rest =>
    (toNat [a, b, c, d, e, f, g, h]).toUInt8 :: toBytes rest
  | [] => []
  | short => [(toNat short).toUInt8]

@[simp]
theorem length_ofNat (width n : Nat) : (ofNat width n).length = width := by
  induction width generalizing n with
  | zero => rfl
  | succ width ih => simp [ofNat, ih]

theorem toNat_ofNat {width n : Nat} (small : n < power 2 width) : toNat (ofNat width n) = n := by
  induction width generalizing n with
  | zero => simp [power] at small; simp [ofNat, toNat, small]
  | succ width ih =>
    have half : n / 2 < power 2 width := by
      have twice : power 2 (width + 1) = power 2 width * 2 := rfl
      omega
    simp only [ofNat, toNat, ih half, beq_iff_eq]
    split <;> omega

end Bits

/-- Takes bits from the front. -/
abbrev BitReader := StateT Bits Option

namespace BitReader

def bit : BitReader Bool := fun
  | [] => none
  | first :: rest => some (first, rest)

/-- A number of `width` bits, the lowest first. -/
def number (width : Nat) : BitReader Nat := fun bits =>
  let front := bits.take width
  if front.length = width then some (Bits.toNat front, bits.drop width) else none

/-- Bits that have to be zero. -/
def zeros (width : Nat) : BitReader Unit := do
  if (← number width) != 0 then failure

/-- Skips to the next byte; the bits of a whole number of bytes are read. -/
def align : BitReader Unit := fun bits => some ((), bits.drop (bits.length % 8))

/-- The same reader `count` times. -/
def repeated {α : Type} (reader : BitReader α) : Nat → BitReader (List α)
  | 0 => return []
  | count + 1 => do
    let item ← reader
    return item :: (← repeated reader count)

end BitReader

end QueryCache
