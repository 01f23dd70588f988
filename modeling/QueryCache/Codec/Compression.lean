import QueryCache.Codec.Compression.Stream

/-! Lossless compression.

Bytes are compressed to a stream where that pays, and stored under a signature where it does
not. Main statement: compressing loses nothing. -/

set_option autoImplicit false

namespace QueryCache.Compression

/-- The first bytes of everything stored as it is. -/
def signature : Bytes := [0x51, 0x43, 0x5A, 0x01]

/-- The bytes that a stream has to save, counting the signature: many at the lowest level, which
gives up early, and some at the highest two. -/
def leastGain (level : Nat) : Nat :=
  if level = 0 then 51 else if 10 ≤ level then 6 else 0

/-- Whether a stream is worth having for some bytes, and stands for them. -/
def pays (level : Nat) (bytes stream : Bytes) : Bool :=
  stream.length + leastGain level < bytes.length + signature.length &&
    stream.take 4 != signature && Stream.decode? stream == some bytes

def compress (level : Nat) (bytes : Bytes) : Bytes :=
  let stream := Stream.encode level bytes
  if pays level bytes stream then stream else signature ++ bytes

/-- What compressed bytes stand for. -/
def decompress? (bytes : Bytes) : Option Bytes :=
  if bytes.take 4 = signature then some (bytes.drop 4) else Stream.decode? bytes

/-- Compressing loses nothing. -/
theorem decompress?_compress (level : Nat) (bytes : Bytes) :
    decompress? (compress level bytes) = some bytes := by
  unfold compress
  dsimp only
  split
  · rename_i worth
    simp only [pays, Bool.and_eq_true, bne_iff_ne, ne_eq, beq_iff_eq] at worth
    simp [decompress?, worth]
  · simp [decompress?, signature]

end QueryCache.Compression
