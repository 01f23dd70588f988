import QueryCache.Codec.Compression.CodeForm
import QueryCache.Codec.Compression.Search
import QueryCache.Codec.Compression.Smoothing

/-! Compressed streams.

A stream is a header and blocks. A block holds bytes as they are, or commands under three prefix
codes: one for the plain bytes, one for the ranges of lengths and one for distances. The
written streams have one block; read are streams of any number of blocks of one kind of code
each. -/

set_option autoImplicit false

namespace QueryCache.Compression

/-- The sizes of the three alphabets. -/
def byteSymbols : Nat := 256

def commandSymbols : Nat := 704

def distanceSymbols : Nat := 64

/-- How hard compression tries. -/
structure Effort where
  /-- The positions that are remembered of those where the same bytes start. -/
  ways : Nat
  /-- Whether codes are fixed or take their quick form. -/
  quick : Bool
  /-- Whether counts are smoothed. -/
  smooth : Bool

def Effort.ofLevel (level : Nat) : Effort :=
  if level < 3 then ⟨1, true, false⟩ else if level = 3 then ⟨2, false, false⟩ else ⟨4, false, true⟩

/-- The three prefix codes of a block, by the lengths of their words. -/
structure Codes where
  bytes : PrefixCode.Lengths
  commands : PrefixCode.Lengths
  distances : PrefixCode.Lengths

namespace Codes

/-- The most bits of a word. -/
def longestWord (e : Effort) : Nat := if e.quick then 14 else 15

/-- The codes that suit commands. -/
def suiting (e : Effort) (plain : Bytes) (commands : List Command) : Codes where
  bytes := lengths byteSymbols (plain.map (·.toNat))
  commands := lengths commandSymbols (commands.map (·.coded.1))
  distances := lengths distanceSymbols
    ((commands.filter (·.isNamed)).map fun c => (Command.distanceSymbol c.distance).1)
where
  lengths (size : Nat) (symbols : List Nat) : PrefixCode.Lengths :=
    let counts := CodeForm.tally size symbols
    PrefixCode.lengthsOf (longestWord e)
      (if e.smooth then Smoothing.smoothTally size counts else counts)

/-- The written form of the fixed code for commands. -/
def fixedCommands : Bits := Bits.ofNat 59 0x92624416307003

/-- The written form of the fixed code for distances. -/
def fixedDistances : Bits := Bits.ofNat 28 0x0369DC03

/-- The lengths that a written form tells. -/
def written (size : Nat) (form : Bits) : PrefixCode.Lengths :=
  (((CodeForm.read size).run (form ++ List.replicate 8 false)).map (·.1)).getD []

/-- The codes with the fixed ones for commands and distances. -/
def withFixed (codes : Codes) : Codes :=
  { codes with
    commands := written commandSymbols fixedCommands
    distances := written distanceSymbols fixedDistances }

end Codes

/-- Splits bytes into those before, in and after the commands' plain stretches. -/
def plainBytes : Bytes → List Command → Bytes
  | _, [] => []
  | bytes, c :: rest =>
    bytes.take c.plain ++ plainBytes (bytes.drop (c.plain + c.copied)) rest

namespace Stream

/-- The header of streams that reach back four million bytes. -/
def header : Bits := Bits.ofNat 4 0x0B

/-- The groups of four bits that the size of a block takes, beyond four of them. -/
def sizeGroups (size : Nat) : Nat := (Nat.log2 (size - 1) - 12) / 4

/-- The start of a last block: its size, one kind of each code, and no distances beyond the
recent ones that are named outright. -/
def blockHeader (size : Nat) : Bits :=
  let groups := sizeGroups size
  [true, false] ++ Bits.ofNat 2 groups ++ Bits.ofNat (4 * (groups + 4)) (size - 1) ++
    Bits.ofNat 13 0

/-- The commands under words. -/
def body (bytes commands distances : Array Bits) : Bytes → List Command → Bits
  | _, [] => []
  | plain, c :: rest =>
    let (symbol, places) := c.coded
    let named :=
      if c.isNamed then
        let (symbol, place) := Command.distanceSymbol c.distance
        (distances[symbol]?).getD [] ++ place
      else []
    (commands[symbol]?).getD [] ++ places ++
      (plain.take c.plain).flatMap (fun byte => (bytes[byte.toNat]?).getD []) ++ named ++
      body bytes commands distances (plain.drop c.plain) rest

/-- The most commands that the fixed codes are used for. -/
def fewCommands : Nat := 128

/-- The stream of some bytes; the lower levels use the fixed codes for few commands. -/
def encode (level : Nat) (bytes : Bytes) : Bytes :=
  let effort := Effort.ofLevel level
  let commands := Search.commands effort.ways bytes.toArray
  let plain := plainBytes bytes commands
  let suiting := Codes.suiting effort plain commands
  let fixed := effort.quick && commands.length ≤ fewCommands
  let codes := if fixed then suiting.withFixed else suiting
  let table (size : Nat) (lengths : PrefixCode.Lengths) :=
    PrefixCode.table size (PrefixCode.words lengths)
  let forms :=
    if fixed then Codes.fixedCommands ++ Codes.fixedDistances
    else CodeForm.write effort.quick commandSymbols codes.commands ++
      CodeForm.write effort.quick distanceSymbols codes.distances
  Bits.toBytes (header ++ blockHeader bytes.length ++
    CodeForm.write effort.quick byteSymbols codes.bytes ++ forms ++
    body (table byteSymbols codes.bytes) (table commandSymbols codes.commands)
      (table distanceSymbols codes.distances) plain commands)

/-- Repeats what stands `distance` bytes before the end. -/
def repeatBack (distance : Nat) (out : Array UInt8) : Nat → Array UInt8
  | 0 => out
  | count + 1 => repeatBack distance (out.push ((out[out.size - distance]?).getD 0)) count

/-- Reads `count` plain bytes. -/
def readPlain (code : PrefixCode.Tree) (out : Array UInt8) : Nat → BitReader (Array UInt8)
  | 0 => return out
  | count + 1 => do
    let symbol ← code.read
    readPlain code (out.push symbol.toUInt8) count

/-- Reads commands up to a size; the fuel bounds them. -/
def readCommands (bytes commands distances : PrefixCode.Tree) (size : Nat) :
    Nat → Recent → Array UInt8 → BitReader (Array UInt8 × Recent)
  | 0, _, _ => failure
  | fuel + 1, recent, out => do
    if size ≤ out.size then return (out, recent)
    let symbol ← commands.read
    let (plain, copy) := Command.rangesOf symbol
    let count ← Command.readRange Command.plainRanges plain
    let length ← Command.readRange Command.copyRanges copy
    let length := length + Command.leastCopy
    if size < out.size + count then failure
    let out ← readPlain bytes out count
    if size ≤ out.size then return (out, recent)
    let code ← if symbol < Command.unnamed then pure 0
      else do Command.readDistance (← distances.read)
    match recent.distanceOf? code with
    | none => failure
    | some distance =>
      if out.size < distance ∨ size < out.size + length then failure
      readCommands bytes commands distances size fuel (recent.after code distance)
        (repeatBack distance out length)

/-- Reads a block of commands that makes so many bytes. -/
def readBlock (size : Nat) (recent : Recent) (out : Array UInt8) :
    BitReader (Array UInt8 × Recent) := do
  BitReader.zeros 13
  let bytes ← CodeForm.read byteSymbols
  let commands ← CodeForm.read commandSymbols
  let distances ← CodeForm.read distanceSymbols
  readCommands (.ofLengths bytes) (.ofLengths commands) (.ofLengths distances)
    (out.size + size) (size + 1) recent out

/-- Reads the size of a block in groups of four bits; a size that needs fewer is malformed. -/
def readSize (groups : Nat) : BitReader Nat := do
  let n ← BitReader.number (4 * groups)
  if 4 < groups ∧ n < power 2 (4 * (groups - 1)) then failure
  return n + 1

/-- Reads a note, which stands for no bytes. -/
def skipNote : BitReader Unit := do
  BitReader.zeros 1
  let width ← BitReader.number 2
  let most ← BitReader.number (8 * width)
  BitReader.align
  let _ ← BitReader.number (if width = 0 then 0 else 8 * (most + 1))

/-- Reads blocks up to the last one; the fuel bounds them. -/
def readBlocks : Nat → Recent → Array UInt8 → BitReader (Array UInt8)
  | 0, _, _ => failure
  | fuel + 1, recent, out => do
    let last ← BitReader.bit
    if last then if ← BitReader.bit then return out
    let groups ← BitReader.number 2
    if groups = 3 then
      if last then failure
      skipNote
      readBlocks fuel recent out
    else
      let size ← readSize (groups + 4)
      let stored ← if last then pure false else BitReader.bit
      if stored then
        BitReader.align
        let bytes ← BitReader.repeated (BitReader.number 8) size
        readBlocks fuel recent (out ++ bytes.map (·.toUInt8))
      else
        let (out, recent) ← readBlock size recent out
        if last then return out else readBlocks fuel recent out

/-- Reads how far back a stream reaches, which every stretch is within anyway. -/
def readHeader : BitReader Unit := do
  if ← BitReader.bit then
    if (← BitReader.number 3) = 0 then
      if (← BitReader.number 3) = 1 then failure

/-- The bytes that a stream stands for; nothing but zeros fills up its last byte. -/
def decode? (stream : Bytes) : Option Bytes := do
  let bits := Bits.ofBytes stream
  let (out, rest) ← (do readHeader; readBlocks bits.length Recent.initial #[] :
    BitReader (Array UInt8)).run bits
  if rest.length < 8 ∧ rest.all (!·) then return out.toList
  failure

end Stream

end QueryCache.Compression
