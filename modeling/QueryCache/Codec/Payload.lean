import QueryCache.Codec.Compression
import QueryCache.Codec.Exact
import QueryCache.Codec.Footprint
import QueryCache.Codec.MessagePack
import QueryCache.Json.Read
import QueryCache.Json.Write

/-! Payloads of cached values: a header byte, then the value in one of three forms, compressed
when it is large. -/

set_option autoImplicit false

namespace QueryCache

/-- The form that values are written in. -/
inductive Serializer where
  /-- Every value as it is. -/
  | exact
  | messagePack
  | json
  deriving DecidableEq, Repr

namespace Serializer

def dump : Serializer → Value → Except Failure Bytes
  | .exact, value => Exact.encode value
  | .messagePack, value => MessagePack.encode value
  | .json, value => (Json.write value).map fun text => Bytes.ofString (String.ofList text)

/-- The size by which it is decided whether a value is large: that of its form, and for values
as they are that of the program that builds them. -/
def sizeOf : Serializer → Value → Bytes → Nat
  | .exact, value, _ => Footprint.ofValue value
  | _, _, body => body.length

/-- Why a text is no JSON, with the place where reading stopped. -/
def jsonFailure (text : List Char) : Json.Fault → Failure
  | .malformed reason left =>
    .malformedJson (reason ++ ": " ++ Json.place text (text.length - left))
  | .tooDeep container => .tooDeep ("decoding a JSON " ++ container ++ " from a unicode string")
  | .tooManyDigits count => .tooManyDigits count

def load : Serializer → Bytes → Except Failure Value
  | .exact, bytes => Exact.decode bytes
  | .messagePack, bytes => MessagePack.decode bytes
  | .json, bytes => do
    let text ← (Text.Encoding.decode bytes).mapError Failure.undecodableText
    (Json.read text).mapError (jsonFailure text)

/-- No bytes stand for no value. -/
def load? (s : Serializer) : Option Bytes → Except Failure Value
  | none => .ok .null
  | some bytes => s.load bytes

end Serializer

/-- How values become payloads. -/
structure Codec where
  serializer : Serializer := .exact
  compress : Bool := true
  /-- The largest size that is not compressed. -/
  threshold : Int := 1024
  level : Int := 4
  deriving DecidableEq, Repr

namespace Codec

/-- The header of a body as it is. -/
def plainHeader : UInt8 := 0

/-- The header of a compressed body. -/
def compressedHeader : UInt8 := 1

/-- Whether something of a size is compressed. -/
def isCompressed (codec : Codec) (size : Nat) : Bool :=
  codec.compress && codec.threshold < size

/-- The highest level of compression. -/
def highestLevel : Int := 11

/-- The level of compression, where it is one of those there are; it has to fit a byte before
anything else. -/
def levelOf (codec : Codec) : Except Failure Nat :=
  if codec.level < 0 then .error (.overflow "unsigned byte integer is less than minimum")
  else if 255 < codec.level then
    .error (.overflow "unsigned byte integer is greater than maximum")
  else if highestLevel < codec.level then .error .compressionLevel
  else .ok codec.level.toNat

/-- A body under its header, compressed at some level if at all. -/
def frame (level : Option Nat) (body : Bytes) : Bytes :=
  match level with
  | some level => compressedHeader :: Compression.compress level body
  | none => plainHeader :: body

/-- The body of a payload. -/
def unframe : Bytes → Except Failure Bytes
  | [] => .error (.unknownHeader [])
  | header :: body =>
    if header = plainHeader then .ok body
    else if header = compressedHeader then
      match Compression.decompress? body with
      | some body => .ok body
      | none => .error .malformedCompression
    else .error (.unknownHeader [header])

def encode (codec : Codec) (value : Value) : Except Failure Bytes := do
  let body ← codec.serializer.dump value
  let large := codec.isCompressed (codec.serializer.sizeOf value body)
  let level ← if large then codec.levelOf.map some else pure none
  return frame level body

def decode (codec : Codec) (payload : Bytes) : Except Failure Value := do
  codec.serializer.load (← unframe payload)

/-- The body comes back from its frame. -/
theorem unframe_frame (level : Option Nat) (body : Bytes) :
    unframe (frame level body) = .ok body := by
  cases level with
  | none => simp [frame, unframe, plainHeader]
  | some level =>
    simp [frame, unframe, plainHeader, compressedHeader, Compression.decompress?_compress]

end Codec

end QueryCache
