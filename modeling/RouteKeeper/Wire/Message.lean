import RouteKeeper.Text.Utf8
import RouteKeeper.Wire.Field

/-!
# Messages

A message type tells which fields a value is written as, in ascending order of
their tags and without those that hold the default, how many bytes that takes,
and what one more field does to a value that is being read. A later scalar field
replaces an earlier one, repeated fields collect, and fields of unknown tags are
passed over.
-/

namespace RouteKeeper.Wire

/-- A type of messages. -/
class Message (M : Type) where
  /-- The value that no field was read into. -/
  empty : M
  /-- The fields that a value is written as. -/
  fields : M → List Field
  /-- The number of bytes that a value takes. -/
  size : M → Nat
  /-- Reads one field into a value; messages inside may nest as deep as the number has it. -/
  merge : Nat → M → Field → Option M

/-- How deep messages and groups may nest below the outermost message. -/
def depthLimit : Nat := 100

namespace Message

variable {M : Type} [Message M]

/-- The bytes of a value. -/
def encode (m : M) : List UInt8 :=
  encodeFields (fields m)

/-- Reads a run of bytes into a value. -/
def mergeBytes (depth : Nat) (m : M) (bs : List UInt8) : Option M := do
  (← readFields depth bs).foldlM (merge depth) m

/-- Reads a value from its bytes. -/
def decode (bs : List UInt8) : Option M :=
  mergeBytes depthLimit empty bs

end Message

/-! ## Fields of each type -/

/-- The number of bytes of a key. -/
def keySize (tag : Nat) : Nat :=
  varintSize (8 * tag)

/-- An unsigned number, left out when it is zero. -/
def uint32Field (tag : Nat) (v : UInt32) : List Field :=
  if v = 0 then [] else [.varint tag v.toNat]

/-- The bytes taken by an unsigned number. -/
def uint32Size (tag : Nat) (v : UInt32) : Nat :=
  if v = 0 then 0 else keySize tag + varintSize v.toNat

/-- The 64 bits that a signed number is written as: negative numbers keep their sign. -/
def int32Bits (v : Int32) : Nat :=
  v.toInt64.toUInt64.toNat

/-- A signed number, left out when it is zero. -/
def int32Field (tag : Nat) (v : Int32) : List Field :=
  if v = 0 then [] else [.varint tag (int32Bits v)]

/-- The bytes taken by a signed number. -/
def int32Size (tag : Nat) (v : Int32) : Nat :=
  if v = 0 then 0 else keySize tag + varintSize (int32Bits v)

/-- A truth value, left out when it is false. -/
def boolField (tag : Nat) (v : Bool) : List Field :=
  if v then [.varint tag 1] else []

/-- The bytes taken by a truth value. -/
def boolSize (tag : Nat) (v : Bool) : Nat :=
  if v then keySize tag + 1 else 0

/-- The sum of some sizes. -/
def total (sizes : List Nat) : Nat :=
  sizes.foldr (· + ·) 0

/-- The bytes taken by a run of bytes of the given length. -/
def bytesSize (tag length : Nat) : Nat :=
  keySize tag + (varintSize length + length)

/-- A string that is written even when it is empty. -/
def itemField (tag : Nat) (v : String) : Field :=
  .bytes tag (Text.utf8 v)

/-- The bytes taken by a string that is written even when it is empty. -/
def itemSize (tag : Nat) (v : String) : Nat :=
  bytesSize tag (total (v.toList.map Char.utf8Size))

/-- A string, left out when it is empty. -/
def stringField (tag : Nat) (v : String) : List Field :=
  if v = "" then [] else [itemField tag v]

/-- The bytes taken by a string. -/
def stringSize (tag : Nat) (v : String) : Nat :=
  if v = "" then 0 else itemSize tag v

/-- A message inside another one. -/
def messageField {M : Type} [Message M] (tag : Nat) (v : M) : Field :=
  .bytes tag (Message.encode v)

/-- The bytes taken by a message inside another one. -/
def messageSize {M : Type} [Message M] (tag : Nat) (v : M) : Nat :=
  bytesSize tag (Message.size v)

/-- Reads an unsigned number and keeps its low 32 bits. -/
def uint32? : Field → Option UInt32
  | .varint _ n => some (UInt32.ofNat n)
  | _ => none

/-- Reads a signed number and keeps its low 32 bits. -/
def int32? : Field → Option Int32
  | .varint _ n => some (UInt32.ofNat n).toInt32
  | _ => none

/-- Reads a truth value; every number but zero is true. -/
def bool? : Field → Option Bool
  | .varint _ n => some (n != 0)
  | _ => none

/-- Reads a string, which has to be well-formed. -/
def string? : Field → Option String
  | .bytes _ content => Text.ofUtf8? content
  | _ => none

/-- Reads a message into the value that is there already. -/
def message? {M : Type} [Message M] (depth : Nat) (m : M) : Field → Option M
  | .bytes _ content =>
    match depth with
    | 0 => none
    | depth + 1 => Message.mergeBytes depth m content
  | _ => none

/-- The tag of a field. -/
def Field.tag : Field → Nat
  | .varint tag _ | .fixed64 tag _ | .bytes tag _ | .group tag _ | .fixed32 tag _ => tag

end RouteKeeper.Wire
