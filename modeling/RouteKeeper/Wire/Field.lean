import RouteKeeper.Wire.Varint

/-!
# Tagged fields

The wire form of a message is a run of fields. A field is a key, which holds its
tag and its wire type, and a payload. Groups hold fields and are closed by a key
of their own tag.

## Implementation notes

Reading goes down into groups by structural recursion on the depth that is left,
and along a run of fields by a fuel that the number of bytes is enough for, since
each field takes at least one byte.
-/

namespace RouteKeeper.Wire

/-- A field with its tag. -/
inductive Field where
  /-- A number below `2 ^ 64`. -/
  | varint (tag value : Nat)
  /-- Eight bytes. -/
  | fixed64 (tag : Nat) (content : List UInt8)
  /-- A run of bytes with its length. -/
  | bytes (tag : Nat) (content : List UInt8)
  /-- Fields up to a closing key. -/
  | group (tag : Nat) (fields : List Field)
  /-- Four bytes. -/
  | fixed32 (tag : Nat) (content : List UInt8)

/-- The key of a tag and a wire type. -/
def key (tag wireType : Nat) : List UInt8 :=
  varint (8 * tag + wireType)

mutual

/-- The bytes of a field. -/
def Field.encode : Field → List UInt8
  | .varint tag value => key tag 0 ++ Wire.varint value
  | .fixed64 tag content => key tag 1 ++ content
  | .bytes tag content => key tag 2 ++ (Wire.varint content.length ++ content)
  | .group tag fields => key tag 3 ++ (encodeFields fields ++ key tag 4)
  | .fixed32 tag content => key tag 5 ++ content

/-- The bytes of a run of fields. -/
def encodeFields : List Field → List UInt8
  | [] => []
  | f :: rest => f.encode ++ encodeFields rest

end

/-- Reads a key: a tag that is not zero and a wire type, in 32 bits. -/
def readKey (bs : List UInt8) : Option ((Nat × Nat) × List UInt8) := do
  let (k, rest) ← readVarint bs
  if k < 1 <<< 32 ∧ k / 8 ≠ 0 then some ((k / 8, k % 8), rest) else none

/-- Takes the given number of bytes, if there are so many. -/
def takeBytes (n : Nat) (bs : List UInt8) : Option (List UInt8 × List UInt8) :=
  if n ≤ bs.length then some (bs.take n, bs.drop n) else none

/-- Reads the rest of a group, given a reader for what follows a key. -/
def readGroup (readPayload : Nat → Nat → List UInt8 → Option (Field × List UInt8)) (tag : Nat) :
    Nat → List UInt8 → Option (List Field × List UInt8)
  | 0, _ => none
  | fuel + 1, bs => do
    let ((innerTag, wireType), rest) ← readKey bs
    if wireType = 4 then
      if innerTag = tag then some ([], rest) else none
    else
      let (f, rest) ← readPayload innerTag wireType rest
      let (fs, rest) ← readGroup readPayload tag fuel rest
      return (f :: fs, rest)

/-- Reads what follows a key. Groups may nest as deep as `depth` has it. -/
def readPayload : (depth : Nat) → (tag wireType : Nat) → List UInt8 →
    Option (Field × List UInt8)
  | 0, _, _, _ => none
  | depth + 1, tag, wireType, bs =>
    match wireType with
    | 0 => (readVarint bs).map fun (n, rest) => (.varint tag n, rest)
    | 1 => (takeBytes 8 bs).map fun (content, rest) => (.fixed64 tag content, rest)
    | 2 => do
      let (n, rest) ← readVarint bs
      (takeBytes n rest).map fun (content, rest) => (.bytes tag content, rest)
    | 3 => (readGroup (readPayload depth) tag (bs.length + 1) bs).map
        fun (fields, rest) => (.group tag fields, rest)
    | 5 => (takeBytes 4 bs).map fun (content, rest) => (.fixed32 tag content, rest)
    | _ => none

/-- Reads fields until no byte is left. -/
def readFieldsOf (depth : Nat) : Nat → List UInt8 → Option (List Field)
  | _, [] => some []
  | 0, _ :: _ => none
  | fuel + 1, b :: bs => do
    let ((tag, wireType), rest) ← readKey (b :: bs)
    let (f, rest) ← readPayload depth tag wireType rest
    let fs ← readFieldsOf depth fuel rest
    return f :: fs

/-- Reads a run of bytes as fields. -/
def readFields (depth : Nat) (bs : List UInt8) : Option (List Field) :=
  readFieldsOf depth bs.length bs

end RouteKeeper.Wire
