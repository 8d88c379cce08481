import RouteKeeper.Proofs.Wire.Varint
import RouteKeeper.Wire.Message

/-!
# Declared sizes

The declared size of each kind of field is the number of bytes that are written for it. A key
takes as many bytes as the tag alone does, since its wire type has three bits of its own and
seven bits fit a byte.
-/

namespace RouteKeeper.Wire

theorem encodeFields_append (fs gs : List Field) :
    encodeFields (fs ++ gs) = encodeFields fs ++ encodeFields gs := by
  induction fs with
  | nil => rfl
  | cons f fs ih => rw [List.cons_append, encodeFields, encodeFields, ih, List.append_assoc]

@[simp] theorem length_encodeFields_append (fs gs : List Field) :
    (encodeFields (fs ++ gs)).length = (encodeFields fs).length + (encodeFields gs).length := by
  rw [encodeFields_append, List.length_append]

@[simp] theorem encodeFields_singleton (f : Field) : encodeFields [f] = f.encode := by
  rw [encodeFields, encodeFields, List.append_nil]

/-- Fields that are written one for each item take what the items take. -/
theorem length_encodeFields_map {α : Type} {field : α → Field} {size : α → Nat}
    (h : ∀ x, (field x).encode.length = size x) (xs : List α) :
    (encodeFields (xs.map field)).length = total (xs.map size) := by
  induction xs with
  | nil => rfl
  | cons x xs ih =>
      rw [List.map_cons, encodeFields, List.length_append, h, ih]
      rfl

theorem length_key (tag : Nat) {wireType : Nat} (h : wireType < 8) :
    (key tag wireType).length = keySize tag := by
  have hquotient : (8 * tag + wireType) / 128 = 8 * tag / 128 := by omega
  rw [key, length_varint, keySize, varintSize, varintSize.eq_def (8 * tag), hquotient]
  congr 1
  exact propext (by omega)

theorem length_encode_varint (tag n : Nat) :
    (Field.varint tag n).encode.length = keySize tag + varintSize n := by
  rw [Field.encode, List.length_append, length_key tag (by decide), length_varint]

theorem length_encode_bytes (tag : Nat) (content : List UInt8) :
    (Field.bytes tag content).encode.length = bytesSize tag content.length := by
  rw [Field.encode, List.length_append, List.length_append, length_key tag (by decide),
    length_varint, bytesSize]

@[simp] theorem length_uint32Field (tag : Nat) (v : UInt32) :
    (encodeFields (uint32Field tag v)).length = uint32Size tag v := by
  rw [uint32Field, uint32Size]
  split
  · rfl
  · rw [encodeFields_singleton, length_encode_varint]

@[simp] theorem length_int32Field (tag : Nat) (v : Int32) :
    (encodeFields (int32Field tag v)).length = int32Size tag v := by
  rw [int32Field, int32Size]
  split
  · rfl
  · rw [encodeFields_singleton, length_encode_varint]

@[simp] theorem length_boolField (tag : Nat) (v : Bool) :
    (encodeFields (boolField tag v)).length = boolSize tag v := by
  have hone : varintSize 1 = 1 := by rw [varintSize, if_pos (by decide)]
  cases v with
  | false => rfl
  | true => rw [boolField, boolSize, if_pos rfl, if_pos rfl, encodeFields_singleton,
      length_encode_varint, hone]

/-- A string takes as many bytes as its characters do. -/
theorem length_utf8 (s : String) : (Text.utf8 s).length = total (s.toList.map Char.utf8Size) := by
  rw [Text.utf8]
  induction s.toList with
  | nil => rfl
  | cons c cs ih =>
      rw [List.flatMap_cons, List.length_append, String.length_utf8EncodeChar, ih, List.map_cons]
      rfl

theorem length_itemField (tag : Nat) (v : String) :
    (itemField tag v).encode.length = itemSize tag v := by
  rw [itemField, length_encode_bytes, length_utf8, itemSize]

@[simp] theorem length_stringField (tag : Nat) (v : String) :
    (encodeFields (stringField tag v)).length = stringSize tag v := by
  rw [stringField, stringSize]
  split
  · rfl
  · rw [encodeFields_singleton, length_itemField]

/-- A key and a length take at most ten bytes each. -/
theorem bytesSize_le {tag length : Nat} (htag : tag < 2 ^ 29) (h : length < 2 ^ 64) :
    bytesSize tag length ≤ length + 20 := by
  have hkey : keySize tag ≤ 10 := varintSize_le (k := 9) (by omega)
  have hlength : varintSize length ≤ 10 := varintSize_le (k := 9) (by omega)
  rw [bytesSize]
  omega

/-- A character takes at most four bytes. -/
theorem itemSize_le {tag : Nat} {v : String} (htag : tag < 2 ^ 29)
    (h : v.toList.length < 2 ^ 60) : itemSize tag v ≤ 4 * v.toList.length + 20 := by
  have htotal (cs : List Char) : total (cs.map Char.utf8Size) ≤ 4 * cs.length := by
    induction cs with
    | nil => exact Nat.le_refl 0
    | cons c cs ih =>
        have hc := c.utf8Size_le_four
        show c.utf8Size + total (cs.map Char.utf8Size) ≤ 4 * (cs.length + 1)
        omega
  have hv := htotal v.toList
  have hbytes := bytesSize_le htag (show total (v.toList.map Char.utf8Size) < 2 ^ 64 by omega)
  rw [itemSize]
  omega

/-- A message inside another one takes what it takes by itself, and its key and length. -/
theorem length_messageField {M : Type} [Message M] {v : M}
    (h : (Message.encode v).length = Message.size v) (tag : Nat) :
    (messageField tag v).encode.length = messageSize tag v := by
  rw [messageField, length_encode_bytes, h, messageSize]

end RouteKeeper.Wire
