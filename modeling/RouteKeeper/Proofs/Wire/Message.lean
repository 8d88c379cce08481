import RouteKeeper.Proofs.Text.Utf8
import RouteKeeper.Proofs.Wire.Field

/-!
# Reading messages with fields of other tags among theirs

The written form of a message may have other fields put into it, at its own level and at that of
every message inside it. A layout tells which tags a type of messages declares, what the bytes of
each written field may look like, and what comes of a value that is written over another one. A
type is faithful when it passes over the tags that it does not declare and its fields, one after
another, put the written value over whatever is there already; then every such form is read as
the value.

## Implementation notes

A field is told by its bytes, and the values before and after it are told by the field. Reading
therefore goes from the front of the bytes, one field at a time, and never compares two lists of
fields. What a field does is stated with any value before it, since a message inside another one
is read into the value that is there.
-/

namespace RouteKeeper.Wire

open Message

/-! ## Fields put in between -/

/-- Bytes with the given parts in their order, and with extra ones before, between and after
them. -/
inductive Interspersed (extra : List UInt8 → Prop) : List (List UInt8 → Prop) → List UInt8 → Prop
  /-- Nothing is left. -/
  | nil : Interspersed extra [] []
  /-- Something extra comes first. -/
  | extra {parts : List (List UInt8 → Prop)} {bs rest : List UInt8} (h : extra bs)
      (hrest : Interspersed extra parts rest) : Interspersed extra parts (bs ++ rest)
  /-- The next part comes first. -/
  | part {p : List UInt8 → Prop} {parts : List (List UInt8 → Prop)} {bs rest : List UInt8}
      (h : p bs) (hrest : Interspersed extra parts rest) :
      Interspersed extra (p :: parts) (bs ++ rest)

/-- The bytes spell a field of none of the tags, whose groups nest less deep than the number has
it. -/
def Undeclared (depth : Nat) (tags : List Nat) (bs : List UInt8) : Prop :=
  ∃ f : Field, f.tag ∉ tags ∧ f.SpelledBy depth bs

/-- Bytes that are read as one field are such a spelling if its tag is none of those. -/
theorem undeclared_of_readFields {depth : Nat} {tags : List Nat} {f : Field} {bs : List UInt8}
    (h : readFields depth bs = some [f]) (htag : f.tag ∉ tags) : Undeclared depth tags bs := by
  obtain _ | ⟨hf, _ | _⟩ := readFields_eq_some_iff.mp h
  exact ⟨f, htag, by rwa [List.append_nil]⟩

/-- What a type of messages declares. -/
class Layout (M : Type) [Message M] where
  /-- The tags of its fields. -/
  tags : List Nat
  /-- What the bytes of each written field may be, when messages may nest as deep as the number
  has it. -/
  parts : Nat → M → List (List UInt8 → Prop)
  /-- The first value with the second one written over it. -/
  overlay : M → M → M

/-- A scalar with another one written over it; the default is left out, and so leaves what is
there. -/
def overwrite {α : Type} [DecidableEq α] (default old new : α) : α :=
  if new = default then old else new

@[simp] theorem overwrite_default {α : Type} [DecidableEq α] (default new : α) :
    overwrite default default new = new := by
  rw [overwrite]
  split
  · case isTrue h => exact h.symm
  · rfl

section

variable {M : Type} [Message M] [Layout M]

/-- The bytes are those of the value with undeclared fields put in anywhere. -/
def Padded (depth : Nat) (m : M) (bs : List UInt8) : Prop :=
  Interspersed (Undeclared depth (Layout.tags M)) (Layout.parts depth m) bs

/-- The bytes are the written form of the field. -/
def IsEncoding (f : Field) (bs : List UInt8) : Prop :=
  bs = f.encode

/-- The bytes are those of a message inside another one, with undeclared fields put in anywhere
and the length that this takes. -/
def Enclosed (depth tag : Nat) (v : M) (bs : List UInt8) : Prop :=
  ∃ content, Padded (depth - 1) v content ∧ bs = (Field.bytes tag content).encode

end

theorem Interspersed.append {extra : List UInt8 → Prop} {parts parts' : List (List UInt8 → Prop)}
    {bs bs' : List UInt8} (h : Interspersed extra parts bs) (h' : Interspersed extra parts' bs') :
    Interspersed extra (parts ++ parts') (bs ++ bs') := by
  induction h with
  | nil => exact h'
  | extra hbs _ ih => exact (List.append_assoc ..) ▸ .extra hbs ih
  | part hbs _ ih => exact (List.append_assoc ..) ▸ .part hbs ih

/-- Fields that fit the parts are bytes of them with nothing extra. -/
theorem interspersed_map {α : Type} {extra : List UInt8 → Prop} {part : α → List UInt8 → Prop}
    {field : α → Field} (h : ∀ x, part x (field x).encode) (xs : List α) :
    Interspersed extra (xs.map part) (encodeFields (xs.map field)) := by
  induction xs with
  | nil => exact .nil
  | cons x xs ih => exact .part (h x) ih

/-- Written fields are bytes of themselves with nothing extra. -/
theorem interspersed_written (extra : List UInt8 → Prop) (fs : List Field) :
    Interspersed extra (fs.map IsEncoding) (encodeFields fs) := by
  have hself (f : Field) : IsEncoding f (id f).encode := rfl
  have h : Interspersed extra (fs.map IsEncoding) _ := interspersed_map hself fs
  rwa [List.map_id] at h

/-! ## Reading one field after another -/

/-- A field at the front is the first that is read. -/
theorem readFields_append {depth : Nat} {f : Field} {bs : List UInt8} (h : f.SpelledBy depth bs)
    (rest : List UInt8) :
    readFields depth (bs ++ rest) = (readFields depth rest).map (f :: ·) := by
  have hreads := reads_readPayload depth
  have hpos := hreads.length_pos h
  -- The longer bytes come with more fuel than the rest needs, which reads the same.
  have hfuel (fuel : Nat) (hle : rest.length ≤ fuel) :
      readFieldsOf depth fuel rest = readFields depth rest :=
    Option.ext fun _ => (readFieldsOf_eq_some_iff hle).trans readFields_eq_some_iff.symm
  cases bs with
  | nil => exact absurd hpos (Nat.lt_irrefl 0)
  | cons b bs =>
      have hfront := (hreads (b :: bs ++ rest) f rest).mpr ⟨b :: bs, h, rfl⟩
      have hle : rest.length ≤ (bs ++ rest).length := by
        rw [List.length_append]
        exact Nat.le_add_left ..
      rw [readFields, List.cons_append, List.length_cons, readFieldsOf_succ, ← List.cons_append,
        hfront, Option.bind_some, hfuel _ hle]
      cases readFields depth rest <;> rfl

section

variable {M : Type} [Message M] {depth : Nat} {m m₁ m' : M}

@[simp] theorem mergeBytes_nil : mergeBytes depth m [] = some m := by
  rw [mergeBytes, readFields, List.length_nil, readFieldsOf]
  rfl

/-- A field at the front is the first that is merged. -/
theorem mergeBytes_append {f : Field} {bs : List UInt8} (h : f.SpelledBy depth bs)
    (hmerge : merge depth m f = some m₁) (rest : List UInt8) :
    mergeBytes depth m (bs ++ rest) = mergeBytes depth m₁ rest := by
  rw [mergeBytes, mergeBytes, readFields_append h]
  cases readFields depth rest with
  | none => rfl
  | some fs =>
      show List.foldlM (merge depth) m (f :: fs) = List.foldlM (merge depth) m₁ fs
      rw [List.foldlM_cons, hmerge]
      rfl

/-- Whatever bytes the part has, they spell one field, which turns the one value into the
other. -/
def Takes (depth : Nat) (m : M) (part : List UInt8 → Prop) (m' : M) : Prop :=
  ∀ bs, part bs → bs.length < 2 ^ 64 →
    ∃ f : Field, f.SpelledBy depth bs ∧ merge depth m f = some m'

/-- Parts that turn the one value into the other, one after another. -/
inductive TakesAll (depth : Nat) : M → List (List UInt8 → Prop) → M → Prop
  /-- No part leaves the value as it is. -/
  | nil {m : M} : TakesAll depth m [] m
  /-- A part, and the others after it. -/
  | cons {m m₁ m' : M} {part : List UInt8 → Prop} {parts : List (List UInt8 → Prop)}
      (h : Takes depth m part m₁) (hrest : TakesAll depth m₁ parts m') :
      TakesAll depth m (part :: parts) m'

theorem TakesAll.append {parts parts' : List (List UInt8 → Prop)}
    (h : TakesAll depth m parts m₁) (h' : TakesAll depth m₁ parts' m') :
    TakesAll depth m (parts ++ parts') m' := by
  induction h with
  | nil => exact h'
  | cons hpart _ ih => exact .cons hpart (ih h')

theorem TakesAll.of_eq {parts : List (List UInt8 → Prop)} (h : TakesAll depth m parts m₁)
    (hm : m₁ = m') : TakesAll depth m parts m' :=
  hm ▸ h

/-- One part for each item of a list, with the value that the items so far have led to. -/
theorem TakesAll.of_items {α : Type} {part : α → List UInt8 → Prop} {state : List α → M}
    (hitem : ∀ done x, Takes depth (state done) (part x) (state (done ++ [x])))
    (done xs : List α) : TakesAll depth (state done) (xs.map part) (state (done ++ xs)) := by
  induction xs generalizing done with
  | nil => exact (List.append_nil done).symm ▸ .nil
  | cons x xs ih =>
      have hrest := ih (done ++ [x])
      rw [List.append_assoc, List.singleton_append] at hrest
      exact .cons (hitem done x) hrest

/-- **One run.** Parts are read as what they do to the value, whatever is put in between. -/
theorem TakesAll.mergeBytes {parts : List (List UInt8 → Prop)} {tags : List Nat}
    {bs : List UInt8} (h : TakesAll depth m parts m')
    (hskips : ∀ (m : M) (f : Field), f.tag ∉ tags → merge depth m f = some m)
    (hbs : Interspersed (Undeclared depth tags) parts bs) (hlength : bs.length < 2 ^ 64) :
    mergeBytes depth m bs = some m' := by
  induction hbs generalizing m with
  | nil =>
      cases h
      exact mergeBytes_nil
  | extra hextra _ ih =>
      obtain ⟨f, htag, hf⟩ := hextra
      rw [List.length_append] at hlength
      rw [mergeBytes_append hf (hskips m f htag)]
      exact ih h (by omega)
  | part hpart _ ih =>
      cases h with
      | cons hfirst hrest =>
          rw [List.length_append] at hlength
          obtain ⟨f, hf, hmerge⟩ := hfirst _ hpart (by omega)
          rw [mergeBytes_append hf hmerge]
          exact ih hrest (by omega)

end

/-! ## Written fields -/

/-- A number that may be the tag of a field. -/
def IsTag (tag : Nat) : Prop :=
  0 < tag ∧ tag < 2 ^ 29

instance (tag : Nat) : Decidable (IsTag tag) :=
  inferInstanceAs (Decidable (_ ∧ _))

theorem IsTag.isKey_key {tag wireType : Nat} (h : IsTag tag) (hwire : wireType < 8) :
    IsKey (key tag wireType) tag wireType := by
  obtain ⟨hpos, hlt⟩ := h
  exact ⟨isVarint_varint (by omega), hpos, by omega⟩

theorem spelledBy_varint {tag n : Nat} (htag : IsTag tag) (hn : n < 2 ^ 64) (depth : Nat) :
    (Field.varint tag n).SpelledBy (depth + 1) (Field.varint tag n).encode :=
  ⟨_, _, htag.isKey_key (Field.wireType_lt _), isVarint_varint hn, by rw [Field.encode]; rfl⟩

theorem spelledBy_bytes {tag : Nat} {content : List UInt8} (htag : IsTag tag)
    (hlength : (Field.bytes tag content).encode.length < 2 ^ 64) (depth : Nat) :
    (Field.bytes tag content).SpelledBy (depth + 1) (Field.bytes tag content).encode := by
  rw [Field.encode, List.length_append, List.length_append] at hlength
  exact ⟨_, _, htag.isKey_key (Field.wireType_lt _), ⟨_, isVarint_varint (by omega), rfl⟩,
    by rw [Field.encode]; rfl⟩

@[simp] theorem uint32?_toNat (tag : Nat) (v : UInt32) :
    uint32? (.varint tag v.toNat) = some v := by
  simp [uint32?]

theorem int32Bits_lt (v : Int32) : int32Bits v < 2 ^ 64 :=
  v.toInt64.toUInt64.toNat_lt

/-- The low 32 bits of a signed number tell it. -/
@[simp] theorem int32?_int32Bits (tag : Nat) (v : Int32) :
    int32? (.varint tag (int32Bits v)) = some v := by
  have hlow : v.toInt64.toUInt64.toUInt32.toInt32 = v.toInt64.toInt32 := by
    apply Int32.toBitVec_inj.mp
    rw [Int64.toBitVec_toInt32, BitVec.signExtend_eq_setWidth_of_le _ (by decide)]
    rfl
  rw [int32?, int32Bits, UInt32.ofNat_uInt64ToNat, hlow, Int32.toInt32_toInt64]

@[simp] theorem string?_itemField (tag : Nat) (v : String) : string? (itemField tag v) = some v :=
  Text.ofUtf8?_utf8 v

section

variable {M : Type} [Message M] {depth tag : Nat} {m m' : M}

theorem takes_varint {n : Nat} (htag : IsTag tag) (hn : n < 2 ^ 64)
    (hmerge : merge (depth + 1) m (.varint tag n) = some m') :
    Takes (depth + 1) m (IsEncoding (.varint tag n)) m' := by
  rintro _ rfl -
  exact ⟨_, spelledBy_varint htag hn depth, hmerge⟩

theorem takes_itemField {v : String} (htag : IsTag tag)
    (hmerge : merge (depth + 1) m (itemField tag v) = some m') :
    Takes (depth + 1) m (IsEncoding (itemField tag v)) m' := by
  rintro _ rfl hlength
  exact ⟨_, spelledBy_bytes htag hlength depth, hmerge⟩

/-- A scalar is left out when it is the default, and otherwise sets what it is read as. -/
theorem takesAll_ite {α : Type} [DecidableEq α] {default old new : α} (set : α → M) {f : Field}
    (hset : Takes depth (set old) (IsEncoding f) (set new)) :
    TakesAll depth (set old) ((if new = default then [] else [f]).map IsEncoding)
      (set (overwrite default old new)) := by
  rw [overwrite]
  split
  · exact .nil
  · exact .cons hset .nil

theorem takesAll_uint32Field (set : UInt32 → M) {old new : UInt32} (htag : IsTag tag)
    (hmerge : ∀ f : Field, f.tag = tag →
      merge (depth + 1) (set old) f = (uint32? f).map set) :
    TakesAll (depth + 1) (set old) ((uint32Field tag new).map IsEncoding)
      (set (overwrite 0 old new)) := by
  refine takesAll_ite set (takes_varint htag (Nat.lt_trans new.toNat_lt (by decide)) ?_)
  rw [hmerge _ rfl, uint32?_toNat, Option.map_some]

theorem takesAll_int32Field (set : Int32 → M) {old new : Int32} (htag : IsTag tag)
    (hmerge : ∀ f : Field, f.tag = tag → merge (depth + 1) (set old) f = (int32? f).map set) :
    TakesAll (depth + 1) (set old) ((int32Field tag new).map IsEncoding)
      (set (overwrite 0 old new)) := by
  refine takesAll_ite set (takes_varint htag (int32Bits_lt new) ?_)
  rw [hmerge _ rfl, int32?_int32Bits, Option.map_some]

theorem takesAll_stringField (set : String → M) {old new : String} (htag : IsTag tag)
    (hmerge : ∀ f : Field, f.tag = tag → merge (depth + 1) (set old) f = (string? f).map set) :
    TakesAll (depth + 1) (set old) ((stringField tag new).map IsEncoding)
      (set (overwrite "" old new)) := by
  refine takesAll_ite set (takes_itemField htag ?_)
  rw [hmerge _ rfl, string?_itemField, Option.map_some]

theorem takesAll_boolField (set : Bool → M) {old new : Bool} (htag : IsTag tag)
    (hmerge : ∀ f : Field, f.tag = tag → merge (depth + 1) (set old) f = (bool? f).map set) :
    TakesAll (depth + 1) (set old) ((boolField tag new).map IsEncoding)
      (set (overwrite false old new)) := by
  cases new with
  | false => exact .nil
  | true => exact .cons (takes_varint htag (by decide) (hmerge _ rfl)) .nil

/-- Strings that are written one by one are added to those that are there. -/
theorem takesAll_itemField (set : List String → M) (htag : IsTag tag)
    (hmerge : ∀ (f : Field) (old : List String), f.tag = tag →
      merge (depth + 1) (set old) f = (string? f).map fun v => set (old ++ [v]))
    (old new : List String) :
    TakesAll (depth + 1) (set old) ((new.map (itemField tag)).map IsEncoding)
      (set (old ++ new)) := by
  rw [List.map_map]
  refine TakesAll.of_items (fun done v => takes_itemField htag ?_) old new
  rw [hmerge _ done rfl, string?_itemField, Option.map_some]

end

/-! ## Faithful types -/

/-- A type of messages that passes over the tags it does not declare, and whose written fields
put the value over what is there. Messages inside its messages nest as deep as the height has
it. -/
structure Faithful (M : Type) [Message M] [Layout M] (height : Nat) : Prop where
  skips (depth : Nat) (m : M) (f : Field) (h : f.tag ∉ Layout.tags M) : merge depth m f = some m
  takes (depth : Nat) (h : height ≤ depth) (old new : M) :
    TakesAll (depth + 1) old (Layout.parts (depth + 1) new) (Layout.overlay old new)
  overlay_empty (m : M) : Layout.overlay empty m = m
  padded_encode (depth : Nat) (m : M) : Padded depth m (encode m)

section

variable {M : Type} [Message M] [Layout M] {height : Nat} (h : Faithful M height)
include h

/-- Every form of a value with undeclared fields put in writes the value over what is there. -/
theorem Faithful.mergeBytes_padded {depth : Nat} {new : M} {bs : List UInt8}
    (hdepth : height < depth) (hbs : Padded depth new bs) (hlength : bs.length < 2 ^ 64)
    (old : M) : mergeBytes depth old bs = some (Layout.overlay old new) := by
  obtain ⟨depth, rfl⟩ := Nat.exists_eq_add_one_of_ne_zero (Nat.ne_zero_of_lt hdepth)
  exact (h.takes depth (Nat.le_of_lt_succ hdepth) old new).mergeBytes (h.skips _) hbs hlength

/-- **Skipping.** Every form of a value with undeclared fields put in is read as the value. -/
theorem Faithful.decode_of_padded {m : M} {bs : List UInt8} (hheight : height < depthLimit)
    (hbs : Padded depthLimit m bs) (hlength : bs.length < 2 ^ 64) : decode bs = some m := by
  rw [decode, h.mergeBytes_padded hheight hbs hlength, h.overlay_empty]

/-- **Round trip.** What is written of a value is read as the value. -/
theorem Faithful.decode_encode_of_length {m : M} (hheight : height < depthLimit)
    (hlength : (encode m).length < 2 ^ 64) : decode (encode m) = some m :=
  h.decode_of_padded hheight (h.padded_encode depthLimit m) hlength

variable {N : Type} [Message N] {depth tag : Nat}

/-- A message inside another one is one field, which is read into the message that is there. -/
theorem Faithful.takes_enclosed {m : N} (set : M → N) {old new : M} (htag : IsTag tag)
    (hdepth : height < depth)
    (hmerge : ∀ f : Field, f.tag = tag →
      merge (depth + 1) m f = (message? (depth + 1) old f).map set) :
    Takes (depth + 1) m (Enclosed (depth + 1) tag new) (set (Layout.overlay old new)) := by
  rintro _ ⟨content, hcontent, rfl⟩ hlength
  have hinner : content.length < 2 ^ 64 := by
    rw [Field.encode, List.length_append, List.length_append] at hlength
    omega
  have hread : message? (depth + 1) old (.bytes tag content) = some (Layout.overlay old new) :=
    h.mergeBytes_padded hdepth hcontent hinner old
  exact ⟨_, spelledBy_bytes htag hlength depth, by rw [hmerge _ rfl, hread, Option.map_some]⟩

/-- Messages that are written one by one are added to those that are there. -/
theorem Faithful.takesAll_enclosed (set : List M → N) (htag : IsTag tag) (hdepth : height < depth)
    (hmerge : ∀ (f : Field) (old : List M), f.tag = tag →
      merge (depth + 1) (set old) f =
        (message? (depth + 1) empty f).map fun v => set (old ++ [v]))
    (old new : List M) :
    TakesAll (depth + 1) (set old) (new.map (Enclosed (depth + 1) tag)) (set (old ++ new)) := by
  refine TakesAll.of_items (fun done v => ?_) old new
  have hv : Takes (depth + 1) (set done) (Enclosed (depth + 1) tag v) _ :=
    h.takes_enclosed _ htag hdepth fun f hf => hmerge f done hf
  rwa [h.overlay_empty] at hv

omit [Message N] in
/-- A message inside another one may be written as it is. -/
theorem Faithful.enclosed_messageField (depth tag : Nat) (v : M) :
    Enclosed depth tag v (messageField tag v).encode :=
  ⟨encode v, h.padded_encode (depth - 1) v, rfl⟩

end

end RouteKeeper.Wire
