import RouteKeeper.Proofs.Wire.Message
import RouteKeeper.Proofs.Wire.Size
import RouteKeeper.Vpp.Wire

/-!
# Reading the configurator's messages back

Every type of messages of the configurator is faithful, from routes and interfaces up to the
requests and responses that hold them. So every value is read back from its bytes, also when the
agent puts fields of other tags among its own, and its declared size is the number of bytes that
are written.
-/

namespace RouteKeeper.Vpp

open RouteKeeper.Wire
open Message

/-! ## Routes and interfaces -/

instance : Layout Route where
  tags := [1, 3, 4, 5, 6, 7, 8, 10]
  parts _ r := (fields r).map IsEncoding
  overlay a b :=
    { vrfId := overwrite 0 a.vrfId b.vrfId
      dstNetwork := overwrite "" a.dstNetwork b.dstNetwork
      nextHopAddr := overwrite "" a.nextHopAddr b.nextHopAddr
      outgoingInterface := overwrite "" a.outgoingInterface b.outgoingInterface
      weight := overwrite 0 a.weight b.weight
      preference := overwrite 0 a.preference b.preference
      viaVrfId := overwrite 0 a.viaVrfId b.viaVrfId
      type := overwrite 0 a.type b.type }

/-- The fields of a route are written over what is there, one after another. -/
theorem takesAll_route (depth : Nat) (a b : Route) :
    TakesAll (depth + 1) a ((fields b).map IsEncoding) (Layout.overlay a b) := by
  -- What was written so far is that of `o`, and the rest is still that of `a`.
  let o := Layout.overlay a b
  simp only [fields, List.map_append]
  refine .append (takesAll_uint32Field (fun v => { a with vrfId := v }) (by decide)
    fun f hf => by simp [merge, hf]) ?_
  refine .append (takesAll_stringField (fun v => { a with vrfId := o.vrfId, dstNetwork := v })
    (by decide) fun f hf => by simp [merge, hf]) ?_
  refine .append (takesAll_stringField (fun v =>
    { a with vrfId := o.vrfId, dstNetwork := o.dstNetwork, nextHopAddr := v })
    (by decide) fun f hf => by simp [merge, hf]) ?_
  refine .append (takesAll_stringField (fun v =>
    { o with outgoingInterface := v, weight := a.weight, preference := a.preference,
             viaVrfId := a.viaVrfId, type := a.type })
    (by decide) fun f hf => by simp [merge, hf]) ?_
  refine .append (takesAll_uint32Field (fun v =>
    { o with weight := v, preference := a.preference, viaVrfId := a.viaVrfId, type := a.type })
    (by decide) fun f hf => by simp [merge, hf]) ?_
  refine .append (takesAll_uint32Field (fun v =>
    { o with preference := v, viaVrfId := a.viaVrfId, type := a.type })
    (by decide) fun f hf => by simp [merge, hf]) ?_
  refine .append (takesAll_uint32Field (fun v => { o with viaVrfId := v, type := a.type })
    (by decide) fun f hf => by simp [merge, hf]) ?_
  exact .of_eq (takesAll_int32Field (fun v => { o with type := v }) (by decide)
    fun f hf => by simp [merge, hf]) rfl

theorem route_faithful : Faithful Route 0 where
  skips _ _ _ h := by simp_all [merge, Layout.tags]
  takes depth _ := takesAll_route depth
  overlay_empty _ := by simp [Layout.overlay, empty]
  padded_encode _ r := interspersed_written _ (fields r)

theorem length_encode_route (r : Route) : (encode r).length = size r := by
  simp only [encode, fields, size, length_encodeFields_append, length_uint32Field,
    length_stringField, length_int32Field]
  omega

instance : Layout Interface where
  tags := [1, 3, 8]
  parts _ i := (fields i).map IsEncoding
  overlay a b :=
    { name := overwrite "" a.name b.name
      enabled := overwrite false a.enabled b.enabled
      ipAddresses := a.ipAddresses ++ b.ipAddresses }

/-- The fields of an interface are written over what is there, and its addresses are added. -/
theorem takesAll_interface (depth : Nat) (a b : Interface) :
    TakesAll (depth + 1) a ((fields b).map IsEncoding) (Layout.overlay a b) := by
  let o := Layout.overlay a b
  simp only [fields, List.map_append]
  refine .append (takesAll_stringField (fun v => { a with name := v }) (by decide)
    fun f hf => by simp [merge, hf]) ?_
  refine .append (takesAll_boolField (fun v => { a with name := o.name, enabled := v }) (by decide)
    fun f hf => by simp [merge, hf]) ?_
  exact .of_eq (takesAll_itemField (fun v => { o with ipAddresses := v }) (by decide)
    (fun f old hf => by simp [merge, hf]) a.ipAddresses b.ipAddresses) rfl

theorem interface_faithful : Faithful Interface 0 where
  skips _ _ _ h := by simp_all [merge, Layout.tags]
  takes depth _ := takesAll_interface depth
  overlay_empty _ := by simp [Layout.overlay, empty]
  padded_encode _ i := interspersed_written _ (fields i)

theorem length_encode_interface (i : Interface) : (encode i).length = size i := by
  simp only [encode, fields, size, length_encodeFields_append, length_stringField,
    length_boolField, length_encodeFields_map (length_itemField 8)]
  omega

/-! ## Configurations -/

instance : Layout ConfigData where
  tags := [10, 40]
  parts depth c := c.interfaces.map (Enclosed depth 10) ++ c.routes.map (Enclosed depth 40)
  overlay a b := { interfaces := a.interfaces ++ b.interfaces, routes := a.routes ++ b.routes }

theorem configData_faithful : Faithful ConfigData 1 where
  skips _ _ _ h := by simp_all [merge, Layout.tags]
  takes depth hdepth a b := by
    refine .append (interface_faithful.takesAll_enclosed (fun v => { a with interfaces := v })
      (by decide) hdepth (fun f old hf => by simp [merge, hf]) a.interfaces b.interfaces) ?_
    exact .of_eq (route_faithful.takesAll_enclosed
      (fun v => ({ interfaces := a.interfaces ++ b.interfaces, routes := v } : ConfigData))
      (by decide) hdepth (fun f old hf => by simp [merge, hf]) a.routes b.routes) rfl
  overlay_empty _ := rfl
  padded_encode depth c := by
    simp only [encode, fields, encodeFields_append]
    exact .append
      (interspersed_map (interface_faithful.enclosed_messageField depth 10) c.interfaces)
      (interspersed_map (route_faithful.enclosed_messageField depth 40) c.routes)

theorem length_encode_configData (c : ConfigData) : (encode c).length = size c := by
  simp only [encode, fields, size, length_encodeFields_append]
  rw [length_encodeFields_map (fun i => length_messageField (length_encode_interface i) 10),
    length_encodeFields_map (fun r => length_messageField (length_encode_route r) 40)]

/-! ## Messages that may be absent -/

section

variable {M : Type} [Message M]

/-- A message that may be absent with another one written over it; an absent one is left out. -/
def overlayOption [Layout M] : Option M → Option M → Option M
  | old, none => old
  | old, some new => some (Layout.overlay (old.getD empty) new)

/-- What the bytes of a message that may be absent may be. -/
def optionalParts [Layout M] (depth tag : Nat) (v : Option M) : List (List UInt8 → Prop) :=
  v.toList.map (Enclosed depth tag)

theorem length_optionalField (h : ∀ v : M, (encode v).length = size v) (tag : Nat)
    (v : Option M) : (encodeFields (optionalField tag v)).length = optionalSize tag v := by
  cases v with
  | none => rfl
  | some v =>
    rw [optionalField, length_encodeFields_map (fun v => length_messageField (h v) tag)]
    rfl

variable [Layout M] {height : Nat} (h : Faithful M height)
include h

theorem overlayOption_none (v : Option M) : overlayOption none v = v := by
  cases v with
  | none => rfl
  | some v => exact congrArg some (h.overlay_empty v)

theorem interspersed_optionalField (extra : List UInt8 → Prop) (depth tag : Nat) (v : Option M) :
    Interspersed extra (optionalParts depth tag v) (encodeFields (optionalField tag v)) :=
  interspersed_map (h.enclosed_messageField depth tag) v.toList

/-- A message that may be absent is read into what is there. -/
theorem takesAll_optionalField {N : Type} [Message N] {depth tag : Nat} (set : Option M → N)
    (htag : IsTag tag) (hdepth : height < depth) (old new : Option M)
    (hmerge : ∀ f : Field, f.tag = tag →
      merge (depth + 1) (set old) f = (optional? (depth + 1) old f).map set) :
    TakesAll (depth + 1) (set old) (optionalParts (depth + 1) tag new)
      (set (overlayOption old new)) := by
  cases new with
  | none => exact .nil
  | some new =>
      refine .cons (h.takes_enclosed (fun v => set (some v)) htag hdepth fun f hf => ?_) .nil
      rw [hmerge f hf, optional?, Option.map_map]
      rfl

end

instance : Layout Config where
  tags := [1]
  parts depth c := optionalParts depth 1 c.vppConfig
  overlay a b := { vppConfig := overlayOption a.vppConfig b.vppConfig }

theorem config_faithful : Faithful Config 2 where
  skips _ _ _ h := by simp_all [merge, Layout.tags]
  takes depth hdepth a b := takesAll_optionalField configData_faithful
    (fun v => ({ vppConfig := v } : Config)) (by decide) hdepth a.vppConfig b.vppConfig
    fun f hf => by simp [merge, hf]
  overlay_empty c := congrArg Config.mk (overlayOption_none configData_faithful c.vppConfig)
  padded_encode depth c := interspersed_optionalField configData_faithful _ depth 1 c.vppConfig

theorem length_encode_config (c : Config) : (encode c).length = size c :=
  length_optionalField length_encode_configData 1 c.vppConfig

/-! ## Requests and responses -/

instance : Layout UpdateRequest where
  tags := [1, 2]
  parts depth r := optionalParts depth 1 r.update ++ (boolField 2 r.fullResync).map IsEncoding
  overlay a b :=
    { update := overlayOption a.update b.update
      fullResync := overwrite false a.fullResync b.fullResync }

theorem updateRequest_faithful : Faithful UpdateRequest 3 where
  skips _ _ _ h := by simp_all [merge, Layout.tags]
  takes depth hdepth a b := by
    refine .append (takesAll_optionalField config_faithful (fun v => { a with update := v })
      (by decide) hdepth a.update b.update fun f hf => by simp [merge, hf]) ?_
    exact .of_eq (takesAll_boolField
      (fun v => ({ update := overlayOption a.update b.update, fullResync := v } : UpdateRequest))
      (by decide) fun f hf => by simp [merge, hf]) rfl
  overlay_empty r := by
    simp [Layout.overlay, empty, overlayOption_none config_faithful]
  padded_encode depth r := by
    simp only [encode, fields, encodeFields_append]
    exact .append (interspersed_optionalField config_faithful _ depth 1 r.update)
      (interspersed_written _ (boolField 2 r.fullResync))

theorem length_encode_updateRequest (r : UpdateRequest) : (encode r).length = size r := by
  simp only [encode, fields, size, length_encodeFields_append, length_boolField,
    length_optionalField length_encode_config]

instance : Layout DeleteRequest where
  tags := [1]
  parts depth r := optionalParts depth 1 r.delete
  overlay a b := { delete := overlayOption a.delete b.delete }

theorem deleteRequest_faithful : Faithful DeleteRequest 3 where
  skips _ _ _ h := by simp_all [merge, Layout.tags]
  takes depth hdepth a b := takesAll_optionalField config_faithful
    (fun v => ({ delete := v } : DeleteRequest)) (by decide) hdepth a.delete b.delete
    fun f hf => by simp [merge, hf]
  overlay_empty r := congrArg DeleteRequest.mk (overlayOption_none config_faithful r.delete)
  padded_encode depth r := interspersed_optionalField config_faithful _ depth 1 r.delete

instance : Layout GetResponse where
  tags := [1]
  parts depth r := optionalParts depth 1 r.config
  overlay a b := { config := overlayOption a.config b.config }

theorem getResponse_faithful : Faithful GetResponse 3 where
  skips _ _ _ h := by simp_all [merge, Layout.tags]
  takes depth hdepth a b := takesAll_optionalField config_faithful
    (fun v => ({ config := v } : GetResponse)) (by decide) hdepth a.config b.config
    fun f hf => by simp [merge, hf]
  overlay_empty r := congrArg GetResponse.mk (overlayOption_none config_faithful r.config)
  padded_encode depth r := interspersed_optionalField config_faithful _ depth 1 r.config

instance : Layout UpdateResponse where
  tags := []
  parts _ _ := []
  overlay a _ := a

instance : Layout DeleteResponse where
  tags := []
  parts _ _ := []
  overlay a _ := a

instance : Layout GetRequest where
  tags := []
  parts _ _ := []
  overlay a _ := a

theorem updateResponse_faithful : Faithful UpdateResponse 0 where
  skips _ _ _ _ := rfl
  takes _ _ _ _ := .nil
  overlay_empty _ := rfl
  padded_encode _ _ := .nil

theorem deleteResponse_faithful : Faithful DeleteResponse 0 where
  skips _ _ _ _ := rfl
  takes _ _ _ _ := .nil
  overlay_empty _ := rfl
  padded_encode _ _ := .nil

theorem getRequest_faithful : Faithful GetRequest 0 where
  skips _ _ _ _ := rfl
  takes _ _ _ _ := .nil
  overlay_empty _ := rfl
  padded_encode _ _ := .nil

/-! ## The whole schema -/

/-- The types of messages. -/
inductive MessageType where
  | route
  | interface
  | configData
  | config
  | updateRequest
  | updateResponse
  | deleteRequest
  | deleteResponse
  | getRequest
  | getResponse

namespace MessageType

/-- The values of a type of messages. -/
def Value : MessageType → Type
  | route => Route
  | interface => Interface
  | configData => ConfigData
  | config => Config
  | updateRequest => UpdateRequest
  | updateResponse => UpdateResponse
  | deleteRequest => DeleteRequest
  | deleteResponse => DeleteResponse
  | getRequest => GetRequest
  | getResponse => GetResponse

instance (t : MessageType) : Message t.Value :=
  match t with
  | route => inferInstanceAs (Message Route)
  | interface => inferInstanceAs (Message Interface)
  | configData => inferInstanceAs (Message ConfigData)
  | config => inferInstanceAs (Message Config)
  | updateRequest => inferInstanceAs (Message UpdateRequest)
  | updateResponse => inferInstanceAs (Message UpdateResponse)
  | deleteRequest => inferInstanceAs (Message DeleteRequest)
  | deleteResponse => inferInstanceAs (Message DeleteResponse)
  | getRequest => inferInstanceAs (Message GetRequest)
  | getResponse => inferInstanceAs (Message GetResponse)

instance (t : MessageType) : Layout t.Value :=
  match t with
  | route => inferInstanceAs (Layout Route)
  | interface => inferInstanceAs (Layout Interface)
  | configData => inferInstanceAs (Layout ConfigData)
  | config => inferInstanceAs (Layout Config)
  | updateRequest => inferInstanceAs (Layout UpdateRequest)
  | updateResponse => inferInstanceAs (Layout UpdateResponse)
  | deleteRequest => inferInstanceAs (Layout DeleteRequest)
  | deleteResponse => inferInstanceAs (Layout DeleteResponse)
  | getRequest => inferInstanceAs (Layout GetRequest)
  | getResponse => inferInstanceAs (Layout GetResponse)

/-- How deep messages nest inside those of the type. -/
def height : MessageType → Nat
  | route | interface | updateResponse | deleteResponse | getRequest => 0
  | configData => 1
  | config => 2
  | updateRequest | deleteRequest | getResponse => 3

theorem height_lt_depthLimit (t : MessageType) : t.height < depthLimit := by
  cases t <;> decide

theorem faithful (t : MessageType) : Faithful t.Value t.height :=
  match t with
  | route => route_faithful
  | interface => interface_faithful
  | configData => configData_faithful
  | config => config_faithful
  | updateRequest => updateRequest_faithful
  | updateResponse => updateResponse_faithful
  | deleteRequest => deleteRequest_faithful
  | deleteResponse => deleteResponse_faithful
  | getRequest => getRequest_faithful
  | getResponse => getResponse_faithful

theorem length_encode (t : MessageType) (m : t.Value) : (encode m).length = size m :=
  match t, m with
  | route, r => length_encode_route r
  | interface, i => length_encode_interface i
  | configData, c => length_encode_configData c
  | config, c => length_encode_config c
  | updateRequest, r => length_encode_updateRequest r
  | deleteRequest, r => length_optionalField length_encode_config 1 r.delete
  | getResponse, r => length_optionalField length_encode_config 1 r.config
  | updateResponse, _ | deleteResponse, _ | getRequest, _ => rfl

/-- **Round trip.** A value of any type declares as many bytes as are written for it, and is read
back from them. Lengths are read below `2 ^ 64`, and every length is below it in bytes that fit
an address space of 64 bits. -/
theorem decode_encode (t : MessageType) (m : t.Value) :
    size m = (encode m).length ∧ (size m < 2 ^ 64 → decode (encode m) = some m) := by
  have hsize := t.length_encode m
  exact ⟨hsize.symm, fun hlt =>
    t.faithful.decode_encode_of_length t.height_lt_depthLimit (hsize ▸ hlt)⟩

/-- Empty messages and strings among others, a name outside of ASCII, and a negative type. -/
private def uneven : GetResponse :=
  { config := some { vppConfig := some {
      interfaces := [{ name := "tun-π", ipAddresses := ["", "10.0.0.1/30"] }, {}]
      routes := [{ vrfId := 4294967295, type := -1 }, {}] } } }

theorem decode_encode_of_empty_items :
    size uneven = 54 ∧ decode (encode uneven) = some uneven :=
  ⟨by decide +kernel, (decode_encode .getResponse uneven).2 (by decide +kernel)⟩

/-- **Skipping.** A value of any type is read from its bytes with any fields put in, between its
own and between those of every message inside it, whose tags the message there does not
declare. -/
theorem decode_padded {t : MessageType} {m : t.Value} {bs : List UInt8}
    (h : Padded depthLimit m bs) (hlength : bs.length < 2 ^ 64) : decode bs = some m :=
  t.faithful.decode_of_padded t.height_lt_depthLimit h hlength

/-- An answer with one route, which holds nothing but a negative type. -/
private def negative : GetResponse :=
  { config := some { vppConfig := some { routes := [{ type := -1 }] } } }

/-- A number with a zero too many, a group with a field of a declared tag, four bytes of a tag that
is declared one level up, and a string, each at its own level. -/
theorem decode_padded_of_nested :
    let bs := [0x10, 0x87, 0, 0x0a, 29, 0x2b, 0x08, 1, 0x2c, 0x0a, 23, 0xc2, 2, 15, 0x50, 255, 255,
      255, 255, 255, 255, 255, 255, 255, 1, 0x12, 2, 104, 105, 0x0d, 1, 2, 3, 4]
    Padded depthLimit negative bs ∧ decode bs = some negative := by
  have hroute : Padded 97 ({ type := -1 } : Route)
      ((Field.varint 10 (int32Bits (-1))).encode ++ ([0x12, 2, 104, 105] ++ [])) :=
    .part rfl (.extra (undeclared_of_readFields (f := .bytes 2 [104, 105]) rfl (by decide)) .nil)
  have hdata : Padded 98 ({ routes := [{ type := -1 }] } : ConfigData)
      ((Field.bytes 40 _).encode ++ ([0x0d, 1, 2, 3, 4] ++ [])) :=
    .part ⟨_, hroute, rfl⟩
      (.extra (undeclared_of_readFields (f := .fixed32 1 [1, 2, 3, 4]) rfl (by decide)) .nil)
  have hconfig : Padded 99 ({ vppConfig := some { routes := [{ type := -1 }] } } : Config)
      ([0x2b, 0x08, 1, 0x2c] ++ ((Field.bytes 1 _).encode ++ [])) :=
    .extra (undeclared_of_readFields (f := .group 5 [.varint 1 1]) rfl (by decide))
      (.part ⟨_, hdata, rfl⟩ .nil)
  have hanswer : Padded depthLimit negative
      ([0x10, 0x87, 0] ++ ((Field.bytes 1 _).encode ++ [])) :=
    .extra (undeclared_of_readFields (f := .varint 2 7) rfl (by decide))
      (.part ⟨_, hconfig, rfl⟩ .nil)
  intro bs
  have hbs : Padded depthLimit negative bs := by
    refine Eq.subst (motive := Padded depthLimit negative) ?_ hanswer
    decide +kernel
  exact ⟨hbs, decode_padded (t := .getResponse) hbs (by decide)⟩

end MessageType

end RouteKeeper.Vpp
