import RouteKeeper.Proofs.Vpp.Wire

/-!
# Reading values that were written one after another

The bytes of some values, put one after another, are read as one value: the first with the others
written over it in turn. What bytes are read into a value goes on from where the bytes before them
have led, so this holds of any number of values, of every type of messages.
-/

namespace RouteKeeper.Wire

open Message

/-- Fields are read to the end of their bytes, whatever comes after them. -/
theorem readFields_append_of_some {depth : Nat} {fs : List Field} {bs : List UInt8}
    (h : readFields depth bs = some fs) (rest : List UInt8) :
    readFields depth (bs ++ rest) = (readFields depth rest).map (fs ++ ·) := by
  have hrun := readFields_eq_some_iff.mp h
  clear h
  induction hrun with
  | nil =>
      show readFields depth rest = (readFields depth rest).map id
      rw [Option.map_id, id]
  | cons hf _ ih =>
      rw [List.append_assoc, readFields_append hf, ih, Option.map_map]
      rfl

section

variable {M : Type} [Message M] {depth : Nat}

/-- Bytes that follow others are read into the value that the others have led to. -/
theorem mergeBytes_append_of_some {m m₁ : M} {bs : List UInt8}
    (h : mergeBytes depth m bs = some m₁) (rest : List UInt8) :
    mergeBytes depth m (bs ++ rest) = mergeBytes depth m₁ rest := by
  obtain ⟨fs, hfs, hfold⟩ := Option.bind_eq_some_iff.mp h
  rw [mergeBytes, mergeBytes, readFields_append_of_some hfs]
  cases readFields depth rest with
  | none => rfl
  | some gs =>
      show (fs ++ gs).foldlM (merge depth) m = gs.foldlM (merge depth) m₁
      rw [List.foldlM_append, hfold]
      rfl

variable [Layout M] {height : Nat} (h : Faithful M height)
include h

/-- **Concatenation.** The bytes of some values, one after another, write the values over what is
there in turn. -/
theorem Faithful.mergeBytes_flatMap_encode (hdepth : height < depth) (old : M) {ms : List M}
    (hlength : ∀ m ∈ ms, (encode m).length < 2 ^ 64) :
    mergeBytes depth old (ms.flatMap encode) = some (ms.foldl Layout.overlay old) := by
  induction ms generalizing old with
  | nil => exact mergeBytes_nil
  | cons m ms ih =>
      obtain ⟨hm, hms⟩ := List.forall_mem_cons.mp hlength
      have hfirst : mergeBytes depth old (encode m) = some (Layout.overlay old m) :=
        h.mergeBytes_padded hdepth (h.padded_encode depth m) hm old
      rw [List.flatMap_cons, mergeBytes_append_of_some hfirst, ih _ hms]
      rfl

end

end RouteKeeper.Wire

namespace RouteKeeper.Vpp

open RouteKeeper.Wire
open Message

/-- Of two messages that may be absent, the second is written over the first if both are there;
otherwise the one that is there is left. -/
theorem overlayOption_eq_merge {M : Type} [Message M] [Layout M] {height : Nat}
    (h : Faithful M height) (old new : Option M) :
    overlayOption old new = Option.merge Layout.overlay old new := by
  cases new with
  | none => cases old <;> rfl
  | some new =>
      cases old with
      | none => exact overlayOption_none h (some new)
      | some old => rfl

/-- **Merging.** The bytes of two values of any type, one after the other, are read as the first
value with the second one written over it. In every such value a message that may be absent is the
merge of both where both are there, and otherwise the one that is there. -/
theorem MessageType.decode_append (t : MessageType) (a b : t.Value) (ha : size a < 2 ^ 64)
    (hb : size b < 2 ^ 64) :
    decode (encode a ++ encode b) = some (Layout.overlay a b) ∧
      ∀ old new : Option t.Value,
        overlayOption old new = Option.merge Layout.overlay old new := by
  have hlength : ∀ m ∈ [a, b], (encode m).length < 2 ^ 64 := by
    intro m hm
    rw [t.length_encode]
    rcases List.mem_cons.mp hm with rfl | hm
    · exact ha
    · obtain rfl := List.mem_singleton.mp hm
      exact hb
  constructor
  · calc
      decode (encode a ++ encode b) = decode ([a, b].flatMap encode) := by simp
      _ = some (Layout.overlay (Layout.overlay empty a) b) :=
        t.faithful.mergeBytes_flatMap_encode t.height_lt_depthLimit empty hlength
      _ = some (Layout.overlay a b) := by rw [t.faithful.overlay_empty]
  · exact overlayOption_eq_merge t.faithful

/-- An update with an interface and a flag. -/
private def former : UpdateRequest :=
  { update := some { vppConfig := some {
      interfaces := [{ name := "tun0", ipAddresses := ["10.0.0.1/30"] }] } }
    fullResync := true }

/-- An update with a route and another interface of that name, and without the flag. -/
private def latter : UpdateRequest :=
  { update := some { vppConfig := some {
      interfaces := [{ name := "tun0", enabled := true }]
      routes := [{ dstNetwork := "10.1.0.0/16", type := 1 }] } } }

/-- The configurations are merged at both levels, their interfaces are not, and the flag that is
left out stays set. -/
theorem MessageType.decode_append_of_nested :
    let merged : UpdateRequest :=
      { update := some { vppConfig := some {
          interfaces := [{ name := "tun0", ipAddresses := ["10.0.0.1/30"] },
            { name := "tun0", enabled := true }]
          routes := [{ dstNetwork := "10.1.0.0/16", type := 1 }] } }
        fullResync := true }
    size former = 27 ∧ size latter = 32 ∧ decode (encode former ++ encode latter) = some merged := by
  have hformer : size former = 27 := by decide +kernel
  have hlatter : size latter = 32 := by decide +kernel
  refine ⟨hformer, hlatter, ?_⟩
  exact (MessageType.decode_append .updateRequest former latter
    (hformer ▸ by decide) (hlatter ▸ by decide)).1

end RouteKeeper.Vpp
