import RouteKeeper.Proofs.Vpp.Refinement
import RouteKeeper.Proofs.Vpp.Wire
import RouteKeeper.Vpp.Client

/-!
# Requests for one route

An update and a delete of the same configuration are the same bytes. Those of an intent that was
read from texts are read back, by either request, as one route that tells the intent. So the
bytes of a request tell which intent it was written for, whichever of the two it is.
-/

namespace RouteKeeper.Vpp

open RouteKeeper.Wire
open Message

/-- The flag of an update is left out, and the configuration has the same tag in both. -/
theorem encode_deleteRequest (config : ConfigData) :
    encode (Client.deleteRequest config) = encode (Client.updateRequest config) := by
  have hflag : fields (Client.updateRequest config) = fields (Client.deleteRequest config) :=
    List.append_nil _
  rw [encode, encode, hflag]

section

variable (i : Intent)

/-- A destination and a next hop are all that a written route takes, but for its type. -/
theorem size_routeFor_le : size (routeFor i) ≤ 200 := by
  have hsubnet : i.subnet.text.toList.length ≤ 18 := by
    rw [Network.text, String.toList_ofList]
    exact i.subnet.length_chars_le
  have hhop : i.nextHop.text.toList.length ≤ 15 := by
    rw [Address.text, String.toList_ofList]
    exact i.nextHop.length_chars_le
  have hstring {tag : Nat} {v : String} (htag : tag < 2 ^ 29) (hv : v.toList.length ≤ 18) :
      stringSize tag v ≤ 92 := by
    have hitem := itemSize_le (v := v) htag (by omega)
    rw [stringSize]
    split <;> omega
  have hdst := hstring (show 3 < 2 ^ 29 by decide) hsubnet
  have hnext := hstring (show 4 < 2 ^ 29 by decide) (Nat.le_trans hhop (by decide))
  have htype : int32Size 10 RouteType.interVrf.number = 2 := by decide +kernel
  have hsum : size (routeFor i) = 0 + stringSize 3 i.subnet.text + stringSize 4 i.nextHop.text +
      0 + 0 + 0 + 0 + int32Size 10 RouteType.interVrf.number := rfl
  omega

/-- Each of the three messages around the route adds its key and its length. -/
theorem size_updateRequest_le : size (Client.updateRequest (configFor i)) ≤ 260 := by
  have hroute := size_routeFor_le i
  have hdata : size (configFor i) = bytesSize 40 (size (routeFor i)) := Nat.zero_add _
  have hrequest : size (Client.updateRequest (configFor i)) =
      bytesSize 1 (bytesSize 1 (size (configFor i))) := rfl
  have hnested {tag n : Nat} (htag : tag < 2 ^ 29) (hn : n ≤ 240) : bytesSize tag n ≤ n + 20 :=
    bytesSize_le htag (by omega)
  have hdataSize := hnested (show 40 < 2 ^ 29 by decide) (Nat.le_trans hroute (by decide))
  rw [← hdata] at hdataSize
  have hconfigSize := hnested (show 1 < 2 ^ 29 by decide) (Nat.le_trans hdataSize (by omega))
  have hrequestSize := hnested (show 1 < 2 ^ 29 by decide) (Nat.le_trans hconfigSize (by omega))
  omega

/-- An update request for an intent is read back from its bytes. -/
theorem decode_updateRequest :
    decode (encode (Client.updateRequest (configFor i))) =
      some (Client.updateRequest (configFor i)) := by
  have hsize := size_updateRequest_le i
  refine updateRequest_faithful.decode_encode_of_length (by decide) ?_
  rw [length_encode_updateRequest]
  omega

/-- So is a delete request. -/
theorem decode_deleteRequest :
    decode (encode (Client.deleteRequest (configFor i))) =
      some (Client.deleteRequest (configFor i)) := by
  have hsize := size_updateRequest_le i
  refine deleteRequest_faithful.decode_encode_of_length (by decide) ?_
  rw [encode_deleteRequest, length_encode_updateRequest]
  omega

end

/-- **One route on the wire.** For an intent that was read from texts, an update and a delete are
the same bytes. They are read back, as either, as one route and nothing else, from which the
installed route has the subnet and the next hop of the intent; and no other intent has them. -/
theorem requests_tell_intent {subnetText nextHopText : String} {i : Intent}
    (h : Intent.parse subnetText nextHopText = .ok i) :
    let bs := encode (Client.updateRequest (configFor i))
    encode (Client.deleteRequest (configFor i)) = bs ∧
      (∃ r : Route,
        let config : Config := { vppConfig := some { interfaces := [], routes := [r] } }
        decode bs = some ({ update := some config, fullResync := false } : UpdateRequest) ∧
          decode bs = some ({ delete := some config } : DeleteRequest) ∧
          installedIn { interfaces := [], routes := [r] } =
            [⟨some i.subnet, some i.nextHop, none⟩]) ∧
      ∀ j : Intent, encode (Client.updateRequest (configFor j)) = bs ∨
        encode (Client.deleteRequest (configFor j)) = bs → j = i := by
  intro bs
  have hdelete : encode (Client.deleteRequest (configFor i)) = bs := encode_deleteRequest _
  have hi : i.Canonical := Intent.parse_canonical h
  have hread : decode bs = some (Client.deleteRequest (configFor i)) := by
    rw [← hdelete]
    exact decode_deleteRequest i
  have hinstalled : installedIn (configFor i) = [⟨some i.subnet, some i.nextHop, none⟩] := by
    have htype : (routeFor i).type = RouteType.interVrf.number := rfl
    simp [installedIn, configFor, htype, installedOf?_routeFor hi, Recording.routeOf]
  refine ⟨hdelete, ⟨routeFor i, decode_updateRequest i, hread, hinstalled⟩, fun j hbytes => ?_⟩
  have hbytes : encode (Client.updateRequest (configFor j)) = bs := by
    rwa [encode_deleteRequest, or_self] at hbytes
  have hrequest : some (Client.updateRequest (configFor j)) =
      some (Client.updateRequest (configFor i)) := by
    rw [← decode_updateRequest j, hbytes, decode_updateRequest i]
  have hroute : routeFor j = routeFor i := by
    simpa [Client.updateRequest, configFor] using hrequest
  exact routeFor_injective hroute

/-- The route of every destination, which the texts name with host bits and a blank. -/
theorem requests_tell_intent_of_default_route :
    let i : Intent := ⟨⟨.ofOctets 0 0 0 0, 0, by decide⟩, .ofOctets 255 255 255 255⟩
    let bs := [0x0a, 35, 0x0a, 33, 0xc2, 2, 30, 0x1a, 9] ++ Text.utf8 "0.0.0.0/0" ++ [0x22, 15] ++
      Text.utf8 "255.255.255.255" ++ [0x50, 1]
    Intent.parse "10.1.2.3/0" " 255.255.255.255" = .ok i ∧
      encode (Client.deleteRequest (configFor i)) = bs ∧
      ∀ j : Intent, encode (Client.updateRequest (configFor j)) = bs → j = i := by
  intro i bs
  have hparse : Intent.parse "10.1.2.3/0" " 255.255.255.255" = .ok i := rfl
  have hbs : encode (Client.updateRequest (configFor i)) = bs := by decide +kernel
  obtain ⟨hdelete, -, honly⟩ := requests_tell_intent hparse
  exact ⟨hparse, hdelete.trans hbs, fun j hj => honly j (.inl (hj.trans hbs.symm))⟩

end RouteKeeper.Vpp
