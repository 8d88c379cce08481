import Mathlib.Data.List.Perm.Basic
import RouteKeeper.Connection
import RouteKeeper.Proofs.Json.Reading
import RouteKeeper.Proofs.Notation

/-!
# Connections, written and read

A connection is read from every object that has its four members, in any order, among any members
with other names, and in any spelling; and from every array of its four values in the order of
writing. What is written of it is such an object.

## Implementation notes

The order of the members matters to no step, so what is proved of the four members with the others
behind them is carried over to any order by permutations of lists related item by item.
-/

namespace RouteKeeper

namespace Json

/-! ## What is written spells what it was written of -/

theorem isHexDigit_hexDigit : ∀ n < 16, IsHexDigit n (hexDigit n) := by
  unfold IsHexDigit
  decide

/-- A code is written with its four digits. -/
theorem isUnit_hexDigits {n : Nat} (h : n < 0x10000) :
    IsUnit n [hexDigit (n / 4096 % 16), hexDigit (n / 256 % 16), hexDigit (n / 16 % 16),
      hexDigit (n % 16)] := by
  have hfirst : n / 4096 % 16 = n / 4096 := Nat.mod_eq_of_lt (by omega)
  have hlt (k : Nat) : k % 16 < 16 := Nat.mod_lt _ (by decide)
  refine ⟨_, _, _, _, ?_, isHexDigit_hexDigit _ (hlt _), isHexDigit_hexDigit _ (hlt _),
    isHexDigit_hexDigit _ (hlt _), rfl⟩
  rw [hfirst]
  exact isHexDigit_hexDigit _ (hfirst ▸ hlt _)

/-- Each character is written as one of its spellings. -/
theorem spellsChar_chars (c : Char) : SpellsChar c (Point.char c).chars := by
  unfold Point.chars
  dsimp only
  split
  all_goals try exact .short (by decide)
  case h_8 hquote hbackslash _ _ _ _ _ =>
    split
    case isTrue hcode => exact .unit (isUnit_hexDigits (Nat.lt_trans hcode (by decide)))
    case isFalse hcode => exact .plain ⟨Nat.le_of_not_lt hcode, hquote, hbackslash⟩

theorem spells_quoted (s : String) : Spells s (quoted (points s)) := by
  have hbody (cs : List Char) : SpellsChars cs ((cs.map .char).flatMap Point.chars) := by
    induction cs with
    | nil => exact .nil
    | cons c cs ih => exact .cons (spellsChar_chars c) ih
  exact ⟨_, hbody s.toList, [], [], nofun, nofun, rfl⟩

theorem text?_points (s : String) : text? (points s) = some s := by
  have hall (cs : List Char) : (cs.map .char).mapM Point.char? = some cs := by
    induction cs with
    | nil => rfl
    | cons c cs ih => simp [ih, Point.char?]
  rw [text?, points, hall, Option.map_some, String.ofList_toList]

theorem string?_ofString (s : String) : (Value.ofString s).string? = some s :=
  text?_points s

end Json

namespace Connection

open Json

/-- The values of the members in the order of writing. -/
def values (c : Connection) : List String :=
  [c.podName, c.interfaceName, c.clientAddress.text, c.routerAddress.text]

/-- The members of an object are those of a connection, in any order and spelling, and others of
other names. -/
def ListedIn (c : Connection) (members : List (List Char × List Char)) : Prop :=
  ∃ own others, members.Perm (own ++ others) ∧
    List.Forall₂ (fun (entry : String × String) m => Spells entry.1 m.1 ∧ Spells entry.2 m.2)
      (memberNames.zip c.values) own ∧
    ∀ m ∈ others, (∃ name, name ∉ memberNames ∧ Spells name m.1) ∧ IsValue m.2

theorem addressIn?_ofString (x : Address) : addressIn? (.ofString x.text) = some x := by
  rw [addressIn?, string?_ofString, Option.bind_some, Address.parse?_eq_some_iff]

theorem ofValues?_values (c : Connection) :
    ofValues? (.ofString c.podName) (.ofString c.interfaceName) (.ofString c.clientAddress.text)
      (.ofString c.routerAddress.text) = some c := by
  simp [ofValues?, string?_ofString, addressIn?_ofString]

/-- Members whose names are strings are told by these. -/
theorem named?_map (members : List (String × Json.Value)) :
    named? (members.map fun m => (points m.1, m.2)) = some members := by
  induction members with
  | nil => rfl
  | cons m members ih =>
      rw [named?] at ih ⊢
      simp [text?_points, ih]

/-- A member that is there once is found in any order. -/
theorem only?_of_perm {members others : List (String × Json.Value)} {name : String}
    {v : Json.Value} (h : members.Perm ((name, v) :: others)) (hothers : ∀ m ∈ others, m.1 ≠ name) :
    only? members name = some v := by
  have hnone : others.filter (·.1 == name) = [] :=
    List.filter_eq_nil_iff.mpr fun m hm => by simpa using hothers m hm
  have hperm := h.filter (·.1 == name)
  rw [List.filter_cons_of_pos (by simp), hnone, List.perm_singleton] at hperm
  rw [only?, hperm]

/-- The members of a connection as values. -/
def members (c : Connection) : List (String × Json.Value) :=
  (memberNames.zip c.values).map fun e => (e.1, .ofString e.2)

/-- The members of a connection are told from any others, in any order. -/
theorem ofJson?_object (c : Connection) {listed others : List (String × Json.Value)}
    (h : listed.Perm (c.members ++ others)) (hothers : ∀ m ∈ others, m.1 ∉ memberNames) :
    ofJson? (.object (listed.map fun m => (points m.1, m.2))) = some c := by
  have honly (name : String) (hname : name ∈ memberNames) {v : Json.Value}
      (before after : List (String × Json.Value))
      (hmembers : c.members = before ++ (name, v) :: after)
      (hown : ∀ m ∈ before ++ after, m.1 ≠ name) :
      only? listed name = some v := by
    rw [hmembers, List.append_assoc, List.cons_append] at h
    refine only?_of_perm (h.trans List.perm_middle) fun m hm hmname => ?_
    rw [← List.append_assoc, List.mem_append] at hm
    rcases hm with hm | hm
    · exact hown m hm hmname
    · exact hothers m hm (hmname ▸ hname)
  have hpod := honly "pod_name" (by decide) [] _ rfl (by simp)
  have hinterface := honly "nsm_interface" (by decide) [_] _ rfl (by simp)
  have hclient := honly "nsm_ip" (by decide) [_, _] _ rfl (by simp)
  have hrouter := honly "nsm_peer_ip" (by decide) [_, _, _] _ rfl (by simp)
  simp [ofJson?, named?_map, hpod, hinterface, hclient, hrouter, ofValues?_values]

theorem eq_map_of_forall₂ {α β : Type} {f : β → α} {as : List α} {bs : List β}
    (h : List.Forall₂ (fun a b => a = f b) as bs) : as = bs.map f := by
  rw [← List.forall₂_eq_eq_eq]
  exact List.forall₂_map_right_iff.mpr h

/-- What the text of a member of a connection is read as. -/
def ownReading (e : String × String) : (List Point → Prop) × (Json.Value → Prop) :=
  ((· = points e.1), (· = .ofString e.2))

/-- What the text of another member is read as. -/
def otherReading : (List Point → Prop) × (Json.Value → Prop) :=
  (fun ps => ∃ name, name ∉ memberNames ∧ ps = points name, fun _ => True)

/-- What is read of the members of a connection and of others after them. -/
theorem exists_listed {es : List (String × String)}
    {others : List (List Char × List Char)} {read : List (List Point × Json.Value)}
    (h : List.Forall₂ IsMember (es.map ownReading ++ others.map fun _ => otherReading) read) :
    ∃ unknown : List (String × Json.Value), (∀ m ∈ unknown, m.1 ∉ memberNames) ∧
      read = (es.map (fun e => (e.1, Json.Value.ofString e.2)) ++ unknown).map
        fun m => (points m.1, m.2) := by
  induction es generalizing read with
  | nil =>
      induction others generalizing read with
      | nil =>
          cases h
          exact ⟨[], nofun, rfl⟩
      | cons other others ih =>
          obtain ⟨⟨ps, v⟩, tail, ⟨⟨name, hname, hps⟩, -⟩, htail, rfl⟩ :=
            List.forall₂_cons_left_iff.mp h
          obtain rfl : ps = points name := hps
          obtain ⟨unknown, hunknown, rfl⟩ := ih htail
          exact ⟨(name, v) :: unknown, List.forall_mem_cons.mpr ⟨hname, hunknown⟩, rfl⟩
  | cons e es ih =>
      obtain ⟨⟨ps, v⟩, tail, ⟨hps, hv⟩, htail, rfl⟩ := List.forall₂_cons_left_iff.mp h
      obtain rfl : ps = points e.1 := hps
      obtain rfl : v = .ofString e.2 := hv
      obtain ⟨unknown, hunknown, rfl⟩ := ih htail
      exact ⟨unknown, hunknown, rfl⟩

/-- The text of an object is read as its members. -/
theorem ListedIn.readsValue {c : Connection} {texts : List (List Char × List Char)}
    (h : c.ListedIn texts) : ReadsValue (objectText texts) fun v => ofJson? v = some c := by
  obtain ⟨own, others, hperm, hown, hothers⟩ := h
  have hreadOwn : List.Forall₂ ReadsMember own ((memberNames.zip c.values).map ownReading) :=
    List.forall₂_map_right_iff.mpr
      (hown.flip.imp fun _ _ hm => ⟨hm.1.readsName, hm.2.readsValue⟩)
  have hreadOthers : List.Forall₂ ReadsMember others (others.map fun _ => otherReading) := by
    refine List.forall₂_map_right_iff.mpr (List.forall₂_same.mpr fun m hm => ?_)
    obtain ⟨⟨name, hname, hspells⟩, hvalue⟩ := hothers m hm
    refine ⟨fun rest => ?_, hvalue.readsValue⟩
    obtain ⟨ps, hps, hread⟩ := hspells.readsName rest
    exact ⟨ps, ⟨name, hname, hps⟩, hread⟩
  have hne : texts ≠ [] := by
    rintro rfl
    obtain ⟨rfl, -⟩ := List.append_eq_nil_iff.mp hperm.nil_eq.symm
    cases hown
  obtain ⟨rs, hrs, hrsPerm⟩ := List.perm_comp_forall₂ hperm (List.rel_append hreadOwn hreadOthers)
  refine (readsValue_object hrs hne).mono ?_
  rintro _ ⟨read, rfl, hread⟩
  -- in the order of the connection it is plain what was read
  obtain ⟨inOrder, hinOrder, hreadPerm⟩ := List.perm_comp_forall₂ hrsPerm.symm hread
  obtain ⟨unknown, hunknown, rfl⟩ := exists_listed hinOrder
  have hnamed : List.Forall₂ (fun (m : List Point × Json.Value) (n : String × Json.Value) =>
      m = (points n.1, n.2)) ((c.members ++ unknown).map fun m => (points m.1, m.2))
      (c.members ++ unknown) :=
    List.forall₂_map_left_iff.mpr (List.forall₂_same.mpr fun _ _ => rfl)
  obtain ⟨listed, hlisted, hlistedPerm⟩ := List.perm_comp_forall₂ hreadPerm.symm hnamed
  obtain rfl := eq_map_of_forall₂ hlisted
  exact ofJson?_object c hlistedPerm hunknown

/-- The text of an array is read as its values. -/
theorem readsValue_values {c : Connection} {texts : List (List Char)}
    (h : List.Forall₂ Spells c.values texts) :
    ReadsValue (arrayText texts) fun v => ofJson? v = some c := by
  have hread : List.Forall₂ ReadsValue texts (c.values.map fun s v => v = .ofString s) :=
    List.forall₂_map_right_iff.mpr (h.flip.imp fun _ _ (hs : Spells _ _) => hs.readsValue)
  have hne : texts ≠ [] := by
    rintro rfl
    cases h
  refine (readsValue_array hread hne).mono ?_
  rintro _ ⟨vs, rfl, hvs⟩
  obtain rfl := eq_map_of_forall₂ (List.forall₂_map_left_iff.mp hvs).flip
  exact ofValues?_values c

/-- Any text that is read as a connection may stand between blanks. -/
theorem parse?_of_readsValue {c : Connection} {front cs back : List Char}
    (h : ReadsValue cs fun v => ofJson? v = some c) (hfront : IsBlank front)
    (hback : IsBlank back) : parse? (String.ofList (front ++ (cs ++ back))) = some c := by
  have hspaced := h.spaced hfront hback
  rw [← String.toList_ofList (l := front ++ (cs ++ back))] at hspaced
  obtain ⟨v, hv, hread⟩ := hspaced.parse
  rw [parse?, hread, Option.bind_some, hv]

/-- What is written of a connection is an object with its members. -/
theorem compact_toJson (c : Connection) :
    ∃ texts, c.ListedIn texts ∧ c.toJson.compact = String.ofList (objectText texts) := by
  refine ⟨(memberNames.zip c.values).map fun e => (quoted (points e.1), quoted (points e.2)),
    ⟨_, [], by rw [List.append_nil], ?_, nofun⟩, ?_⟩
  · exact List.forall₂_map_right_iff.mpr
      (List.forall₂_same.mpr fun e _ => ⟨spells_quoted e.1, spells_quoted e.2⟩)
  · simp [Json.Value.compact, toJson, Json.Value.ofMembers, Json.Value.chars,
      Json.Value.memberChars, Json.Value.ofString, objectText, memberNames, values,
      List.intercalate_cons_of_ne_nil, List.intercalate_singleton]

/-- **Connections come back.** What is written of a connection is read as the connection. So is any
object that has its four members, in any order and any spelling, among any values under other names;
and so is any array of its four values in the order of writing. Spaces and line ends may stand
wherever the grammar has them. -/
theorem parse?_written (c : Connection) :
    parse? c.toJson.compact = some c ∧
    (∀ front back texts, IsBlank front → IsBlank back → c.ListedIn texts →
      parse? (String.ofList (front ++ (objectText texts ++ back))) = some c) ∧
    ∀ front back texts, IsBlank front → IsBlank back → List.Forall₂ Spells c.values texts →
      parse? (String.ofList (front ++ (arrayText texts ++ back))) = some c := by
  refine ⟨?_, ?_, ?_⟩
  · obtain ⟨texts, htexts, hcompact⟩ := compact_toJson c
    have hnothing : IsBlank [] := nofun
    have hread := parse?_of_readsValue htexts.readsValue hnothing hnothing
    rw [List.append_nil, List.nil_append] at hread
    rw [hcompact, hread]
  · exact fun front back texts hfront hback htexts =>
      parse?_of_readsValue htexts.readsValue hfront hback
  · exact fun front back texts hfront hback htexts =>
      parse?_of_readsValue (readsValue_values htexts) hfront hback

/-- The members stand in another order, after one of another name whose value holds half of a
surrogate pair, and a character beyond the basic plane is spelt by two codes. -/
theorem parse?_written_of_reordered :
    let c : Connection := ⟨"a\"b\\\n", "😀", .ofOctets 192 168 3 1, .ofOctets 192 168 3 2⟩
    let texts := [("\"x\" ".toList, " [-1.5e3, \"\\ud800\"]".toList),
      ("\"nsm_peer_ip\"".toList, "\"192.168.3.2\"".toList),
      ("\"nsm_ip\"".toList, "\"192.168.3.1\"".toList),
      ("\"nsm_interface\"".toList, "\"\\ud83d\\uDE00\"".toList),
      ("\"pod_name\"".toList, "\"a\\\"b\\\\\\n\"".toList)]
    IsBlank "\n ".toList ∧ c.ListedIn texts ∧
      parse? (String.ofList ("\n ".toList ++ (objectText texts ++ "\n ".toList))) = some c := by
  intro c texts
  have hblank : IsBlank " ".toList := by simp [IsBlank]
  have hends : IsBlank "\n ".toList := by simp [IsBlank]
  have hhigh : IsUnit 0xd83d "d83d".toList :=
    ⟨'d', '8', '3', 'd', Or.inl rfl, Or.inl rfl, Or.inl rfl, Or.inl rfl, rfl⟩
  have hlow : IsUnit 0xde00 "DE00".toList :=
    ⟨'D', 'E', '0', '0', Or.inr rfl, Or.inr rfl, Or.inl rfl, Or.inl rfl, rfl⟩
  have hinterface : Spells "😀" "\"\\ud83d\\uDE00\"".toList :=
    ⟨_, .cons (.pair (by decide) hhigh hlow) .nil, [], [], nofun, nofun, by decide⟩
  have hpod : Spells "a\"b\\\n" "\"a\\\"b\\\\\\n\"".toList := by
    have hquoted : "\"a\\\"b\\\\\\n\"".toList = quoted (points "a\"b\\\n") := by decide
    rw [hquoted]
    exact spells_quoted _
  have hx : Spells "x" "\"x\" ".toList :=
    ⟨_, .cons (.plain ⟨by decide, by decide, by decide⟩) .nil, [], [' '], nofun, hblank, rfl⟩
  have hnumber : IsValue "-1.5e3".toList := by
    have hdigit (c : Char) (hc : Text.isDigit c = true) : IsDigits [c] :=
      ⟨List.cons_ne_nil _ _, List.forall_mem_singleton.mpr hc⟩
    refine .number ⟨['-'], ['1'], ['.', '5'], ['e', '3'], by decide, ?_, ?_, ?_, by decide⟩
    · exact ⟨hdigit '1' (by decide), by decide⟩
    · exact Or.inr ⟨['5'], hdigit '5' (by decide), rfl⟩
    · exact Or.inr ⟨'e', [], ['3'], by decide, by decide, hdigit '3' (by decide), rfl⟩
  have hunit : IsUnit 0xd800 "d800".toList :=
    ⟨'d', '8', '0', '0', Or.inl rfl, Or.inl rfl, Or.inl rfl, Or.inl rfl, rfl⟩
  have hhalf : IsValue " \"\\ud800\"".toList :=
    .spaced hblank (show IsBlank [] from nofun) (.string (.unit hunit .nil))
  have hvalue : IsValue " [-1.5e3, \"\\ud800\"]".toList :=
    .spaced hblank (show IsBlank [] from nofun) (.array (List.cons_ne_nil _ _)
      (List.forall_mem_cons.mpr ⟨hnumber, List.forall_mem_singleton.mpr hhalf⟩))
  have hclient : "192.168.3.1" = c.clientAddress.text := Address.parse?_eq_some_iff.mp rfl
  have hrouter : "192.168.3.2" = c.routerAddress.text := Address.parse?_eq_some_iff.mp rfl
  have hlisted : c.ListedIn texts := by
    refine ⟨[_, _, _, _], [_], (List.reverse_perm _ : List.Perm (List.reverse [_, _, _, _, _]) _),
      .cons ⟨spells_quoted "pod_name", hpod⟩ (.cons ⟨spells_quoted "nsm_interface", hinterface⟩
        (.cons ⟨spells_quoted "nsm_ip", hclient ▸ spells_quoted "192.168.3.1"⟩
          (.cons ⟨spells_quoted "nsm_peer_ip", hrouter ▸ spells_quoted "192.168.3.2"⟩ .nil))), ?_⟩
    exact List.forall_mem_singleton.mpr ⟨⟨"x", by decide, hx⟩, hvalue⟩
  exact ⟨hends, hlisted, (parse?_written c).2.1 _ _ _ hends hends hlisted⟩

end Connection

end RouteKeeper
