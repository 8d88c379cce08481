import RouteKeeper.Proofs.Wire.Varint
import RouteKeeper.Wire.Message

/-!
# Spellings of a field

A field is spelled by a key and a payload in which every number may have any of its spellings.
Bytes are read as a field exactly when they begin with a spelling of it whose groups nest less
deep than the reader goes, and as a run of fields exactly when they are spellings of them, one
after another.

## Implementation notes

A spelling goes down into groups by the recursion of the reader, so that one induction on the
depth compares the two.
-/

namespace RouteKeeper.Wire

/-- A spelling of a key: a tag that is not zero and a wire type, in 32 bits. -/
structure IsKey (bs : List UInt8) (tag wireType : Nat) : Prop where
  varint : IsVarint bs (8 * tag + wireType)
  tag_pos : 0 < tag
  lt : 8 * tag + wireType < 2 ^ 32

/-- Bytes that spell some fields one after another. -/
inductive SpelledRun (spelled : Field → List UInt8 → Prop) : List Field → List UInt8 → Prop
  /-- No field takes no byte. -/
  | nil : SpelledRun spelled [] []
  /-- A field, and the rest after it. -/
  | cons {f : Field} {fs : List Field} {bs rest : List UInt8} (h : spelled f bs)
      (hrest : SpelledRun spelled fs rest) : SpelledRun spelled (f :: fs) (bs ++ rest)

/-- The wire type of a field. -/
def Field.wireType : Field → Nat
  | .varint .. => 0
  | .fixed64 .. => 1
  | .bytes .. => 2
  | .group .. => 3
  | .fixed32 .. => 5

theorem Field.wireType_lt (f : Field) : f.wireType < 8 := by
  cases f <;> simp [wireType]

/-- The bytes spell what follows the key of a field, given the spellings of fields inside it. -/
def Field.PayloadBy (spelled : Field → List UInt8 → Prop) : Field → List UInt8 → Prop
  | .varint _ value, bs => IsVarint bs value
  | .fixed64 _ content, bs => content.length = 8 ∧ bs = content
  | .bytes _ content, bs => ∃ l, IsVarint l content.length ∧ bs = l ++ content
  | .group tag fields, bs =>
    ∃ body close, SpelledRun spelled fields body ∧ IsKey close tag 4 ∧ bs = body ++ close
  | .fixed32 _ content, bs => content.length = 4 ∧ bs = content

/-- The bytes spell the field, whose groups nest less deep than the number has it. -/
def Field.SpelledBy : Nat → Field → List UInt8 → Prop
  | 0, _, _ => False
  | depth + 1, f, bs =>
    ∃ k payload, IsKey k f.tag f.wireType ∧ f.PayloadBy (SpelledBy depth) payload ∧
      bs = k ++ payload

/-- A key is read exactly from its spellings. -/
theorem readKey_eq_some_iff {bs rest : List UInt8} {tag wireType : Nat} :
    readKey bs = some ((tag, wireType), rest) ↔
      wireType < 8 ∧ ∃ k, IsKey k tag wireType ∧ bs = k ++ rest := by
  have hread : readKey bs = (readVarint bs).bind fun k =>
      if k.1 < 2 ^ 32 ∧ k.1 / 8 ≠ 0 then some ((k.1 / 8, k.1 % 8), k.2) else none := rfl
  rw [hread, Option.bind_eq_some_iff]
  constructor
  · rintro ⟨⟨k, rest'⟩, hk, hkey⟩
    obtain ⟨front, hfront, hbs⟩ := readVarint_eq_some_iff.mp hk
    by_cases h : k < 2 ^ 32 ∧ k / 8 ≠ 0
    · cases (if_pos h).symm.trans hkey
      have hsum : 8 * (k / 8) + k % 8 = k := Nat.div_add_mod k 8
      exact ⟨Nat.mod_lt _ (by decide), front,
        ⟨hsum.symm ▸ hfront, Nat.pos_of_ne_zero h.2, hsum.symm ▸ h.1⟩, hbs⟩
    · cases (if_neg h).symm.trans hkey
  · rintro ⟨hwire, k, hkey, rfl⟩
    have hdiv : (8 * tag + wireType) / 8 = tag := by omega
    have hmod : (8 * tag + wireType) % 8 = wireType := by omega
    refine ⟨(8 * tag + wireType, rest), hkey.varint.readVarint rest, ?_⟩
    simp only [hdiv, hmod]
    exact if_pos ⟨hkey.lt, Nat.ne_of_gt hkey.tag_pos⟩

theorem IsKey.readKey {k : List UInt8} {tag wireType : Nat} (h : IsKey k tag wireType)
    (hwire : wireType < 8) (rest : List UInt8) :
    readKey (k ++ rest) = some ((tag, wireType), rest) :=
  readKey_eq_some_iff.mpr ⟨hwire, k, h, rfl⟩

theorem IsKey.length_pos {k : List UInt8} {tag wireType : Nat} (h : IsKey k tag wireType) :
    0 < k.length :=
  h.varint.septets.length_pos

/-- As many bytes as asked for are taken exactly from what begins with so many. -/
theorem takeBytes_eq_some_iff {n : Nat} {bs content rest : List UInt8} :
    takeBytes n bs = some (content, rest) ↔ content.length = n ∧ bs = content ++ rest := by
  rw [takeBytes]
  constructor
  · intro h
    split at h
    · case isTrue hn =>
        cases h
        exact ⟨List.length_take_of_le hn, (List.take_append_drop n bs).symm⟩
    · cases h
  · rintro ⟨rfl, rfl⟩
    simp

/-- A payload is read as a field exactly when the key and it begin with a spelling. -/
def Reads (payload : Nat → Nat → List UInt8 → Option (Field × List UInt8))
    (spelled : Field → List UInt8 → Prop) : Prop :=
  ∀ bs f rest, (readKey bs).bind (fun k => payload k.1.1 k.1.2 k.2) = some (f, rest) ↔
    ∃ front, spelled f front ∧ bs = front ++ rest

/-- The rest of a group, without its notation. -/
theorem readGroup_succ (payload : Nat → Nat → List UInt8 → Option (Field × List UInt8))
    (tag fuel : Nat) (bs : List UInt8) :
    readGroup payload tag (fuel + 1) bs = (readKey bs).bind fun k =>
      if k.1.2 = 4 then if k.1.1 = tag then some ([], k.2) else none
      else (payload k.1.1 k.1.2 k.2).bind fun f =>
        (readGroup payload tag fuel f.2).bind fun fs => some (f.1 :: fs.1, fs.2) := rfl

/-- A run of fields, without its notation. -/
theorem readFieldsOf_succ (depth fuel : Nat) (b : UInt8) (bs : List UInt8) :
    readFieldsOf depth (fuel + 1) (b :: bs) =
      ((readKey (b :: bs)).bind fun k => readPayload depth k.1.1 k.1.2 k.2).bind fun f =>
        (readFieldsOf depth fuel f.2).bind fun fs => some (f.1 :: fs) :=
  (Option.bind_assoc ..).symm

section

variable {payload : Nat → Nat → List UInt8 → Option (Field × List UInt8)}
  {spelled : Field → List UInt8 → Prop} (hreads : Reads payload spelled)
include hreads

/-- A field takes at least one byte, since its key does. -/
theorem Reads.length_pos {f : Field} {bs : List UInt8} (h : spelled f bs) : 0 < bs.length := by
  obtain ⟨⟨⟨tag, wireType⟩, rest⟩, hkey, -⟩ := Option.bind_eq_some_iff.mp
    ((hreads (bs ++ []) f []).mpr ⟨bs, h, rfl⟩)
  obtain ⟨-, k, hk, hbs⟩ := readKey_eq_some_iff.mp hkey
  have hlength := congrArg List.length hbs
  simp only [List.append_nil, List.length_append] at hlength
  have hpos := hk.length_pos
  omega

/-- No byte spells no field. -/
theorem Reads.eq_nil_of_spelledRun {fs : List Field} (h : SpelledRun spelled fs []) : fs = [] := by
  generalize hbs : ([] : List UInt8) = bs at h
  cases h with
  | nil => rfl
  | cons hfront hrest =>
      have hpos := hreads.length_pos hfront
      rw [(List.append_eq_nil_iff.mp hbs.symm).1] at hpos
      exact absurd hpos (Nat.lt_irrefl 0)

/-- The rest of a group is read exactly from spellings of its fields and a closing key. -/
theorem Reads.readGroup (hclose : ∀ tag bs, payload tag 4 bs = none) {tag fuel : Nat}
    {bs rest : List UInt8} {fs : List Field} (hfuel : bs.length < fuel) :
    readGroup payload tag fuel bs = some (fs, rest) ↔
      ∃ body close, SpelledRun spelled fs body ∧ IsKey close tag 4 ∧
        bs = body ++ (close ++ rest) := by
  induction fuel generalizing bs fs with
  | zero => exact absurd hfuel (Nat.not_lt_zero _)
  | succ fuel ih =>
      -- A field takes a byte at least, so one unit less of fuel is enough for what follows it.
      have hnext {front bs' : List UInt8} {f : Field} (h : spelled f front)
          (hbs : bs = front ++ bs') : bs'.length < fuel := by
        have hpos := hreads.length_pos h
        have hlength := congrArg List.length hbs
        rw [List.length_append] at hlength
        omega
      rw [readGroup_succ]
      constructor
      · intro h
        obtain ⟨⟨⟨innerTag, wireType⟩, bs'⟩, hkey, hgroup⟩ := Option.bind_eq_some_iff.mp h
        by_cases hwire : wireType = 4
        · subst hwire
          obtain ⟨-, k, hk, rfl⟩ := readKey_eq_some_iff.mp hkey
          rw [if_pos rfl] at hgroup
          by_cases htag : innerTag = tag
          · cases (if_pos htag).symm.trans hgroup
            exact ⟨[], k, .nil, htag ▸ hk, rfl⟩
          · cases (if_neg htag).symm.trans hgroup
        · rw [if_neg hwire] at hgroup
          obtain ⟨⟨f, bs''⟩, hpayload, hgroup⟩ := Option.bind_eq_some_iff.mp hgroup
          obtain ⟨⟨fs', rest'⟩, hrest, hgroup⟩ := Option.bind_eq_some_iff.mp hgroup
          cases hgroup
          obtain ⟨front, hfront, hbs⟩ := (hreads bs f bs'').mp
            (Option.bind_eq_some_iff.mpr ⟨_, hkey, hpayload⟩)
          obtain ⟨body, close, hbody, hclosing, rfl⟩ := (ih (hnext hfront hbs)).mp hrest
          exact ⟨front ++ body, close, .cons hfront hbody, hclosing,
            by rw [hbs, List.append_assoc]⟩
      · rintro ⟨body, close, hbody, hclosing, hbs⟩
        cases hbody with
        | nil =>
            rw [hbs, List.nil_append, hclosing.readKey (by decide), Option.bind_some, if_pos rfl,
              if_pos rfl]
        | @cons f fs front body hfront hbody =>
            rw [List.append_assoc] at hbs
            obtain ⟨⟨⟨innerTag, wireType⟩, bs'⟩, hkey, hpayload⟩ := Option.bind_eq_some_iff.mp
              ((hreads bs f (body ++ (close ++ rest))).mpr ⟨front, hfront, hbs⟩)
            -- The reader of a group looks for the closing key first, and a field has another one.
            have hwire : wireType ≠ 4 := by
              rintro rfl
              cases (hclose innerTag bs').symm.trans hpayload
            have hrest := (ih (hnext hfront hbs)).mpr ⟨body, close, hbody, hclosing, rfl⟩
            rw [hkey, Option.bind_some, if_neg hwire, hpayload, Option.bind_some, hrest,
              Option.bind_some]

end

/-- No payload follows a closing key. -/
theorem readPayload_close (depth tag : Nat) (bs : List UInt8) :
    readPayload depth tag 4 bs = none := by
  cases depth <;> rfl

/-- What follows a key is read exactly from the spellings of fields of its tag and wire type. -/
theorem Reads.readPayload_succ {depth : Nat} {spelled : Field → List UInt8 → Prop}
    (hreads : Reads (readPayload depth) spelled) {tag wireType : Nat} {bs rest : List UInt8}
    {f : Field} :
    readPayload (depth + 1) tag wireType bs = some (f, rest) ↔
      (f.tag = tag ∧ f.wireType = wireType) ∧
        ∃ front, f.PayloadBy spelled front ∧ bs = front ++ rest := by
  constructor
  · intro h
    -- One case for each wire type, in the order of the reader; the last one has none.
    unfold readPayload at h
    split at h
    · obtain ⟨⟨n, rest'⟩, hn, h⟩ := Option.map_eq_some_iff.mp h
      cases h
      exact ⟨⟨rfl, rfl⟩, readVarint_eq_some_iff.mp hn⟩
    · obtain ⟨⟨content, rest'⟩, hcontent, h⟩ := Option.map_eq_some_iff.mp h
      cases h
      obtain ⟨hlength, hbs⟩ := takeBytes_eq_some_iff.mp hcontent
      exact ⟨⟨rfl, rfl⟩, content, ⟨hlength, rfl⟩, hbs⟩
    · obtain ⟨⟨n, bs'⟩, hn, h⟩ := Option.bind_eq_some_iff.mp h
      obtain ⟨⟨content, rest'⟩, hcontent, h⟩ := Option.map_eq_some_iff.mp h
      cases h
      obtain ⟨l, hl, rfl⟩ := readVarint_eq_some_iff.mp hn
      obtain ⟨rfl, rfl⟩ := takeBytes_eq_some_iff.mp hcontent
      exact ⟨⟨rfl, rfl⟩, l ++ content, ⟨l, hl, rfl⟩, (List.append_assoc ..).symm⟩
    · obtain ⟨⟨fs, rest'⟩, hfs, h⟩ := Option.map_eq_some_iff.mp h
      cases h
      obtain ⟨body, close, hbody, hclose, rfl⟩ :=
        (hreads.readGroup (readPayload_close depth) (Nat.lt_succ_self _)).mp hfs
      exact ⟨⟨rfl, rfl⟩, body ++ close, ⟨body, close, hbody, hclose, rfl⟩,
        (List.append_assoc ..).symm⟩
    · obtain ⟨⟨content, rest'⟩, hcontent, h⟩ := Option.map_eq_some_iff.mp h
      cases h
      obtain ⟨hlength, hbs⟩ := takeBytes_eq_some_iff.mp hcontent
      exact ⟨⟨rfl, rfl⟩, content, ⟨hlength, rfl⟩, hbs⟩
    · cases h
  · rintro ⟨⟨rfl, rfl⟩, front, hfront, rfl⟩
    cases f with
    | varint tag n =>
        have hn : IsVarint front n := hfront
        exact Option.map_eq_some_iff.mpr ⟨(n, rest), hn.readVarint rest, rfl⟩
    | fixed64 tag content =>
        obtain ⟨hlength, rfl⟩ := hfront
        exact Option.map_eq_some_iff.mpr
          ⟨(front, rest), takeBytes_eq_some_iff.mpr ⟨hlength, rfl⟩, rfl⟩
    | bytes tag content =>
        obtain ⟨l, hl, rfl⟩ := hfront
        rw [List.append_assoc]
        refine Option.bind_eq_some_iff.mpr ⟨(content.length, content ++ rest), hl.readVarint _, ?_⟩
        exact Option.map_eq_some_iff.mpr
          ⟨(content, rest), takeBytes_eq_some_iff.mpr ⟨rfl, rfl⟩, rfl⟩
    | group tag fs =>
        obtain ⟨body, close, hbody, hclose, rfl⟩ := hfront
        have hgroup := (hreads.readGroup (readPayload_close depth) (Nat.lt_succ_self _)).mpr
          ⟨body, close, hbody, hclose, List.append_assoc body close rest⟩
        exact Option.map_eq_some_iff.mpr ⟨(fs, rest), hgroup, rfl⟩
    | fixed32 tag content =>
        obtain ⟨hlength, rfl⟩ := hfront
        exact Option.map_eq_some_iff.mpr
          ⟨(front, rest), takeBytes_eq_some_iff.mpr ⟨hlength, rfl⟩, rfl⟩

/-- **Fields.** Bytes are read as a field exactly when they begin with a spelling of it. -/
theorem reads_readPayload (depth : Nat) : Reads (readPayload depth) (Field.SpelledBy depth) := by
  induction depth with
  | zero =>
      intro bs f rest
      constructor
      · intro h
        obtain ⟨_, _, hpayload⟩ := Option.bind_eq_some_iff.mp h
        cases hpayload
      · rintro ⟨front, hfront, -⟩
        exact hfront.elim
  | succ depth ih =>
      intro bs f rest
      constructor
      · intro h
        obtain ⟨⟨⟨tag, wireType⟩, bs'⟩, hkey, hpayload⟩ := Option.bind_eq_some_iff.mp h
        obtain ⟨-, k, hk, rfl⟩ := readKey_eq_some_iff.mp hkey
        obtain ⟨⟨rfl, rfl⟩, front, hfront, rfl⟩ := ih.readPayload_succ.mp hpayload
        exact ⟨k ++ front, ⟨k, front, hk, hfront, rfl⟩, (List.append_assoc ..).symm⟩
      · rintro ⟨_, ⟨k, front, hk, hfront, rfl⟩, rfl⟩
        rw [List.append_assoc]
        exact Option.bind_eq_some_iff.mpr ⟨_, hk.readKey f.wireType_lt _,
          ih.readPayload_succ.mpr ⟨⟨rfl, rfl⟩, front, hfront, rfl⟩⟩

/-- Fields are read to the end of the bytes with as much fuel as there are bytes. -/
theorem readFieldsOf_eq_some_iff {depth fuel : Nat} {bs : List UInt8} {fs : List Field}
    (hfuel : bs.length ≤ fuel) :
    readFieldsOf depth fuel bs = some fs ↔ SpelledRun (Field.SpelledBy depth) fs bs := by
  have hreads := reads_readPayload depth
  induction fuel generalizing bs fs with
  | zero =>
      obtain rfl : bs = [] := List.eq_nil_of_length_eq_zero (Nat.le_zero.mp hfuel)
      exact ⟨fun h => by cases h; exact .nil, fun h => hreads.eq_nil_of_spelledRun h ▸ rfl⟩
  | succ fuel ih =>
      cases bs with
      | nil => exact ⟨fun h => by cases h; exact .nil, fun h => hreads.eq_nil_of_spelledRun h ▸ rfl⟩
      | cons b bs =>
          have hnext {front rest : List UInt8} {f : Field} (h : f.SpelledBy depth front)
              (hbs : b :: bs = front ++ rest) : rest.length ≤ fuel := by
            have hpos := hreads.length_pos h
            have hlength := congrArg List.length hbs
            rw [List.length_append] at hlength
            omega
          rw [readFieldsOf_succ]
          constructor
          · intro h
            obtain ⟨⟨f, rest⟩, hfield, h⟩ := Option.bind_eq_some_iff.mp h
            obtain ⟨fs', hrest, h⟩ := Option.bind_eq_some_iff.mp h
            cases h
            obtain ⟨front, hfront, hbs⟩ := (hreads _ f rest).mp hfield
            rw [hbs]
            exact .cons hfront ((ih (hnext hfront hbs)).mp hrest)
          · generalize hbs : b :: bs = bs'
            rintro (_ | ⟨hfront, hrest⟩)
            · cases hbs
            · refine Option.bind_eq_some_iff.mpr ⟨_, (hreads _ _ _).mpr ⟨_, hfront, rfl⟩, ?_⟩
              exact Option.bind_eq_some_iff.mpr ⟨_, (ih (hnext hfront hbs)).mpr hrest, rfl⟩

/-- **Runs of fields.** Bytes are read as fields exactly when they spell them one after another. -/
theorem readFields_eq_some_iff {depth : Nat} {bs : List UInt8} {fs : List Field} :
    readFields depth bs = some fs ↔ SpelledRun (Field.SpelledBy depth) fs bs :=
  readFieldsOf_eq_some_iff (Nat.le_refl _)

end RouteKeeper.Wire
