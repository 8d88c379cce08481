import RouteKeeper.Proofs.Text.Utf8
import RouteKeeper.Proofs.Toml.AddedLines
import RouteKeeper.Proofs.Toml.Written
import RouteKeeper.Settings

/-!
# What a settings file sets

A setting has the value that the file writes for it, and its default if the file does not mention
it. It does not matter in which order the file says what it says, what else it says, and whether a
section that sets nothing is left out or there without keys.

## Implementation notes

The files are those whose sections are written as tables, below a header, with dotted keys or
between braces. What a file says is told by its statements with paths from the root.
-/

namespace RouteKeeper.Settings

open Toml (Entries IsSection Statement Value inside)

/-- The sections of a settings file. -/
def sectionNames : List String :=
  ["dataplane", "vpp", "kernel", "connections", "reconcile"]

/-- The settings by section and key. -/
def settingNames : List (String × String) :=
  [("dataplane", "mode"), ("vpp", "agent_endpoint"), ("vpp", "request_timeout_secs"),
    ("kernel", "interface_prefix"), ("connections", "client_interface_name"),
    ("reconcile", "interval_secs"), ("reconcile", "recover_routes_on_start")]

/-- Every section that is there is a table. -/
def SectionsAreTables (made : List Statement) : Prop :=
  ∀ name ∈ sectionNames, ∀ st ∈ made, st.KeepsTable name

/-- The path of no statement begins with the section. -/
def LeavesOut (made : List Statement) (name : String) : Prop :=
  ∀ st ∈ made, st.path.head? ≠ some name

/-- The statement says nothing of any setting. -/
def SetsNothing (st : Statement) : Prop :=
  (∀ name ∈ sectionNames, st.KeepsTable name) ∧
    ∀ setting ∈ settingNames, ¬ st.Touches setting.1 setting.2

variable {α : Type} {made : List Statement} {es : Entries} {v : Value}

/-- Some statement writes the value for a key of a section. -/
def Writes (made : List Statement) (sec key : String) (v : Value) : Prop :=
  ∃ st ∈ made, st.Writes sec key v

/-- Some statement says something of a key of a section. -/
def Mentions (made : List Statement) (sec key : String) : Prop :=
  ∃ st ∈ made, st.Touches sec key

/-- The statements say the same of every setting. -/
def SayTheSame (made made' : List Statement) : Prop :=
  ∀ setting ∈ settingNames,
    (∀ v, Writes made setting.1 setting.2 v ↔ Writes made' setting.1 setting.2 v) ∧
      (Mentions made setting.1 setting.2 ↔ Mentions made' setting.1 setting.2)

/-- A setting has the value that is written for it, or its default if it is not mentioned. -/
def IsSet (made : List Statement) (sec key : String) (spells : Value → α → Prop)
    (default x : α) : Prop :=
  (∃ v, Writes made sec key v ∧ spells v x) ∨ ¬ Mentions made sec key ∧ x = default

/-- The value spells a string. -/
def SpellsString (v : Value) (s : String) : Prop :=
  v = .string s

/-- The value spells a truth value. -/
def SpellsFlag (v : Value) (b : Bool) : Prop :=
  v = .boolean b

/-- The value spells a number of at most 64 bits. -/
def SpellsWord (v : Value) (n : Nat) : Prop :=
  v = .integer n ∧ n < Nat.pow 2 64

/-- The value spells a string that may also be missing. -/
def SpellsOptional (v : Value) (s : Option String) : Prop :=
  ∃ t, v = .string t ∧ s = some t

/-- Each setting is what the statements write for it, or else its default. -/
structure GivenBy (made : List Statement) (s : Settings) : Prop where
  mode : IsSet made "dataplane" "mode" SpellsOptional ({} : Settings).dataplane.mode
    s.dataplane.mode
  agentEndpoint : IsSet made "vpp" "agent_endpoint" SpellsString ({} : Settings).vpp.agentEndpoint
    s.vpp.agentEndpoint
  requestTimeoutSecs : IsSet made "vpp" "request_timeout_secs" SpellsWord
    ({} : Settings).vpp.requestTimeoutSecs s.vpp.requestTimeoutSecs
  interfacePrefix : IsSet made "kernel" "interface_prefix" SpellsString
    ({} : Settings).kernel.interfacePrefix s.kernel.interfacePrefix
  clientInterfaceName : IsSet made "connections" "client_interface_name" SpellsString
    ({} : Settings).connections.clientInterfaceName s.connections.clientInterfaceName
  intervalSecs : IsSet made "reconcile" "interval_secs" SpellsWord
    ({} : Settings).reconcile.intervalSecs s.reconcile.intervalSecs
  recoverRoutesOnStart : IsSet made "reconcile" "recover_routes_on_start" SpellsFlag
    ({} : Settings).reconcile.recoverRoutesOnStart s.reconcile.recoverRoutesOnStart

/-! ## Reading values -/

theorem string?_iff (v : Value) (s : String) : string? v = some s ↔ SpellsString v s := by
  cases v <;> simp [string?, SpellsString]

theorem boolean?_iff (v : Value) (b : Bool) : boolean? v = some b ↔ SpellsFlag v b := by
  cases v <;> simp [boolean?, SpellsFlag]

theorem word?_iff (v : Value) (n : Nat) : word? v = some n ↔ SpellsWord v n := by
  cases v with
  | integer m =>
      have hint : Int.pow 2 64 = 18446744073709551616 := rfl
      have hnat : Nat.pow 2 64 = 18446744073709551616 := rfl
      simp only [word?, SpellsWord, Value.integer.injEq, hint, hnat]
      split
      · next h =>
          simp only [Option.some.injEq]
          omega
      · next h =>
          simp only [reduceCtorEq, false_iff]
          omega
  | _ => simp [word?, SpellsWord]

theorem optional_iff (v : Value) (s : Option String) :
    (string? v).map some = some s ↔ SpellsOptional v s := by
  rw [Option.map_eq_some_iff]
  exact exists_congr fun t => and_congr (string?_iff v t) eq_comm

theorem SpellsString.not_isOpen {s : String} (h : SpellsString v s) : ¬ v.IsOpen := by
  cases h
  exact id

theorem SpellsFlag.not_isOpen {b : Bool} (h : SpellsFlag v b) : ¬ v.IsOpen := by
  cases h
  exact id

theorem SpellsWord.not_isOpen {n : Nat} (h : SpellsWord v n) : ¬ v.IsOpen := by
  obtain ⟨rfl, -⟩ := h
  exact id

theorem SpellsOptional.not_isOpen {s : Option String} (h : SpellsOptional v s) : ¬ v.IsOpen := by
  obtain ⟨t, rfl, -⟩ := h
  exact id

theorem setting?_eq_some_iff {read : Value → Option α} {name : String} {d x : α} :
    setting? read es name d = some x ↔
      (∃ v, es.get? name = some v ∧ read v = some x) ∨ es.get? name = none ∧ x = d := by
  unfold setting?
  split
  · next h => simp [h, eq_comm]
  · next v h => simp [h]

/-- A section that is missing is read as one without keys. -/
theorem setting?_section {read : Value → Option α} {name : String} {d : α}
    (hempty : read (.table .header []) = some d)
    (horigin : ∀ o inner, read (.table o inner) = read (.table .header inner))
    (hsection : IsSection (es.get? name)) :
    setting? read es name d = read (.table .header (inside (es.get? name))) := by
  unfold setting?
  split
  · next h =>
      rw [h]
      exact hempty.symm
  · next v h =>
      obtain ⟨o, inner, rfl⟩ := hsection v h
      rw [h, horigin]
      rfl

theorem setting?_inside_iff {sec key : String} {read : Value → Option α}
    {spells : Value → α → Prop} {d x : α} (hgrows : Toml.Grows made [] es)
    (htables : ∀ st ∈ made, st.KeepsTable sec) (hread : ∀ v x, read v = some x ↔ spells v x)
    (hclosed : ∀ ⦃v x⦄, spells v x → ¬ v.IsOpen) :
    setting? read (inside (es.get? sec)) key d = some x ↔ IsSet made sec key spells d x := by
  have hnone : IsSection (Entries.get? [] sec) := by rintro _ ⟨⟩
  have habsent : (inside (es.get? sec)).get? key = none ↔ ¬ Mentions made sec key := by
    rw [hgrows.get?_eq_none_iff hnone htables]
    exact ⟨fun ⟨_, huntouched⟩ ⟨st, hst, htouches⟩ => huntouched st hst htouches,
      fun hnot => ⟨rfl, fun st hst htouches => hnot ⟨st, hst, htouches⟩⟩⟩
  have hpresent ⦃v : Value⦄ (hv : ¬ v.IsOpen) :
      (inside (es.get? sec)).get? key = some v ↔ Writes made sec key v := by
    rw [hgrows.get?_eq_some_iff hnone htables hv]
    exact or_iff_right (by rintro ⟨⟩)
  rw [setting?_eq_some_iff, habsent]
  refine or_congr_left (exists_congr fun v => ?_)
  rw [hread]
  exact and_congr_left fun hspells => hpresent (hclosed hspells)

/-! ## Reading sections -/

section Sections

variable {s : Settings} (hgrows : Toml.Grows made [] es) (htables : SectionsAreTables made)

include hgrows htables

theorem isSection_of_mem {name : String} (hname : name ∈ sectionNames) :
    IsSection (es.get? name) :=
  hgrows.isSection (by rintro _ ⟨⟩) (htables name hname)

theorem dataplane_iff (x : DataplaneSettings) :
    setting? dataplane? es "dataplane" {} = some x ↔
      IsSet made "dataplane" "mode" SpellsOptional none x.mode := by
  have hsection : setting? dataplane? es "dataplane" {} = dataplane? (.table .header _) :=
    setting?_section rfl (fun _ _ => rfl) (isSection_of_mem hgrows htables (by decide))
  rw [hsection, ← setting?_inside_iff hgrows (htables _ (by decide)) optional_iff
    fun _ _ => SpellsOptional.not_isOpen]
  obtain ⟨mode⟩ := x
  simp [dataplane?, sectionEntries?, Option.bind_eq_some_iff]

theorem vpp_iff (x : VppSettings) :
    setting? vpp? es "vpp" {} = some x ↔
      IsSet made "vpp" "agent_endpoint" SpellsString ({} : VppSettings).agentEndpoint
          x.agentEndpoint ∧
        IsSet made "vpp" "request_timeout_secs" SpellsWord ({} : VppSettings).requestTimeoutSecs
          x.requestTimeoutSecs := by
  have hsection : setting? vpp? es "vpp" {} = vpp? (.table .header _) :=
    setting?_section rfl (fun _ _ => rfl) (isSection_of_mem hgrows htables (by decide))
  rw [hsection, ← setting?_inside_iff hgrows (htables _ (by decide)) string?_iff
    fun _ _ => SpellsString.not_isOpen, ← setting?_inside_iff hgrows (htables _ (by decide))
    word?_iff fun _ _ => SpellsWord.not_isOpen]
  obtain ⟨endpoint, timeout⟩ := x
  simp [vpp?, sectionEntries?, Option.bind_eq_some_iff]

theorem kernel_iff (x : KernelSettings) :
    setting? kernel? es "kernel" {} = some x ↔
      IsSet made "kernel" "interface_prefix" SpellsString ({} : KernelSettings).interfacePrefix
        x.interfacePrefix := by
  have hsection : setting? kernel? es "kernel" {} = kernel? (.table .header _) :=
    setting?_section rfl (fun _ _ => rfl) (isSection_of_mem hgrows htables (by decide))
  rw [hsection, ← setting?_inside_iff hgrows (htables _ (by decide)) string?_iff
    fun _ _ => SpellsString.not_isOpen]
  obtain ⟨linkPrefix⟩ := x
  simp [kernel?, sectionEntries?, Option.bind_eq_some_iff]

theorem connections_iff (x : ConnectionSettings) :
    setting? connections? es "connections" {} = some x ↔
      IsSet made "connections" "client_interface_name" SpellsString
        ({} : ConnectionSettings).clientInterfaceName x.clientInterfaceName := by
  have hsection : setting? connections? es "connections" {} = connections? (.table .header _) :=
    setting?_section rfl (fun _ _ => rfl) (isSection_of_mem hgrows htables (by decide))
  rw [hsection, ← setting?_inside_iff hgrows (htables _ (by decide)) string?_iff
    fun _ _ => SpellsString.not_isOpen]
  obtain ⟨name⟩ := x
  simp [connections?, sectionEntries?, Option.bind_eq_some_iff]

theorem reconcile_iff (x : ReconcileSettings) :
    setting? reconcile? es "reconcile" {} = some x ↔
      IsSet made "reconcile" "interval_secs" SpellsWord ({} : ReconcileSettings).intervalSecs
          x.intervalSecs ∧
        IsSet made "reconcile" "recover_routes_on_start" SpellsFlag
          ({} : ReconcileSettings).recoverRoutesOnStart x.recoverRoutesOnStart := by
  have hsection : setting? reconcile? es "reconcile" {} = reconcile? (.table .header _) :=
    setting?_section rfl (fun _ _ => rfl) (isSection_of_mem hgrows htables (by decide))
  rw [hsection, ← setting?_inside_iff hgrows (htables _ (by decide)) word?_iff
    fun _ _ => SpellsWord.not_isOpen, ← setting?_inside_iff hgrows (htables _ (by decide))
    boolean?_iff fun _ _ => SpellsFlag.not_isOpen]
  obtain ⟨interval, recover⟩ := x
  simp [reconcile?, sectionEntries?, Option.bind_eq_some_iff]

/-- Entries are read as the settings that the statements of the document give. -/
theorem ofEntries?_iff_givenBy : ofEntries? es = some s ↔ GivenBy made s := by
  have hsections : ofEntries? es = some s ↔
      setting? dataplane? es "dataplane" {} = some s.dataplane ∧
        setting? vpp? es "vpp" {} = some s.vpp ∧ setting? kernel? es "kernel" {} = some s.kernel ∧
        setting? connections? es "connections" {} = some s.connections ∧
        setting? reconcile? es "reconcile" {} = some s.reconcile := by
    obtain ⟨dataplane, vpp, kernel, connections, reconcile⟩ := s
    simp only [ofEntries?, Option.bind_eq_bind, Option.bind_eq_some_iff, Option.pure_def,
      Option.some.injEq, Settings.mk.injEq]
    constructor
    · rintro ⟨_, hdataplane, _, hvpp, _, hkernel, _, hconnections, _, hreconcile, rfl, rfl, rfl,
        rfl, rfl⟩
      exact ⟨hdataplane, hvpp, hkernel, hconnections, hreconcile⟩
    · rintro ⟨hdataplane, hvpp, hkernel, hconnections, hreconcile⟩
      exact ⟨_, hdataplane, _, hvpp, _, hkernel, _, hconnections, _, hreconcile, rfl, rfl, rfl,
        rfl, rfl⟩
  rw [hsections, dataplane_iff hgrows htables, vpp_iff hgrows htables, kernel_iff hgrows htables,
    connections_iff hgrows htables, reconcile_iff hgrows htables]
  constructor
  · rintro ⟨hmode, ⟨hendpoint, htimeout⟩, hbegins, hname, hinterval, hrecover⟩
    exact ⟨hmode, hendpoint, htimeout, hbegins, hname, hinterval, hrecover⟩
  · rintro ⟨hmode, hendpoint, htimeout, hbegins, hname, hinterval, hrecover⟩
    exact ⟨hmode, ⟨hendpoint, htimeout⟩, hbegins, hname, hinterval, hrecover⟩

end Sections

/-! ## Order and unknown content -/

section Order

variable {made' extra : List Statement} {sec key : String} {spells : Value → α → Prop} {d x : α}

theorem writes_of_perm (hperm : made'.Perm (made ++ extra))
    (hextra : ∀ st ∈ extra, ¬ st.Touches sec key) :
    Writes made sec key v ↔ Writes made' sec key v := by
  constructor
  · rintro ⟨st, hst, hwrites⟩
    exact ⟨st, hperm.mem_iff.2 (List.mem_append_left _ hst), hwrites⟩
  · rintro ⟨st, hst, hwrites⟩
    obtain hst | hst := List.mem_append.1 (hperm.mem_iff.1 hst)
    · exact ⟨st, hst, hwrites⟩
    · exact absurd (Toml.touches_of_writes hwrites) (hextra st hst)

theorem mentions_of_perm (hperm : made'.Perm (made ++ extra))
    (hextra : ∀ st ∈ extra, ¬ st.Touches sec key) :
    Mentions made sec key ↔ Mentions made' sec key := by
  constructor
  · rintro ⟨st, hst, htouches⟩
    exact ⟨st, hperm.mem_iff.2 (List.mem_append_left _ hst), htouches⟩
  · rintro ⟨st, hst, htouches⟩
    obtain hst | hst := List.mem_append.1 (hperm.mem_iff.1 hst)
    · exact ⟨st, hst, htouches⟩
    · exact absurd htouches (hextra st hst)

/-- Another order and statements that set nothing change nothing of what is said. -/
theorem sayTheSame_of_perm (hperm : made'.Perm (made ++ extra))
    (hextra : ∀ st ∈ extra, SetsNothing st) : SayTheSame made made' := fun setting hsetting =>
  have huntouched (st : Statement) (hst : st ∈ extra) : ¬ st.Touches setting.1 setting.2 :=
    (hextra st hst).2 setting hsetting
  ⟨fun _ => writes_of_perm hperm huntouched, mentions_of_perm hperm huntouched⟩

theorem SayTheSame.isSet (h : SayTheSame made made') (hsetting : (sec, key) ∈ settingNames)
    (hset : IsSet made sec key spells d x) : IsSet made' sec key spells d x := by
  obtain ⟨hwrites, hmentions⟩ := h _ hsetting
  obtain ⟨v, hv, hspells⟩ | ⟨hnot, hdefault⟩ := hset
  · exact .inl ⟨v, (hwrites v).1 hv, hspells⟩
  · exact .inr ⟨mt hmentions.2 hnot, hdefault⟩

theorem GivenBy.of_sayTheSame {s : Settings} (hgiven : GivenBy made s)
    (h : SayTheSame made made') : GivenBy made' s :=
  ⟨h.isSet (by decide) hgiven.mode, h.isSet (by decide) hgiven.agentEndpoint,
    h.isSet (by decide) hgiven.requestTimeoutSecs, h.isSet (by decide) hgiven.interfacePrefix,
    h.isSet (by decide) hgiven.clientInterfaceName, h.isSet (by decide) hgiven.intervalSecs,
    h.isSet (by decide) hgiven.recoverRoutesOnStart⟩

theorem SectionsAreTables.of_perm (h : SectionsAreTables made)
    (hperm : made'.Perm (made ++ extra)) (hextra : ∀ st ∈ extra, SetsNothing st) :
    SectionsAreTables made' := by
  intro name hname st hst
  obtain hst | hst := List.mem_append.1 (hperm.mem_iff.1 hst)
  · exact h name hname st hst
  · exact (hextra st hst).1 name hname

/-- The header of a section sets nothing by itself. -/
theorem setsNothing_header (name : String) : SetsNothing (.header [name]) := by
  refine ⟨fun sec _ => ⟨by simp, by simp⟩, fun setting _ => ?_⟩
  rintro (hbegins | ⟨es, heq, -⟩)
  · have hle := hbegins.length_le
    simp [Statement.path] at hle
  · cases heq

end Order

/-! ## Files -/

section Files

variable {content : List UInt8} {path : String} {s : Settings}

/-- The statements of a settings file with paths from the root; there are none if the file is no
document. -/
def statementsOf? (content : List UInt8) : Option (List Statement) := do
  let text ← Text.ofUtf8? content
  let sts ← Toml.statements? text
  let _ ← Toml.ofStatements sts
  return Toml.inFull [] sts

theorem statementsOf?_eq_some_iff : statementsOf? content = some made ↔
    ∃ text sts es, Text.ofUtf8? content = some text ∧ Toml.statements? text = some sts ∧
      Toml.ofStatements sts = some es ∧ Toml.inFull [] sts = made := by
  simp [statementsOf?, Option.bind_eq_some_iff]

theorem load_bytes_iff : load path (.bytes content) = .ok s ↔
    ∃ text, Text.ofUtf8? content = some text ∧ parse? text = some s := by
  simp only [load]
  split
  · next htext => simp [htext]
  · next text htext =>
      split
      · next hparse => simp [htext, hparse]
      · next settings hparse => simp [htext, hparse]

/-- A file that is accepted is a document. -/
theorem exists_statementsOf? (h : load path (.bytes content) = .ok s) :
    ∃ made, statementsOf? content = some made := by
  obtain ⟨text, htext, hparse⟩ := load_bytes_iff.1 h
  obtain ⟨es, hes, -⟩ := Option.bind_eq_some_iff.1 hparse
  rw [Toml.parse_eq] at hes
  obtain ⟨sts, hsts, hes⟩ := Option.bind_eq_some_iff.1 hes
  exact ⟨_, statementsOf?_eq_some_iff.2 ⟨text, sts, es, htext, hsts, hes, rfl⟩⟩

/-- The settings of a file are those that its statements give. -/
theorem load_iff_givenBy (hmade : statementsOf? content = some made)
    (htables : SectionsAreTables made) : load path (.bytes content) = .ok s ↔ GivenBy made s := by
  obtain ⟨text, sts, es, htext, hsts, hes, rfl⟩ := statementsOf?_eq_some_iff.1 hmade
  rw [load_bytes_iff, ← ofEntries?_iff_givenBy (Toml.ofStatements_grows hes) htables]
  simp [htext, parse?, Toml.parse_eq, hsts, hes]

/-- A file may be followed by the header of a section that it leaves out. -/
theorem statementsOf?_append_header {name : String} (hbare : Toml.IsBare name)
    (hmade : statementsOf? content = some made) (hout : LeavesOut made name) :
    statementsOf? (content ++ Text.utf8 ("\n[" ++ name ++ "]\n")) =
      some (made ++ [.header [name]]) := by
  obtain ⟨text, sts, es, htext, hsts, hes, rfl⟩ := statementsOf?_eq_some_iff.1 hmade
  have hlacks : es.get? name = none := (Toml.ofStatements_grows hes).lacks rfl hout
  exact statementsOf?_eq_some_iff.2 ⟨_, sts ++ [.header [name]], _,
    Text.ofUtf8?_append htext (Text.ofUtf8?_utf8 _), Toml.statements?_append_header hsts hbare,
    Toml.ofStatements_append_header hes hlacks, Toml.inFull_append_header [] sts [name]⟩

theorem isBare_of_mem {name : String} (hname : name ∈ sectionNames) : Toml.IsBare name := by
  have hall : ∀ name ∈ sectionNames, Toml.IsBare name := by
    simp only [sectionNames, List.forall_mem_cons]
    decide
  exact hall name hname

/-- **Both ways of defaulting agree.** Of an accepted file with its sections written as tables,
each setting is what the file writes for it, and its default if the file does not mention it. The
settings stay the same when a section that is left out is added without keys, in any file that says
the same of every setting, and so when the file says what it says in another order and among other
things that set nothing. A missing file stands for the defaults. -/
theorem load_eq_ok_of_tables (h : load path (.bytes content) = .ok s) :
    load path .missing = .ok {} ∧
    ∃ made, statementsOf? content = some made ∧ (SectionsAreTables made →
      (∀ s', GivenBy made s' ↔ s' = s) ∧
      (∀ path' name, name ∈ sectionNames → LeavesOut made name →
        load path' (.bytes (content ++ Text.utf8 ("\n[" ++ name ++ "]\n"))) = .ok s) ∧
      (∀ path' content' made', statementsOf? content' = some made' → SectionsAreTables made' →
        SayTheSame made made' → load path' (.bytes content') = .ok s) ∧
      ∀ path' content' made' extra, statementsOf? content' = some made' →
        made'.Perm (made ++ extra) → (∀ st ∈ extra, SetsNothing st) →
        load path' (.bytes content') = .ok s) := by
  obtain ⟨made, hmade⟩ := exists_statementsOf? h
  refine ⟨rfl, made, hmade, fun htables => ?_⟩
  have hgiven : GivenBy made s := (load_iff_givenBy hmade htables).1 h
  have hsame (path' : String) (content' : List UInt8) (made' : List Statement)
      (hmade' : statementsOf? content' = some made') (htables' : SectionsAreTables made')
      (hsame : SayTheSame made made') : load path' (.bytes content') = .ok s :=
    (load_iff_givenBy hmade' htables').2 (hgiven.of_sayTheSame hsame)
  have hreordered (path' : String) (content' : List UInt8) (made' extra : List Statement)
      (hmade' : statementsOf? content' = some made') (hperm : made'.Perm (made ++ extra))
      (hextra : ∀ st ∈ extra, SetsNothing st) : load path' (.bytes content') = .ok s :=
    hsame path' content' made' hmade' (htables.of_perm hperm hextra)
      (sayTheSame_of_perm hperm hextra)
  refine ⟨fun s' => ⟨fun hs' => ?_, fun heq => heq ▸ hgiven⟩, fun path' name hname hout => ?_,
    hsame, hreordered⟩
  · have hload : load path (.bytes content) = .ok s' := (load_iff_givenBy hmade htables).2 hs'
    rw [h] at hload
    exact (Except.ok.inj hload).symm
  · refine hreordered path' _ _ [.header [name]]
      (statementsOf?_append_header (isBare_of_mem hname) hmade hout) (List.Perm.refl _) ?_
    exact List.forall_mem_singleton.2 (setsNothing_header name)

/-- One file has two of the five sections. The other one has them in the other order, and besides
them a key in no section, a key that is unknown to its section, and an array of tables. -/
theorem load_eq_ok_of_tables_of_reordered :
    let plain := "# edge\n[vpp]\nagent_endpoint = 'agent:1'\n\n[reconcile]\ninterval_secs = 30"
    let other :=
      "n = 7\n[reconcile]\ninterval_secs = 30\n[vpp]\nagent_endpoint = 'agent:1'\nx = [1]\n[[log]]"
    let s : Settings := { vpp := { agentEndpoint := "agent:1" },
                          reconcile := { intervalSecs := 30 } }
    load "sidecar.toml" (.bytes (Text.utf8 plain)) = .ok s ∧
      load "sidecar.toml" (.bytes (Text.utf8 plain ++ Text.utf8 "\n[kernel]\n")) = .ok s ∧
      load "edge.toml" (.bytes (Text.utf8 other)) = .ok s := by
  intro plain other s
  have hload : load "sidecar.toml" (.bytes (Text.utf8 plain)) = .ok s :=
    load_bytes_iff.2 ⟨plain, Text.ofUtf8?_utf8 plain, by decide +kernel⟩
  let agent : List Statement := [.header ["vpp"],
    .assign ["vpp", "agent_endpoint"] (.string "agent:1")]
  let passes : List Statement := [.header ["reconcile"],
    .assign ["reconcile", "interval_secs"] (.integer 30)]
  let first : Statement := .assign ["n"] (.integer 7)
  let rest : List Statement := [.assign ["vpp", "x"] (.array [.integer 1]), .element ["log"]]
  have hplain : Toml.statements? plain =
      some [.header ["vpp"], .assign ["agent_endpoint"] (.string "agent:1"),
        .header ["reconcile"], .assign ["interval_secs"] (.integer 30)] := by
    subst plain
    rfl
  have hother : Toml.statements? other =
      some [.assign ["n"] (.integer 7), .header ["reconcile"],
        .assign ["interval_secs"] (.integer 30), .header ["vpp"],
        .assign ["agent_endpoint"] (.string "agent:1"), .assign ["x"] (.array [.integer 1]),
        .element ["log"]] := by
    subst other
    rfl
  have hmade : statementsOf? (Text.utf8 plain) = some (agent ++ passes) :=
    statementsOf?_eq_some_iff.2 ⟨_, _, _, Text.ofUtf8?_utf8 _, hplain, rfl, rfl⟩
  have hmade' : statementsOf? (Text.utf8 other) = some (first :: ((passes ++ agent) ++ rest)) :=
    statementsOf?_eq_some_iff.2 ⟨_, _, _, Text.ofUtf8?_utf8 _, hother, rfl, rfl⟩
  have hperm : (first :: ((passes ++ agent) ++ rest)).Perm ((agent ++ passes) ++ first :: rest) :=
    ((List.perm_append_comm.append_right rest).cons first).trans List.perm_middle.symm
  have htables : SectionsAreTables (agent ++ passes) := by
    simp [SectionsAreTables, sectionNames, Statement.KeepsTable, agent, passes]
  have hextra : ∀ st ∈ first :: rest, SetsNothing st := by
    simp [SetsNothing, sectionNames, settingNames, Statement.KeepsTable, Statement.Touches,
      Statement.path, first, rest]
  obtain ⟨-, made, hmade₁, hrest⟩ := load_eq_ok_of_tables hload
  obtain rfl : made = agent ++ passes := Option.some.inj (hmade₁.symm.trans hmade)
  obtain ⟨-, hadded, -, hreordered⟩ := hrest htables
  refine ⟨hload, hadded _ "kernel" (by decide) ?_, hreordered _ _ _ _ hmade' hperm hextra⟩
  simp [LeavesOut, Statement.path, agent, passes]

end Files

end RouteKeeper.Settings
