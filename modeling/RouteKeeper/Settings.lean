import RouteKeeper.Failure
import RouteKeeper.Text.Blank
import RouteKeeper.Text.Utf8
import RouteKeeper.Toml.Reader

/-!
# Settings

The settings of the sidecar: what each is called, what it is when it is not set,
how a settings file is read, and which values are acceptable.

## Implementation notes

A section is a table of its settings, or an array of their values in order.
Settings that are missing keep their default, unknown ones are passed over.
-/

namespace RouteKeeper

/-- Which dataplane is programmed. -/
structure DataplaneSettings where
  /-- The setting that selects the mode, as it was written. -/
  mode : Option String := none
  deriving DecidableEq

/-- How the configuration agent is reached. -/
structure VppSettings where
  /-- Where the agent listens. -/
  agentEndpoint : String := "localhost:9113"
  /-- The time for one request, in seconds. -/
  requestTimeoutSecs : Nat := 120
  deriving DecidableEq

/-- How the kernel's tunnel links are found. -/
structure KernelSettings where
  /-- The beginning of the names of tunnel links. -/
  interfacePrefix : String := "vl3-"
  deriving DecidableEq

/-- How connections are reported. -/
structure ConnectionSettings where
  /-- The interface name reported for every connection. -/
  clientInterfaceName : String := "nsm0"
  deriving DecidableEq

/-- When passes run and what happens at the start. -/
structure ReconcileSettings where
  /-- The least time between two passes, in seconds. -/
  intervalSecs : Nat := 60
  /-- Whether installed routes are adopted at the start. -/
  recoverRoutesOnStart : Bool := true
  deriving DecidableEq

/-- All settings. -/
structure Settings where
  dataplane : DataplaneSettings := {}
  vpp : VppSettings := {}
  kernel : KernelSettings := {}
  connections : ConnectionSettings := {}
  reconcile : ReconcileSettings := {}
  deriving DecidableEq

namespace Settings

/-! ## Reading values -/

/-- Reads a string. -/
def string? : Toml.Value → Option String
  | .string s => some s
  | _ => none

/-- Reads a truth value. -/
def boolean? : Toml.Value → Option Bool
  | .boolean b => some b
  | _ => none

/-- Reads a number of at most 64 bits. -/
def word? : Toml.Value → Option Nat
  | .integer n => if 0 ≤ n ∧ n < Int.pow 2 64 then some n.toNat else none
  | _ => none

/-- The entries of a section. An array stands for the named settings in order; a point in time
has no settings. -/
def sectionEntries? (names : List String) : Toml.Value → Option Toml.Entries
  | .table _ entries => some entries
  | .array items | .tables items => some (names.zip items)
  | .datetime _ => some []
  | _ => none

/-- Reads a setting that may be missing. -/
def setting? {α : Type} (read : Toml.Value → Option α) (entries : Toml.Entries) (name : String)
    (default : α) : Option α :=
  match entries.get? name with
  | none => some default
  | some v => read v

/-- Reads the section that selects the dataplane. -/
def dataplane? (v : Toml.Value) : Option DataplaneSettings := do
  let es ← sectionEntries? ["mode"] v
  return { mode := ← setting? (fun v => (string? v).map some) es "mode" none }

/-- Reads the section about the agent. -/
def vpp? (v : Toml.Value) : Option VppSettings := do
  let es ← sectionEntries? ["agent_endpoint", "request_timeout_secs"] v
  let d : VppSettings := {}
  return { agentEndpoint := ← setting? string? es "agent_endpoint" d.agentEndpoint
           requestTimeoutSecs := ← setting? word? es "request_timeout_secs" d.requestTimeoutSecs }

/-- Reads the section about the kernel. -/
def kernel? (v : Toml.Value) : Option KernelSettings := do
  let es ← sectionEntries? ["interface_prefix"] v
  let d : KernelSettings := {}
  return { interfacePrefix := ← setting? string? es "interface_prefix" d.interfacePrefix }

/-- Reads the section about connections. -/
def connections? (v : Toml.Value) : Option ConnectionSettings := do
  let es ← sectionEntries? ["client_interface_name"] v
  let d : ConnectionSettings := {}
  return { clientInterfaceName :=
    ← setting? string? es "client_interface_name" d.clientInterfaceName }

/-- Reads the section about passes. -/
def reconcile? (v : Toml.Value) : Option ReconcileSettings := do
  let es ← sectionEntries? ["interval_secs", "recover_routes_on_start"] v
  let d : ReconcileSettings := {}
  return { intervalSecs := ← setting? word? es "interval_secs" d.intervalSecs
           recoverRoutesOnStart :=
             ← setting? boolean? es "recover_routes_on_start" d.recoverRoutesOnStart }

/-- Reads settings from the entries of a document. -/
def ofEntries? (es : Toml.Entries) : Option Settings := do
  let d : Settings := {}
  return { dataplane := ← setting? dataplane? es "dataplane" d.dataplane
           vpp := ← setting? vpp? es "vpp" d.vpp
           kernel := ← setting? kernel? es "kernel" d.kernel
           connections := ← setting? connections? es "connections" d.connections
           reconcile := ← setting? reconcile? es "reconcile" d.reconcile }

/-- Reads settings from the text of a document. -/
def parse? (s : String) : Option Settings :=
  (Toml.parse s).bind ofEntries?

/-! ## Files -/

/-- What is found at the path of a settings file. -/
inductive File where
  /-- Nothing. -/
  | missing
  /-- A file with the given bytes. -/
  | bytes (content : List UInt8)
  /-- Something that cannot be read. -/
  | unreadable (cause : OsError)

/-- What is said of a file that is no document of settings. -/
def parseComplaint : String := "failed to parse config file"

/-- Reads a settings file; a missing one stands for the defaults. -/
def load (path : String) : File → Except Failure Settings
  | .missing => .ok {}
  | .unreadable cause => .error (.io cause)
  | .bytes content =>
    match Text.ofUtf8? content with
    | none => .error (.io .notUtf8)
    | some text =>
      match parse? text with
      | none => .error (.invalidConfig path parseComplaint)
      | some settings => .ok settings

/-! ## Use -/

/-- The mode: a setting in the environment wins over the file. -/
def mode (s : Settings) (environment : Option String) : Mode :=
  match environment with
  | some value => .ofSetting (some value)
  | none => .ofSetting s.dataplane.mode

/-- The time for one request, in milliseconds. -/
def requestTimeout (s : Settings) : Nat :=
  1000 * s.vpp.requestTimeoutSecs

/-- The least time between two passes, in milliseconds. -/
def reconcileInterval (s : Settings) : Nat :=
  1000 * s.reconcile.intervalSecs

/-- The checks on settings in the order in which they are made: the setting, whether it is
acceptable, and what it has to be. -/
def checks (s : Settings) : List (String × Bool × String) :=
  [("vpp.agent_endpoint", !(Text.trim s.vpp.agentEndpoint.toList).isEmpty, "must not be empty"),
    ("vpp.request_timeout_secs", s.vpp.requestTimeoutSecs != 0, "must be > 0"),
    ("kernel.interface_prefix", s.kernel.interfacePrefix != "", "must not be empty"),
    ("reconcile.interval_secs", s.reconcile.intervalSecs != 0, "must be > 0")]

/-- Accepts settings or tells the first one that is not acceptable. -/
def validate (s : Settings) : Except Failure Unit :=
  match s.checks.find? (!·.2.1) with
  | some (name, _, complaint) => .error (.invalidConfig name complaint)
  | none => .ok ()

end Settings

end RouteKeeper
