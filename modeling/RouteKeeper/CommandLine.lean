import RouteKeeper.Connection
import RouteKeeper.Startup

/-!
# The command line

What the arguments ask for, and what is written and which exit code is returned
when it is done. Options take a value, attached or as the next argument; an option
that is given twice is a mistake. What follows `--` is no option, and no operation
takes further arguments.
-/

namespace RouteKeeper.CommandLine

/-- The name of the program. -/
def program : String := "slicerouter-sidecar"

/-- The version of the program. -/
def version : String := "0.1.0"

/-- The settings file that is read when none is named. -/
def defaultConfig : String := "/etc/slicerouter/sidecar.toml"

/-- What can be done from the command line. -/
inductive Operation where
  /-- Installs a route. -/
  | injectRoute (subnet nextHop : String)
  /-- Writes the connections. -/
  | listConnections
  /-- Runs a pass and writes its report. -/
  | reconcile
  /-- Writes the mode. -/
  | showMode
  deriving DecidableEq

/-- What the arguments ask for. -/
inductive Request where
  /-- An operation under the settings of a file. -/
  | perform (config : String) (operation : Operation)
  /-- The version. -/
  | version
  /-- A description of the arguments. -/
  | help
  /-- Nothing that can be understood. -/
  | misuse
  deriving DecidableEq

/-- The words that name operations. -/
def operationNames : List String :=
  ["inject-route", "list-connections", "reconcile", "show-mode"]

/-- An argument as it is seen where options may stand. -/
inductive Argument where
  /-- `--`: what follows are no options. -/
  | terminator
  /-- `--name` or `--name=value`. -/
  | long (name : String) (value : Option String)
  /-- `-x`, perhaps with more characters. -/
  | short (letter : Char) (rest : List Char)
  /-- Anything else. -/
  | word (text : String)
  deriving DecidableEq

/-- Tells what an argument is. A single dash is a word. -/
def Argument.of (text : String) : Argument :=
  match text.toList with
  | ['-', '-'] => .terminator
  | '-' :: '-' :: rest =>
    match rest.span (· != '=') with
    | (name, '=' :: value) => .long (String.ofList name) (some (String.ofList value))
    | (name, _) => .long (String.ofList name) none
  | '-' :: letter :: rest => .short letter rest
  | _ => .word text

/-- The value in the same argument as a one-letter option; an equals sign may stand before it. -/
def attached? : List Char → Option String
  | [] => none
  | '=' :: value => some (String.ofList value)
  | value => some (String.ofList value)

/-- The value of an option that was not followed by one in its own argument. -/
def nextValue? : List String → Option (String × List String)
  | [] => none
  | text :: rest =>
    match Argument.of text with
    | .word value => some (value, rest)
    | _ => none

/-- Reads the options of the operation that installs a route. -/
def readRoute (config : String) :
    Nat → (subnet nextHop : Option String) → List String → Request
  | 0, _, _, _ => .misuse
  | fuel + 1, subnet, nextHop, arguments =>
    let take (name : String) (value : String) (rest : List String) : Request :=
      match name, subnet, nextHop with
      | "subnet", none, _ => readRoute config fuel (some value) nextHop rest
      | "next-hop", _, none => readRoute config fuel subnet (some value) rest
      | _, _, _ => .misuse
    match arguments with
    | [] => finish subnet nextHop
    | text :: rest =>
      match Argument.of text with
      | .terminator => if rest.isEmpty then finish subnet nextHop else .misuse
      | .long "help" none => .help
      | .short 'h' _ => .help
      | .long name (some value) => take name value rest
      | .long name none =>
        match nextValue? rest with
        | some (value, rest) => take name value rest
        | none => .misuse
      | _ => .misuse
where
  /-- Both options are needed. -/
  finish : Option String → Option String → Request
    | some subnet, some nextHop => .perform config (.injectRoute subnet nextHop)
    | _, _ => .misuse

/-- Reads what follows an operation without options. -/
def readNothing (config : String) (operation : Operation) : List String → Request
  | [] => .perform config operation
  | text :: rest =>
    match Argument.of text with
    | .terminator => if rest.isEmpty then .perform config operation else .misuse
    | .long "help" none => .help
    | .short 'h' _ => .help
    | _ => .misuse

/-- Reads what follows the name of an operation. -/
def readOperation (config name : String) (rest : List String) : Request :=
  match name with
  | "inject-route" => readRoute config (rest.length + 1) none none rest
  | "list-connections" => readNothing config .listConnections rest
  | "reconcile" => readNothing config .reconcile rest
  | "show-mode" => readNothing config .showMode rest
  | "help" =>
    match rest with
    | [] => .help
    | [topic] => if operationNames.contains topic || topic == "help" then .help else .misuse
    | _ => .misuse
  | _ => .misuse

/-- Reads the arguments before an operation. -/
def readGlobal : Nat → (config : Option String) → List String → Request
  | 0, _, _ => .misuse
  | _ + 1, _, [] => .misuse
  | fuel + 1, config, text :: rest =>
    let take (value : String) (rest : List String) : Request :=
      if config.isSome || value = "" then .misuse else readGlobal fuel (some value) rest
    let takeNext (rest : List String) : Request :=
      match nextValue? rest with
      | some (value, rest) => take value rest
      | none => .misuse
    match Argument.of text with
    | .word name => readOperation (config.getD defaultConfig) name rest
    | .long "version" none => .version
    | .short 'V' _ => .version
    | .long "help" none => .help
    | .short 'h' _ => .help
    | .long "config" (some value) => take value rest
    | .long "config" none => takeNext rest
    | .short 'c' letters =>
      match attached? letters with
      | some value => take value rest
      | none => takeNext rest
    | _ => .misuse

/-- Tells what the arguments ask for. -/
def read (arguments : List String) : Request :=
  readGlobal (arguments.length + 1) none arguments

/-- What a run of the program comes to. -/
structure Ending where
  /-- The exit code. -/
  exitCode : Nat
  /-- What is written to the standard output. -/
  output : String := ""
  deriving DecidableEq

/-- All went well. -/
def success (output : String) : Ending :=
  ⟨0, output⟩

/-- The operation failed. -/
def failed : Ending :=
  ⟨1, ""⟩

/-- The arguments make no sense. -/
def misused : Ending :=
  ⟨2, ""⟩

/-- A value as lines of JSON. -/
def jsonLines (v : Json.Value) : String :=
  v.pretty ++ "\n"

/-- A report as a JSON value. -/
def reportJson (r : Report) : Json.Value :=
  .ofMembers [("checked", .ofNat r.checked), ("repaired", .ofNat r.repaired),
    ("failed", .ofNat r.failed)]

/-- The description of the arguments. -/
def usage : String :=
  "Slice router dataplane sidecar\n\n" ++
  "Usage: " ++ program ++ " [OPTIONS] <COMMAND>\n\n" ++
  "Commands:\n" ++
  "  inject-route      Install the route to a remote subnet\n" ++
  "  list-connections  Print the pod-facing tunnel connections as JSON\n" ++
  "  reconcile         Run a reconciliation pass now\n" ++
  "  show-mode         Print the resolved dataplane mode\n" ++
  "  help              Print this message or the help of the given subcommand(s)\n\n" ++
  "Options:\n" ++
  "  -c, --config <CONFIG>  Configuration file [default: " ++ defaultConfig ++ "]\n" ++
  "  -h, --help             Print help\n" ++
  "  -V, --version          Print version\n"

/-- What an operation of the router comes to; `write` makes the output of its result. -/
def ending {α : Type} (write : α → String) : Except Failure α → Ending
  | .ok a => success (write a)
  | .error _ => failed

/-- Does one operation on a sidecar that has started. -/
def operate {σ : Type} (dataplane : Server dataplane σ) (now : Nat) (sidecar : Sidecar)
    (operation : Operation) (w : σ) : Ending × σ :=
  match operation with
  | .injectRoute subnet nextHop =>
    let (result, _, w) :=
      (Router.injectRoute sidecar.mode subnet nextHop).run dataplane now sidecar.router w
    (ending (fun () => "") result, w)
  | .listConnections =>
    let (result, _, w) := Router.connections.run dataplane now sidecar.router w
    (ending (fun cs => jsonLines (.array (cs.map Connection.toJson))) result, w)
  | .reconcile =>
    let (result, _, w) := (Router.reconcileNow sidecar.mode).run dataplane now sidecar.router w
    (ending (fun r => jsonLines (reportJson r)) result, w)
  | .showMode => (success "", w)

/-- Does what the arguments ask for. The mode is shown without starting. -/
def run {σ : Type} (p : Platform σ) (files : String → Settings.File)
    (environment : Option String) (now : Nat) (arguments : List String) (w : σ) : Ending × σ :=
  match read arguments with
  | .misuse => (misused, w)
  | .version => (success (program ++ " " ++ version ++ "\n"), w)
  | .help => (success usage, w)
  | .perform config operation =>
    match Settings.load config (files config), operation with
    | .error _, _ => (failed, w)
    | .ok settings, .showMode => (success ((settings.mode environment).text ++ "\n"), w)
    | .ok settings, operation =>
      match Startup.start p settings environment now w with
      | (.error _, w) => (failed, w)
      | (.ok sidecar, w) =>
        operate (p.dataplane settings sidecar.mode) now sidecar operation w

end RouteKeeper.CommandLine
