import RouteKeeper.Mode
import RouteKeeper.OsError

/-!
# Failures

Every way in which programming or inspecting a dataplane can fail. A failed
route write wraps its cause, so the caller learns which backend and which route
were meant while the cause stays reachable.

## Implementation notes

Constructors are causes; the wording of each is in `Failure.message` alone.
-/

namespace RouteKeeper

/-- Why an operation on a dataplane, its host or its settings failed. -/
inductive Failure where
  /-- The backend could not be reached. -/
  | unreachable (backend : Mode) (operation message : String)
  /-- The configuration agent answered with a status other than success. -/
  | rejected (operation code message : String)
  /-- A text that should be an address or a network is none. -/
  | invalidAddress (field value message : String)
  /-- No host route to the next hop names a link. -/
  | linkNotFound (destination nextHop : String)
  /-- A route write failed for the given cause. -/
  | routeWrite (backend : Mode) (operation destination nextHop : String) (cause : Failure)
  /-- A netlink request failed. -/
  | netlink (operation message : String)
  /-- A shell command could not be started. -/
  | shellStart (command : String) (cause : OsError)
  /-- A shell command ended with an exit code other than zero. -/
  | shellExit (command : String) (exitCode : Int) (output : String)
  /-- A setting is not acceptable. -/
  | invalidConfig (field message : String)
  /-- The process could not start. -/
  | startup (message : String)
  /-- Reading a file failed. -/
  | io (cause : OsError)
  deriving DecidableEq

namespace Failure

/-- The text that a failure is reported with. -/
def message : Failure → String
  | unreachable backend operation message =>
    s!"{backend.text} backend unreachable during {operation}: {message}"
  | rejected operation code message =>
    s!"Configurator {operation} rejected ({code}): {message}"
  | invalidAddress field value message => "Invalid " ++ field ++ " '" ++ value ++ "': " ++ message
  | linkNotFound destination nextHop =>
    s!"Link of next hop {nextHop} not found, cannot route {destination}"
  | routeWrite backend operation destination nextHop cause =>
    s!"{backend.text} route {operation} failed for {destination} via {nextHop}: " ++ cause.message
  | netlink operation message => s!"Netlink operation failed: {operation}: {message}"
  | shellStart command cause =>
    "Failed to execute shell command '" ++ command ++ "': " ++ cause.text
  | shellExit command exitCode output =>
    "Shell command failed: '" ++ command ++ s!"' (exit code {exitCode}): " ++ output
  | invalidConfig field message => s!"Invalid configuration for {field}: {message}"
  | startup message => s!"Bootstrap failed: {message}"
  | io cause => "IO error: " ++ cause.text

/-- The failure inside all route-write wrappings. -/
def rootCause : Failure → Failure
  | routeWrite _ _ _ _ cause => cause.rootCause
  | other => other

/-- Whether the root cause is a passing condition, so that a later attempt may succeed. -/
def retryable (f : Failure) : Bool :=
  match f.rootCause with
  | unreachable .. | rejected .. | linkNotFound .. | netlink .. => true
  | _ => false

/-- The texts of the causes below a failure, outermost first. -/
def causes : Failure → List String
  | routeWrite _ _ _ _ cause => cause.message :: cause.causes
  | shellStart _ cause => [cause.text]
  | io cause => [cause.text]
  | _ => []

end Failure

end RouteKeeper
