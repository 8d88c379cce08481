import RouteKeeper.Shell.Evaluation
import RouteKeeper.Shell.Execution
import RouteKeeper.Text.Bytes

/-!
# A shell on a bare host

A server of shell commands that carries them out on a host with few files and with
nothing to read.
-/

namespace RouteKeeper.Shell

/-- More parts of commands within each other than a command of reasonable length has. -/
def patience : Nat := 100000

/-- The variables that a host hands to its programs. -/
def hostVariables : List (String × Variable) :=
  [("PATH", standardPath), ("HOME", "/root")].map fun (x, v) =>
    (x, { value := some v, exported := true })

/-- How a shell ended. -/
def finished (result : Except Stop Outcome) (m : Machine) : Finished :=
  { exitCode := match result with
      | .ok (.exited status) => some status
      | _ => none
    output := Text.toBytes (m.world.written outputSink)
    errors := Text.toBytes (m.world.written errorSink) }

/-- Carries out a command in a new shell. -/
def interpret (command : String) : Finished :=
  let text := Text.ofBytes (Text.utf8 command)
  let (result, m) := (runShell (carryOut patience) "/bin/sh" ["-c", text]).run
    { bindings := hostVariables }
  finished result m

/-- Answers a command as a host does that starts a shell with it. A NUL character cannot be handed
over. -/
def host : Server shell Unit :=
  fun command state =>
    if command.contains '\x00' then (.error .nulInArgument, state)
    else (.ok (interpret command), state)

end RouteKeeper.Shell
