import RouteKeeper.CommandLine
import RouteKeeper.Shell.Host

/-!
# The program

Reads the settings file and the environment, does what the arguments ask for on a
host to which nothing is attached, and writes what comes of it.
-/

namespace RouteKeeper.CommandLine

/-- A host with a bare shell, without netlink, and without a network to dial over. -/
def detached : Platform Unit where
  shell := Shell.host
  netlink := fun _ w => (.error (.code 97), w)
  remote := fun _ w => (.error .notConnected, w)

/-- Reads what is found at a path. -/
def readFile (path : String) : IO Settings.File := do
  try
    let content ← IO.FS.readBinFile path
    return .bytes content.toList
  catch
    | .noFileOrDirectory .. => return .missing
    | other => return .unreadable (.reason (toString other))

end RouteKeeper.CommandLine

open RouteKeeper in
/-- Runs the program. -/
def main (arguments : List String) : IO UInt32 := do
  let file ← match CommandLine.read arguments with
    | .perform config _ => CommandLine.readFile config
    | _ => pure .missing
  let environment ← IO.getEnv "DATAPLANE"
  let (ending, ()) :=
    CommandLine.run CommandLine.detached (fun _ => file) environment 0 arguments ()
  IO.print ending.output
  return ending.exitCode.toUInt32
