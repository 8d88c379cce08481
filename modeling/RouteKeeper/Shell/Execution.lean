import RouteKeeper.Failure
import RouteKeeper.Service
import RouteKeeper.Text.Blank
import RouteKeeper.Text.Utf8

/-!
# Executing shell commands

The service that executes a command in a shell of its own, and what its callers
make of the end of a command. An end other than success is a value for one caller
and a failure for the other.
-/

namespace RouteKeeper

namespace Shell

/-- How a command ended. -/
structure Finished where
  /-- The exit code; a command that a signal ended has none. -/
  exitCode : Option Nat := some 0
  /-- The bytes on its standard output. -/
  output : List UInt8 := []
  /-- The bytes on its standard error. -/
  errors : List UInt8 := []
  deriving DecidableEq

end Shell

/-- The service that executes shell commands. -/
abbrev shell : Service :=
  ⟨String, fun _ => Shell.Finished, OsError⟩

namespace Shell

/-- What is known of an executed command. -/
structure Execution where
  /-- The exit code, or -1 after a signal. -/
  exitCode : Int
  /-- The text on the standard output. -/
  output : String
  /-- The text on the standard error. -/
  errors : String
  deriving DecidableEq

namespace Execution

/-- Whether a command ended with exit code zero. -/
def success (e : Execution) : Bool :=
  e.exitCode == 0

/-- Both texts, with an end of line between them if there are two. -/
def combined (e : Execution) : String :=
  if e.errors = "" then e.output
  else if e.output = "" then e.errors
  else e.output ++ "\n" ++ e.errors

end Execution

/-- The text of some bytes without white space at either end. -/
def trimmedText (bytes : List UInt8) : String :=
  String.ofList (Text.trim (Text.ofUtf8Lossy bytes).toList)

/-- What is known of a command from how it ended. -/
def Finished.execution (f : Finished) : Execution :=
  { exitCode := (f.exitCode.map Int.ofNat).getD (-1)
    output := trimmedText f.output
    errors := trimmedText f.errors }

/-- Executes a command; how it ended is part of the result. -/
def execute (command : String) : Program shell (Except Failure Execution) :=
  .call command fun
    | .error cause => .done (.error (.shellStart command cause))
    | .ok finished => .done (.ok finished.execution)

/-- Executes a command for the text on its standard output; an end other than success is a
failure. -/
def executeOrFail (command : String) : Program shell (Except Failure String) :=
  (execute command).bind fun
    | .error failure => .done (.error failure)
    | .ok e =>
      if e.success then .done (.ok e.output)
      else .done (.error (.shellExit command e.exitCode e.combined))

end Shell

end RouteKeeper
