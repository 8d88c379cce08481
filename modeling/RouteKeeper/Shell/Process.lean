import RouteKeeper.Shell.Redirect
import RouteKeeper.Shell.Script

/-!
# Scripts and processes

How the lines of a script are carried out one after the other, what is done on signals
and at the end of a shell, and what a shell started for a part of a script comes to.

## Implementation notes

Carrying out a command is handed in, since commands hold scripts.
-/

namespace RouteKeeper.Shell

open Act (fail)

/-- What depends on the place of a command. -/
structure Circumstances where
  /-- Its outcome is a condition, so that its failure does not end the shell. -/
  tested : Bool := false
  /-- The shell ends with it. -/
  final : Bool := false
  deriving DecidableEq

/-- Carries out a command. -/
abbrev Carry := Circumstances → Command → Act Unit

/-! ## Lines -/

/-- Takes what `return` leaves behind. -/
def takeReturn : Act Unit :=
  modify fun m =>
    match m.skip with
    | some (.giveBack _) => { m with skip := none }
    | _ => m

/-- Carries out the lines of a source. The status is that of the last command, or zero. -/
def runLines (go : Carry) (tested : Bool) (last : Nat) : Nat → Source → (status : Nat) → Act Nat
  | 0, _, _ => throw .exhausted
  | fuel + 1, source, status => fun m =>
    match Shell.readLine { last, aliases := m.aliases } source with
    | .error mistake =>
      (fail ("Syntax error: " ++ mistake.complaint.text)).run { m with line := mistake.line }
    | .ok (none, _) => (.ok status, m)
    | .ok (some script, source) =>
      let reached := last - lineEnds source.rest
      let (result, after) :=
        (go { tested } script.command).run { m with documents := script.documents, reached }
      let after := { after with documents := m.documents }
      match result with
      | .error stop => (.error stop, after)
      | .ok () =>
        let status := if script.command.isNothing then status else after.status
        if after.skip.isSome then (.ok status, after)
        else runLines go tested last fuel source status after

/-- Carries out a text. -/
def runText (go : Carry) (tested : Bool) (text : String) : Act Nat :=
  let cs := text.toList
  runLines go tested (lineEnds cs + 1) (cs.length + 2) { rest := cs } 0

/-! ## Traps -/

/-- Does what is to be done on the signals that have come, the lowest number first, as long as nothing
is to be passed over. -/
def runCaught (go : Carry) (status : Nat) : Nat → Act Unit
  | 0 => return ()
  | fuel + 1 => do
    let m ← get
    match m.caught.mergeSort, m.skip with
    | signal :: others, none => do
      set { m with caught := others }
      match m.traps.lookup signal with
      | none => pure ()
      | some action => do
        let _ ← runText go false action
        match (← get).skip with
        | some (.giveBack true) => pure ()
        | _ => Act.setStatus status
      runCaught go status fuel
    | _, _ => return ()

/-- Takes note of signals, and does what is to be done on those that have come. -/
def runTraps (go : Carry) : Act Unit := do
  Act.receiveAll
  let m ← get
  if !m.caught.isEmpty then
    let status := m.saved.getD m.status
    set { m with saved := some status }
    runCaught go status (m.caught.length + 64)
    modify fun after => { after with saved := m.saved }

/-! ## The end of a shell -/

/-- Forgets what was under way; the status that was to be given stays, if the shell was told to end or
has left all functions. -/
def settle (exited : Bool) : Act Unit :=
  modify fun m =>
    let keeps := exited || m.skip = some (.giveBack false)
    let status := if keeps then m.saved.getD m.status else m.status
    { m with status, saved := none, skip := none, loops := 0, tracing := false, utility := none }

/-- Does what is to be done at the end of a shell. -/
def runEnding (go : Carry) : Act Unit := do
  let m ← get
  match (m.traps.lookup 0).filter (· != "") with
  | none => return ()
  | some action =>
    set { m with
      traps := m.traps.filter (·.1 ≠ 0)
      saved := some m.status }
    fun m =>
      let (result, after) := (runText go false action).run m
      match result with
      | .ok _ => (settle true).run after
      | .error .failed | .error .ended => (settle false).run after
      | .error .exited => (settle true).run after
      | .error stop => (.error stop, after)

/-- Does something and ends the shell; tells how. A program that has taken the place of the shell
leaves nothing to be done. -/
def untilEnd (go : Carry) (act : Act Unit) : Act Outcome := fun m =>
  let (result, after) := act.run m
  let finish (exited : Bool) : Act Outcome := do
    settle exited
    runEnding go
    return .exited ((← get).status % 256)
  match result with
  | .ok () | .error .failed | .error .ended => (finish false).run after
  | .error .exited => (finish true).run after
  | .error .replaced => (.ok (.exited (after.status % 256)), after)
  | .error stop => (.error stop, after)

/-- Does something in a shell of its own, which ends with it. -/
def inShell (go : Carry) (act : Act Unit) : Act (Member × List Nat) :=
  Act.inChild (untilEnd go act)

/-- Waits for a shell of its own that does something, and takes its status. -/
def waitingFor (start : Act (Member × List Nat)) : Act Unit := do
  let _ ← Act.claim
  let (x, _) ← start
  Act.await [x]
  Act.setStatus x.outcome.status

/-! ## Substitution -/

/-- What a script writes to its standard output. -/
def outputOf (go : Carry) (script : Script) : Act String := do
  if script.command.isNothing then return ""
  let _ ← Act.claim
  let m ← get
  let sink := m.world.fresh
  let (channel, opened) := Machine.addChannel
    { m with world.sinks := (sink, {}) :: m.world.sinks, world.fresh := sink + 1 } (.sink sink)
  set opened
  let (x, _) ← inShell go do
    modify fun m => { m.lead 1 (some channel) with documents := script.documents }
    go { final := true } script.command
  let after ← get
  let writes := ((after.world.sinks.lookup sink).map (·.writes)).getD []
  set { after with world.sinks := after.world.sinks.filter (·.1 ≠ sink) }
  Act.waitUntil ((writes.map (·.time)).foldl max 0)
  Act.await [x]
  modify fun m => { m with substituted := x.outcome.status }
  return String.join ((inOrder writes).map (·.text))

end RouteKeeper.Shell
