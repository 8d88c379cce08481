import RouteKeeper.Shell.Builtin.Option

/-!
# Utilities for jobs and signals

The utilities that wait for jobs, list them, send signals, and say what is done on
them.

## Implementation notes

A job is carried out when it is started. A signal that reaches it before its end cuts
off what it would have written after that.
-/

namespace RouteKeeper.Shell.Builtin

open Act (fail)

/-! ## Jobs -/

/-- The text of a complaint about a missing job. -/
def noJob (name : String) : String :=
  "No such job: " ++ name

/-- The job that a name after a percent sign means, or what is wrong with the name. The jobs are in
the order in which they were started, the latest first. -/
def jobOf (jobs : List Job) (name : String) : Except String Job :=
  let current := jobs.head?
  let named : Except String Job := .error (noJob name)
  match name.toList with
  | ['%'] | ['%', '+'] | ['%', '%'] =>
    match current with
    | some j => .ok j
    | none => .error "No current job"
  | ['%', '-'] =>
    match jobs[1]? with
    | some j => .ok j
    | none => .error "No previous job"
  | '%' :: '?' :: [] =>
    match jobs with
    | [j] => .ok j
    | [] => named
    | _ => .error (name ++ ": ambiguous")
  | '%' :: cs =>
    if cs.all Char.isDigit then
      match jobs.find? fun j => j.number = Integer.valueIn 10 cs with
      | some j => .ok j
      | none => named
    else named
  | _ => named

/-- How a job ended, or that it is under way, as it is listed. -/
def stateText (j : Job) : String :=
  if !j.done then "Running"
  else
    match j.members.getLast? with
    | some { outcome := .signalled n, .. } => (Signal.text? n).getD (Signal.unspokenText n)
    | some { outcome := .exited (n + 1), .. } => "Done(" ++ Text.decimal (n + 1) ++ ")"
    | _ => "Done"

/-- A job as it is listed; the mark tells the current and the previous one. -/
def jobText (mark : Char) (process : Bool) (j : Job) : String :=
  let start := "[" ++ Text.decimal j.number ++ "] " ++ String.singleton mark ++ " "
  let process := if process then
      ((j.members.head?).map fun x => Text.decimal x.process ++ " ").getD ""
    else ""
  let line := start ++ process ++ stateText j
  let blanks := String.ofList (List.replicate (33 - line.length) ' ')
  line ++ blanks ++ String.join (j.members.tail.map fun _ => " | ") ++ "\n"

/-- The mark of a job in a list of all jobs. -/
def markOf (jobs : List Job) (j : Job) : Char :=
  if jobs.head?.map (·.number) = some j.number then '+'
  else if (jobs[1]?).map (·.number) = some j.number then '-'
  else ' '

/-- Jobs as they are listed one after the other; those that have ended are forgotten then. Tells the jobs
that are left. -/
def listJobs (text : (left : List Job) → Job → String) : List Job → (left : List Job) →
    List String × List Job
  | [], left => ([], left)
  | j :: rest, left =>
    let (more, last) :=
      listJobs text rest (if j.done then left.filter (·.number ≠ j.number) else left)
    (text left j :: more, last)

/-- Lists jobs; those that have ended are forgotten then. -/
def jobs : Builtin := fun arguments => do
  let (options, names) ← options "lp" arguments
  Act.reap
  let all := (← get).jobs
  let named (name : String) : Act Job :=
    match jobOf all name with
    | .ok j => pure j
    | .error text => fail text
  let chosen ← if names.isEmpty then pure all else names.mapM named
  let asProcess := options.getLast?.map (·.1) = some 'p'
  if asProcess then
    let text (j : Job) : String :=
      ((j.members.head?).map fun x => Text.decimal x.process ++ "\n").getD ""
    return { output := String.join (chosen.map text) }
  else do
    let (texts, left) :=
      listJobs (fun left j => jobText (markOf left j) (!options.isEmpty) j) chosen all
    modify fun m => { m with jobs := left }
    return { output := String.join texts }

/-- Would carry on with a job, if the shell controlled its jobs. -/
def resume : Builtin := fun arguments => do
  let (_, names) ← options "" arguments
  let all := (← get).jobs
  let name := names.headD "%"
  match jobOf all name with
  | .error text => fail text
  | .ok _ =>
    fail ("job " ++ (names.head?).getD "(null)" ++ " not created under job control")

/-- How long a shell that has waited for a while takes to notice a signal. -/
def noticing : Nat := 500

/-- How long a shell waits before it takes a while to notice a signal. -/
def attention : Nat := 1000

/-- The earliest signal with a trap on its way to a process that is noticed by a time. -/
def interruption (m : Machine) (until_ : Nat) : Option Sent :=
  let delay (s : Sent) : Nat := if s.time ≤ m.clock + attention then 0 else noticing
  let mine := m.world.sent.filter fun s =>
    s.process = m.process && s.time + delay s ≤ until_ &&
      ((m.traps.lookup s.signal).getD "") != ""
  mine.foldl (fun best s =>
    match best with
    | some b => if s.time < b.time then some s else best
    | none => some s) none

/-- When the last process of a job ends. -/
def endOf (j : Job) : Nat :=
  (j.members.map (·.ends)).foldl max 0

/-- Waits for a job to end; tells the signal that came before. -/
def waitFor (j : Job) : Act (Option Nat) := do
  match interruption (← get) (endOf j) with
  | some s => do
    Act.waitUntil s.time
    Act.receiveAll
    return some s.signal
  | none => do
    if !j.done then Act.await j.members
    return none

/-- Takes note that the end of a job has been asked for. -/
def markWaited (number : Nat) : Act Unit := do
  Act.reap
  modify fun m =>
    let mark (j : Job) : Job := if j.number = number then { j with waited := true } else j
    { m with jobs := m.jobs.map mark }

/-- Waits for jobs one after the other, without saying how they end. -/
def waitForAll : List Job → Act Nat
  | [] => do
    Act.reap
    modify fun m => { m with jobs := m.jobs.map fun j => { j with waited := true } }
    return 0
  | j :: rest => do
    match interruption (← get) (endOf j) with
    | some s => do
      Act.waitUntil s.time
      Act.receiveAll
      return 128 + s.signal
    | none => do
      Act.waitUntil (endOf j)
      Act.noteEnd
      waitForAll rest

/-- Waits for the jobs that are named one after the other; the last one gives the status. -/
def waitForNamed : List String → (status : Nat) → Act Nat
  | [], status => return status
  | name :: rest, status => do
    let all := (← get).jobs
    let found ← if name.startsWith "%" then
        match jobOf all name with
        | .ok j => pure (some j)
        | .error text => fail text
      else do
        let n ← count name
        pure (all.find? fun j => j.members.getLast?.map (·.process) = some n)
    match found with
    | none => waitForNamed rest status
    | some j => do
      match ← waitFor j with
      | some signal => return 128 + signal
      | none => do
        markWaited j.number
        let status := (j.members.getLast?.map (·.outcome.status)).getD 0
        waitForNamed rest status

/-- Waits for jobs. -/
def wait : Builtin := fun arguments => do
  let (_, names) ← options "" arguments
  if names.isEmpty then
    let byEnd := (← get).jobs.mergeSort fun a b => endOf a ≤ endOf b
    return { status := ← waitForAll (byEnd.filter (!·.done)) }
  else return { status := ← waitForNamed names 127 }

/-! ## Signals -/

/-- How long a signal takes to end a process. -/
def dying : Nat := 50

/-- Cuts off what a process does after a time. -/
def Machine.cut (m : Machine) (process time : Nat) : Machine :=
  let keepsWrite (w : Write) : Bool := w.time ≤ time || !w.lineage.contains process
  let keepsSent (s : Sent) : Bool := s.time ≤ time || !s.lineage.contains process
  { m with
    world.sinks := m.world.sinks.map fun (n, s) => (n, { s with writes := s.writes.filter keepsWrite })
    world.sent := m.world.sent.filter keepsSent }

/-- Sends a signal to a process of a job. -/
def signalMember (m : Machine) (j : Job) (process signal : Nat) : Machine :=
  let time := m.clock + dying
  let isIgnored :=
    if m.clock < j.starts then m.traps.lookup signal = some "" else j.ignored.contains signal
  let reaches := Signal.endsProcess signal && (signal = Signal.kill || !isIgnored)
  let isHit (x : Member) : Bool := x.process = process && time < x.ends
  if !reaches || !j.members.any isHit then m
  else
    let hit (x : Member) : Member :=
      if isHit x then { x with ends := time, outcome := .signalled signal } else x
    let hitJob (k : Job) : Job :=
      if k.number = j.number then { k with members := k.members.map hit } else k
    Machine.cut { m with jobs := m.jobs.map hitJob } process time

/-- Sends a signal to a process; tells whether there is such a process. -/
def send (process : Int) (signal : Nat) : Act Bool := do
  let m ← get
  let number := process.toNat
  if process ≤ 0 then return false
  else if number = m.process then do
    if signal ≠ 0 then Act.receive signal
    return true
  else if m.lineage.contains number then do
    let sent : List Sent := if signal = 0 then [] else [⟨m.clock, m.lineage, number, signal⟩]
    set { m with world.sent := m.world.sent ++ sent }
    return true
  else
    match m.jobs.find? fun j => !j.done && j.members.any (·.process = number) with
    | some j => do
      set (signalMember m j number signal)
      return true
    | none => return false

/-- How `kill` is used. -/
def killUsage : String :=
  "Usage: kill [-s sigspec | -signum | -sigspec] [pid | job]... or\nkill -l [exitstatus]"

/-- Lists the names of all signals, or of the one that a number or a status means. -/
def listSignals : List String → Act Report
  | [] => return { output := linesText ("0" :: Signal.names.tail) }
  | x :: _ => do
    let n ← count x
    let signal := if 128 < n then n - 128 else n
    if 0 < signal && signal ≤ Signal.last then return { output := Signal.name signal ++ "\n" }
    else fail ("invalid signal number or exit status: " ++ x)

/-- The process that an argument means. -/
def processOf (x : String) : Act Int := do
  match x.toList with
  | '%' :: _ =>
    match jobOf (← get).jobs x with
    | .ok j => return -(((j.members.head?).map fun y => (y.process : Int)).getD 0)
    | .error text => fail text
  | '-' :: cs => return -((← count (String.ofList cs)) : Int)
  | _ => return (← count x)

/-- Sends a signal to processes one after the other. -/
def sendAll (signal : Nat) : List String → (status : Nat) → Act Nat
  | [], status => return status
  | x :: rest, status => do
    if ← send (← processOf x) signal then sendAll signal rest status
    else do
      Act.complain "No such process\n"
      sendAll signal rest 1

/-- Sends signals, or lists them. -/
def kill : Builtin := fun arguments => do
  let direct := match arguments with
    | x :: _ => if x.startsWith "-" then Signal.ofText? 1 (String.ofList (x.toList.drop 1)) else none
    | [] => none
  match direct with
  | some signal =>
    match arguments.tail with
    | [] => fail killUsage
    | targets => return { status := ← sendAll signal targets 0 }
  | none => do
    let (options, targets) ← options "ls:" arguments
    let listed := options.any (·.1 == 'l')
    let signal ← match (options.filter (·.1 == 's')).getLast? with
      | none => pure none
      | some (_, name) =>
        match Signal.ofText? 1 name with
        | some signal => pure (some signal)
        | none => fail ("invalid signal number or name: " ++ name)
    if listed && signal.isNone then listSignals targets
    else if listed || targets.isEmpty then fail killUsage
    else return { status := ← sendAll (signal.getD 15) targets 0 }

/-- Says what is done on signals until one is not known. -/
def setTraps (action : Option String) : List String → Act Nat
  | [] => return 0
  | x :: rest =>
    match Signal.ofText? 0 x with
    | none => do
      Act.sayLine ("trap: " ++ x ++ ": bad trap")
      return 1
    | some signal => do
      modify fun m => { m with
        traps := ((action.filter (· != "-")).toList.map (signal, ·)) ++
          m.traps.filter (·.1 ≠ signal) }
      setTraps action rest

/-- Says what is done on signals, or lists it. -/
def trap : Builtin := fun arguments => do
  let (_, rest) ← options "" arguments
  match rest with
  | [] =>
    let traps := (← get).traps.mergeSort fun a b => a.1 ≤ b.1
    let line : Nat × String → String := fun (signal, action) =>
      "trap -- " ++ quotedText action ++ " " ++ Signal.name signal
    return { output := linesText (traps.map line) }
  | [x] => return { status := ← setTraps none [x] }
  | x :: names =>
    let isNumber := x.toList.all Char.isDigit && (Signal.ofText? 0 x).isSome
    if isNumber then return { status := ← setTraps none rest }
    else return { status := ← setTraps (some x) names }

end RouteKeeper.Shell.Builtin
