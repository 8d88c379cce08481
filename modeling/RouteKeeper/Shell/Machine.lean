import RouteKeeper.Shell.Disk
import RouteKeeper.Shell.Signal
import RouteKeeper.Shell.Syntax

/-!
# The state of a shell

What a shell knows between commands, the world that it shares with other shells, and
the ways in which it stops.

## Implementation notes

A shell and the shells that it starts run one after the other. Each has a clock of its
own, in millionths of a second, and what is written carries the time of the clock, so
that what several of them write comes in the order in which it was written. A shell
that is started ends on a clock of its own; the one that waits for it sets its clock to
that end.

Texts are bytes, each as the character of the same code.
-/

namespace RouteKeeper.Shell

/-! ## The shared world -/

/-- What was written at some time. -/
structure Write where
  time : Nat
  /-- The process that wrote, and those that started it. -/
  lineage : List Nat
  text : String

/-- A place where writes are collected, the latest first. -/
structure Sink where
  writes : List Write := []
  size : Nat := 0
  /-- How many characters are let in. -/
  limit : Option Nat := none
  /-- Not everything was let in. -/
  cut : Bool := false

/-- What a descriptor leads to. -/
inductive Channel where
  /-- What is written is collected. -/
  | sink (number : Nat)
  /-- What was written at some times is read. There may have been more, if it was `cut`. -/
  | pipe (number : Nat) (waiting : List (Nat × List Char)) (cut : Bool)
  /-- A file is read or written from a position on. -/
  | file (place : Path) (position : Nat) (reads writes appends : Bool)
  | device (kind : Device)

/-- A signal on its way. -/
structure Sent where
  time : Nat
  lineage : List Nat
  process : Nat
  signal : Nat
  deriving DecidableEq

/-- What all shells share. -/
structure World where
  disk : Disk := .bare
  /-- Where writes are collected. -/
  sinks : List (Nat × Sink) := [(0, {}), (1, {})]
  /-- What is open. -/
  channels : List (Nat × Channel) := [(0, .device .null), (1, .sink 0), (2, .sink 1)]
  /-- The number for the next channel or sink. -/
  fresh : Nat := 3
  /-- The number of the process that was started last. -/
  lastProcess : Nat := 1000
  /-- The signals on their way. -/
  sent : List Sent := []

/-- The sink of the standard output. -/
def outputSink : Nat := 0

/-- The sink of the standard error. -/
def errorSink : Nat := 1

/-- Some writes, the latest first, in the order of their times. -/
def inOrder (ws : List Write) : List Write :=
  ws.reverse.mergeSort fun a b => a.time ≤ b.time

/-- What was written to a sink. -/
def World.written (w : World) (number : Nat) : String :=
  ((w.sinks.lookup number).map fun s => String.join ((inOrder s.writes).map (·.text))).getD ""

/-! ## One shell -/

/-- How a process ended. -/
inductive Outcome where
  | exited (status : Nat)
  | signalled (signal : Nat)
  deriving DecidableEq

/-- The outcome of a process as the status of a command. -/
def Outcome.status : Outcome → Nat
  | .exited status => status
  | .signalled signal => 128 + signal

/-- A process that was started, when it ends, and how. -/
structure Member where
  process : Nat
  ends : Nat
  outcome : Outcome
  deriving DecidableEq

/-- Commands that are carried out in the background. -/
structure Job where
  number : Nat
  members : List Member
  /-- When its processes begin to run. -/
  starts : Nat := 0
  /-- The signals that do not reach it then. -/
  ignored : List Nat := []
  /-- It is known to have ended. -/
  done : Bool := false
  /-- Its end has been asked for. -/
  waited : Bool := false
  deriving DecidableEq

/-- A variable. -/
structure Variable where
  /-- A variable can have properties before it has a value. -/
  value : Option String := none
  /-- Programs see it. -/
  exported : Bool := false
  /-- It keeps its value. -/
  fixed : Bool := false
  deriving DecidableEq

/-- The command that a function carries out. -/
structure Function where
  body : Command
  documents : List Word

/-- What is passed over until it is reached. -/
inductive Skip where
  /-- The end of so many loops. -/
  | leave (loops : Nat)
  /-- The next round of the last of so many loops. -/
  | again (loops : Nat)
  /-- The end of a function or script; a status was given or not. -/
  | giveBack (given : Bool)
  deriving DecidableEq

/-- The options of a shell. -/
structure Options where
  letters : List Char := []
  /-- The options without a letter. -/
  names : List String := []
  deriving DecidableEq

/-- What a function will restore. -/
inductive Local where
  | variable (name : String) (before : Option Variable)
  | options (before : Options)

/-- How much a process may have of something, and up to where it may raise that itself. -/
structure Limit where
  current : Option Nat
  most : Option Nat
  deriving DecidableEq

/-- The state of a shell. -/
structure Machine where
  world : World := {}
  /-- The name by which it was called. -/
  name : String := "/bin/sh"
  arguments : List String := []
  /-- Its own process, and those that started it. -/
  lineage : List Nat := [1000, 999]
  /-- The process of the shell that is not a part of another one. -/
  root : Nat := 1000
  clock : Nat := 0
  bindings : List (String × Variable) := []
  /-- What functions will restore, by function, the inmost one first. -/
  locals : List (List Local) := []
  functions : List (String × Function) := []
  aliases : List (String × String) := []
  options : Options := {}
  /-- What is done on a signal. -/
  traps : List (Nat × String) := []
  /-- The signals that have come and for which something is to be done. -/
  caught : List Nat := []
  descriptors : List (Nat × Nat) := [(0, 0), (1, 1), (2, 2)]
  jobs : List Job := []
  /-- The process that was started last in the background. -/
  background : Option Nat := none
  /-- How the last command ended. -/
  status : Nat := 0
  /-- How the last substitution ended, while a command is being prepared. -/
  substituted : Nat := 0
  /-- The status to end with, while a trap is carried out. -/
  saved : Option Nat := none
  skip : Option Skip := none
  /-- How many loops are under way. -/
  loops : Nat := 0
  /-- How many functions are under way. -/
  depth : Nat := 0
  /-- The line of the command that is carried out. -/
  line : Nat := 0
  /-- The line up to which the script has been read. -/
  reached : Nat := 1
  /-- The utility that is carried out. -/
  utility : Option String := none
  /-- The here-documents of the script that is carried out. -/
  documents : List Word := []
  /-- Whether the prompt of a trace is being expanded. -/
  tracing : Bool := false
  /-- The directory by its name, and its place. -/
  directory : String := "/"
  place : Path := []
  /-- The modes that files are not created with. -/
  mask : Nat := 0o022
  /-- The limits that were set, by letter. -/
  limits : List (Char × Limit) := []
  /-- The argument that `getopts` looks at next. -/
  optionIndex : Nat := 1
  /-- How far `getopts` has come in an argument that holds several options. -/
  optionOffset : Option Nat := none
  /-- The programs that have been looked up, with their paths. -/
  known : List (String × String) := []

/-- Why a shell does not go on with the next command. -/
inductive Stop where
  /-- A mistake was made. -/
  | failed
  /-- It ends with the status that it has. -/
  | ended
  /-- It was told to end. -/
  | exited
  /-- A program took its place and ended. -/
  | replaced
  | killed (signal : Nat)
  /-- It needs more of what was written to a pipe. -/
  | starved (pipe : Nat)
  /-- It has run for too long. -/
  | exhausted
  deriving DecidableEq

/-- What a shell does: it changes its state and goes on with a value or stops. -/
abbrev Act := ExceptT Stop (StateM Machine)

namespace Machine

/-- The number of its own process. -/
def process (m : Machine) : Nat :=
  m.lineage.headD 0

/-- Whether an option is set. -/
def hasOption (m : Machine) (letter : Char) : Bool :=
  m.options.letters.contains letter

/-- The channel of a descriptor. -/
def channel? (m : Machine) (descriptor : Nat) : Option Channel :=
  (m.descriptors.lookup descriptor).bind fun number => m.world.channels.lookup number

/-- Replaces what a channel is. -/
def setChannel (m : Machine) (number : Nat) (c : Channel) : Machine :=
  { m with world.channels := m.world.channels.map fun (n, old) =>
      if n == number then (n, c) else (n, old) }

/-- Adds a channel. -/
def addChannel (m : Machine) (c : Channel) : Nat × Machine :=
  let number := m.world.fresh
  (number, { m with
    world.channels := (number, c) :: m.world.channels
    world.fresh := number + 1 })

/-- Lets a descriptor lead to a channel, or nowhere. -/
def lead (m : Machine) (descriptor : Nat) (number : Option Nat) : Machine :=
  { m with descriptors := (number.toList.map (descriptor, ·)) ++
      m.descriptors.filter (·.1 != descriptor) }

/-- Forgets the channels that were opened since then and to which no descriptor leads. -/
def forgetChannels (m : Machine) (since : Nat) : Machine :=
  { m with world.channels := m.world.channels.filter fun (n, _) =>
      n < since || m.descriptors.any (·.2 == n) }

/-- Adds a write to a sink, as much as it lets in; tells whether all of it went in. -/
def pour (m : Machine) (number : Nat) (text : String) : Bool × Machine :=
  match m.world.sinks.lookup number with
  | none => (true, m)
  | some s =>
    let room := match s.limit with
      | some limit => limit - s.size
      | none => text.length
    let fits := text.length ≤ room
    let text := if fits then text else String.ofList (text.toList.take room)
    let s := { s with
      writes := ⟨m.clock, m.lineage, text⟩ :: s.writes
      size := s.size + text.length
      cut := s.cut || !fits }
    (fits, { m with world.sinks := m.world.sinks.map fun (n, old) =>
      if n == number then (n, s) else (n, old) })

end Machine

namespace Act

/-- Ends the process by a signal. -/
def die {α : Type} (signal : Nat) : Act α :=
  throw (.killed signal)

/-- Lets time pass. -/
def pass (time : Nat) : Act Unit :=
  modify fun m => { m with clock := m.clock + time }

/-- Waits until a time. -/
def waitUntil (time : Nat) : Act Unit :=
  modify fun m => { m with clock := max m.clock time }

/-- Sets how the last command ended. -/
def setStatus (status : Nat) : Act Unit :=
  modify fun m => { m with status }

/-- Replaces the part of a text at a position. -/
def overwritten (old : String) (position : Nat) (text : String) : String :=
  let cs := old.toList
  let gap := List.replicate (position - cs.length) '\x00'
  String.ofList (cs.take position ++ gap ++ text.toList ++ cs.drop (position + text.length))

/-- Writes to a descriptor; tells what stands against it. Nobody reads more than a sink lets in. -/
def write (descriptor : Nat) (text : String) : Act (Option Problem) := do
  if text.isEmpty then return none
  let m ← get
  match m.descriptors.lookup descriptor with
  | none => return some .badDescriptor
  | some number =>
    match m.world.channels.lookup number with
    | some (.sink sink) =>
      let (fits, m) := m.pour sink text
      set m
      if fits then return none
      else if m.traps.lookup Signal.pipe = some "" then return some .brokenPipe
      else die Signal.pipe
    | some (.file place position reads true appends) =>
      match m.world.disk.entry? place with
      | some { node := .file old, mode, .. } =>
        let position := if appends then old.length else position
        let new := if position = old.length then old ++ text else overwritten old position text
        let m := m.setChannel number (.file place (position + text.length) reads true appends)
        set { m with world.disk := m.world.disk.put place ⟨.file new, mode, m.clock⟩ }
        return none
      | _ => return none
    | some (.device .full) => return some .noSpace
    | some (.device _) => return none
    | _ => return some .badDescriptor

/-- Writes to the standard error. -/
def say (text : String) : Act Unit := do
  let _ ← write 2 text

/-- Writes a line to the standard error. -/
def sayLine (line : String) : Act Unit :=
  say (line ++ "\n")

/-- Complains with the name of the shell, the line, and the utility that is carried out. -/
def complain (text : String) : Act Unit := do
  let m ← get
  let utility := match m.utility with
    | some name => name ++ ": "
    | none => ""
  sayLine (m.name ++ ": " ++ Text.decimal m.line ++ ": " ++ utility ++ text)

/-- Complains and gives up what is being done. -/
def fail {α : Type} (text : String) : Act α := do
  complain text
  setStatus 2
  throw .failed

/-! ## Reading -/

/-- Takes the characters up to the end of a line from some writes; tells what is left, when the last
one was written, and whether the line ended. -/
def takeLine : List (Nat × List Char) → (soFar : List Char) → (time : Nat) →
    List Char × List (Nat × List Char) × Nat × Bool
  | [], soFar, time => (soFar, [], time, false)
  | (time, cs) :: rest, soFar, _ =>
    match cs.span (· != '\n') with
    | (line, _ :: left) => (soFar ++ line, (time, left) :: rest, time, true)
    | (line, []) => takeLine rest (soFar ++ line) time

/-- Reads up to the end of a line; tells whether the line ended. -/
def readLine (descriptor : Nat) : Act (Except Problem (List Char × Bool)) := do
  let m ← get
  match m.descriptors.lookup descriptor with
  | none => return .error .badDescriptor
  | some number =>
    match m.world.channels.lookup number with
    | some (.pipe pipe waiting cut) =>
      let (line, waiting, time, ended) := takeLine waiting [] m.clock
      if cut && !ended then throw (.starved pipe)
      set (m.setChannel number (.pipe pipe waiting cut))
      waitUntil time
      return .ok (line, ended)
    | some (.file place position true writes appends) =>
      match m.world.disk.entry? place with
      | some { node := .file text, .. } =>
        let (line, rest) := (text.toList.drop position).span (· != '\n')
        let position := position + line.length + if rest.isEmpty then 0 else 1
        set (m.setChannel number (.file place position true writes appends))
        return .ok (line, !rest.isEmpty)
      | some { node := .directory, .. } => return .error .isDirectory
      | _ => return .ok ([], false)
    | some (.device .null) => return .ok ([], false)
    | some (.device .zero) | some (.device .full) => throw .exhausted
    | _ => return .error .badDescriptor

/-- What can be read at once. -/
structure Input where
  text : String
  /-- Why there is no more of it, although there may be more. -/
  wanting : Option Stop := none

/-- All of an input. -/
def Input.whole (i : Input) : Act String :=
  match i.wanting with
  | none => return i.text
  | some stop => throw stop

/-- Reads what can be read at once; of what has no end, so many characters. -/
def readAvailable (descriptor endless : Nat) : Act (Except Problem Input) := do
  let m ← get
  match m.descriptors.lookup descriptor with
  | none => return .error .badDescriptor
  | some number =>
    match m.world.channels.lookup number with
    | some (.pipe pipe waiting cut) =>
      set (m.setChannel number (.pipe pipe [] cut))
      waitUntil ((waiting.map (·.1)).foldl max 0)
      let text := String.ofList (waiting.flatMap (·.2))
      return .ok { text, wanting := if cut then some (.starved pipe) else none }
    | some (.file place position true writes appends) =>
      match m.world.disk.entry? place with
      | some { node := .file text, .. } => do
        set (m.setChannel number (.file place (max position text.length) true writes appends))
        return .ok { text := String.ofList (text.toList.drop position) }
      | some { node := .directory, .. } => return .error .isDirectory
      | _ => return .ok { text := "" }
    | some (.device .null) => return .ok { text := "" }
    | some (.device .zero) | some (.device .full) =>
      return .ok { text := String.ofList (List.replicate endless '\x00'), wanting := some .exhausted }
    | _ => return .error .badDescriptor

/-! ## Signals -/

/-- Takes note of a signal to this process: it is ignored, kept for its trap, or ends the
process. -/
def receive (signal : Nat) : Act Unit := do
  let m ← get
  let uncaught : Act Unit := if Signal.endsProcess signal then die signal else pure ()
  if signal = Signal.kill then die signal
  else
    match m.traps.lookup signal with
    | some "" => pure ()
    | some _ => if !m.caught.contains signal then set { m with caught := m.caught ++ [signal] }
    | none => uncaught

/-- Takes note of the signals that have arrived. -/
def receiveAll : Act Unit := do
  let m ← get
  let (here, others) := m.world.sent.partition fun s => s.process = m.process && s.time ≤ m.clock
  if !here.isEmpty then
    set { m with world.sent := others }
    for s in here do
      receive s.signal

/-! ## Processes -/

/-- How long a new process takes to begin. -/
def beginning : Nat := 200

/-- How long a program takes to begin. -/
def loading : Nat := 1000

/-- Takes a place among the jobs, and forgets a job there that nobody will ask about. -/
def claim : Act Nat := do
  let m ← get
  let isFree (n : Nat) : Bool := !m.jobs.any fun j => j.number = n && !(j.done && j.waited)
  let number := ((List.range' 1 (m.jobs.length + 1)).find? isFree).getD 1
  set { m with jobs := m.jobs.filter (·.number ≠ number) }
  return number

/-- The shell as a process of its own starts: it has no jobs, and only ignored signals keep their
traps. -/
def Machine.child (m : Machine) : Machine :=
  let process := m.world.lastProcess + 1
  { m with
    world.lastProcess := process
    lineage := process :: m.lineage
    clock := m.clock + beginning
    traps := m.traps.filter (·.2 == "")
    caught := []
    jobs := [] }

/-- Does something in a new process, which ends with it; tells how and when, and which signals do
not reach the process. What is done to the world stays. -/
def inChild (act : Act Outcome) : Act (Member × List Nat) := fun m =>
  let start := Machine.child m
  let (result, after) := act.run start
  let m := Machine.forgetChannels { m with world := after.world } m.world.fresh
  let member (outcome : Outcome) : Member := ⟨start.process, after.clock, outcome⟩
  let ignored := (after.traps.filter (·.2 == "")).map (·.1)
  match result with
  | .ok outcome => (.ok (member outcome, ignored), m)
  | .error (.killed signal) => (.ok (member (.signalled signal), ignored), m)
  | .error (.starved pipe) => (.error (.starved pipe), m)
  | .error .exhausted => (.error .exhausted, m)
  | .error _ => (.ok (member (.exited after.status), ignored), m)

/-- Notes which jobs have ended by now. -/
def reap : Act Unit :=
  modify fun m =>
    let check (j : Job) : Job :=
      if j.members.all (·.ends ≤ m.clock) then { j with done := true } else j
    { m with jobs := m.jobs.map check }

/-- Takes note of the end of a process. -/
def noteEnd : Act Unit := do
  if ((← get).traps.lookup Signal.child).isSome then receive Signal.child

/-- Waits for processes in the order in which they end, and says which signals ended them. -/
def await (members : List Member) : Act Unit := do
  for x in members.mergeSort (fun a b => a.ends ≤ b.ends) do
    waitUntil x.ends
    match x.outcome with
    | .signalled signal =>
      match Signal.text? signal with
      | some text => sayLine text
      | none => pure ()
    | .exited _ => pure ()
    noteEnd
  reap

end Act

end RouteKeeper.Shell
