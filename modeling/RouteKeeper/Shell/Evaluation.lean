import RouteKeeper.Shell.Builtin.Job
import RouteKeeper.Shell.Builtin.Name
import RouteKeeper.Shell.Builtin.Place
import RouteKeeper.Shell.Builtin.Writing
import RouteKeeper.Shell.Launch
import RouteKeeper.Shell.Loop

/-!
# Carrying out commands

Words are expanded, descriptors are redirected, and what the first field stands for is
given the others. A command that fails ends the shell if it was told so, unless the
outcome of the command is a condition.

## Implementation notes

Each part of a command counts down a fuel when it carries out another part, which is
handed in as `go`. A shell that uses it up stops as one that has run for too long.
-/

namespace RouteKeeper.Shell

open Act (fail setStatus)

/-! ## Parts of a shell that end with it -/

/-- Whether something is done on a signal or at the end. -/
def Machine.hasTraps (m : Machine) : Bool :=
  m.traps.any (·.2 != "")

/-- Carries out a command in a shell of its own, or in this one if it ends with the command. -/
def subshell (go : Carry) (c : Circumstances) (body : Command) (redirections : List Redirection) :
    Act Unit := do
  let rs ← redirections.mapM (expandRedirection (outputOf go))
  let inside : Act Unit := do
    rs.forM (Ready.apply (outputOf go))
    go { c with final := true } body
  if c.final && !(← get).hasTraps then inside else waitingFor (inShell go inside)

/-- When something ends that never does. -/
def forever : Nat := 1000000000000000

/-- Does something in a shell of its own that is not waited for. The first such process of a job reads
nothing. -/
def inBackground (go : Carry) (isFirst : Bool) (act : Act Unit) : Act (Member × List Nat) := fun m =>
  let inside : Act Unit := do
    modify fun m =>
      let m := { m with traps := [(2, ""), (3, "")] ++ m.traps.filter fun t => t.1 ≠ 2 && t.1 ≠ 3 }
      if isFirst then
        let (number, m) := m.addChannel (.device .null)
        m.lead 0 (some number)
      else m
    act
  match (inShell go inside).run m with
  | (.error .exhausted, after) =>
    (.ok (⟨m.world.lastProcess + 1, forever, .exited 0⟩, []), after)
  | answer => answer

/-- Takes note of a job in the background. -/
def addJob (number : Nat) (started : List (Member × List Nat)) : Act Unit :=
  modify fun m =>
    let members := started.map (·.1)
    { m with
      jobs :=
        { number, members, starts := m.clock + Act.beginning, ignored := started.flatMap (·.2) } ::
          m.jobs
      background := members.getLast?.map (·.process)
      status := 0 }

/-- Carries out a command in the background. -/
def inTheBackground (go : Carry) (body : Command) (redirections : List Redirection) : Act Unit := do
  let rs ← redirections.mapM (expandRedirection (outputOf go))
  let number ← Act.claim
  let started ← inBackground go true do
    rs.forM (Ready.apply (outputOf go))
    go { final := true } body
  addJob number [started]

/-! ## Pipelines -/

/-- Takes note of the program that a stage of a pipeline begins with. -/
def lookAhead : Command → Act Unit
  | .simple _ _ (word :: _) _ =>
    match (bareText? word).filter isName with
    | none => return ()
    | some name => modify fun m =>
      match m.meaning true m.path name with
      | .program path => m.remember name path
      | _ => m
  | _ => return ()

/-- The first number of characters that a stage writes before it waits for somebody to read them. -/
def firstLimit : Nat := 1 <<< 16

/-- Starts the stages of a pipeline, each in a shell of its own. What a stage writes can be read by the
next one, up to a limit, of which each stage has half of what the one before has. -/
def startStages (go : Carry) (tested awaited : Bool) (limit : Nat) :
    List Command → (previous : Option Channel) → (isFirst : Bool) → Act (List (Member × List Nat))
  | [], _, _ => return []
  | stage :: rest, previous, isFirst => do
    lookAhead stage
    let m ← get
    let sink := m.world.fresh
    set { m with
      world.sinks := (sink, { limit := some limit }) :: m.world.sinks
      world.fresh := sink + 1 }
    let inside : Act Unit := do
      if let some channel := previous then
        modify fun m =>
          let (number, m) := m.addChannel channel
          m.lead 0 (some number)
      if !rest.isEmpty then
        modify fun m =>
          let (number, m) := m.addChannel (.sink sink)
          m.lead 1 (some number)
      go { tested, final := true } stage
    let started ← if awaited then inShell go inside else inBackground go isFirst inside
    let after ← get
    let written := (after.world.sinks.lookup sink).getD {}
    set { after with world.sinks := after.world.sinks.filter (·.1 ≠ sink) }
    let channel : Channel :=
      .pipe sink ((inOrder written.writes).map fun w => (w.time, w.text.toList)) written.cut
    let more ← startStages go tested awaited (limit / 2) rest (some channel) false
    return started :: more

/-- Starts the stages of a pipeline, again with a higher limit if one of them needs more than another
one has written. -/
def attemptStages (go : Carry) (tested awaited : Bool) (stages : List Command) :
    Nat → (limit : Nat) → Act (List (Member × List Nat))
  | 0, _ => throw .exhausted
  | fuel + 1, limit => fun m =>
    match (startStages go tested awaited limit stages none true).run m with
    | (.error (.starved pipe), after) =>
      if m.world.fresh ≤ pipe then
        attemptStages go tested awaited stages fuel (16 * limit) m
      else (.error (.starved pipe), after)
    | answer => answer

/-- Carries out commands that each read what the one before writes. -/
def joinStages (go : Carry) (tested awaited : Bool) (stages : List Command) : Act Unit := do
  let number ← Act.claim
  let started ← attemptStages go tested awaited stages 4 firstLimit
  if awaited then do
    let members := started.map (·.1)
    Act.await members
    setStatus ((members.getLast?.map (·.outcome.status)).getD 0)
  else addJob number started

/-! ## The fields of a command -/

/-- The fields of a command and the words that are not expanded yet. -/
structure Fields where
  all : List String := []
  rest : List Word
  /-- How many fields stand in front of the command itself. -/
  passed : Nat := 0

/-- Expands words until one of them has fields. -/
def Fields.fill (output : Script → Act String) (all : List String) (passed : Nat) :
    List Word → Act Fields
  | [] => return { all, rest := [], passed }
  | word :: rest => do
    match ← expandFields output word with
    | [] => Fields.fill output all passed rest
    | more => return { all := all ++ more, rest, passed }

/-- The field at a place, for which more words are expanded if need be. -/
def Fields.need (output : Script → Act String) (f : Fields) (i : Nat) :
    Act (Option String × Fields) := do
  match f.all[i]? with
  | some x => return (some x, f)
  | none => do
    let f ← Fields.fill output f.all f.passed f.rest
    return (f.all[i]?, f)

/-- More fields than a command has. -/
def manyFields : Nat := 1 <<< 24

/-- Passes over the options of the utility that stands in front of a command: those that have the
command looked up by the standard path. Tells whether there are any; there is no command if there
are other ones. -/
def Fields.passOptions (output : Script → Act String) : Nat → Fields → (i : Nat) → (standard : Bool) →
    Act (Bool × Bool × Fields)
  | 0, _, _, _ => throw .exhausted
  | fuel + 1, f, i, standard => do
    match ← f.need output i with
    | (none, f) => return (false, standard, f)
    | (some x, f) =>
      match x.toList with
      | ['-', '-'] => do
        match ← f.need output (i + 1) with
        | (none, f) => return (false, standard, f)
        | (some _, f) => return (true, standard, { f with passed := i + 1 })
      | '-' :: c :: cs =>
        if (c :: cs).all (· == 'p') then Fields.passOptions output fuel f (i + 1) true
        else return (false, standard, f)
      | _ => return (true, standard, { f with passed := i })

/-- What is known of a command before it is carried out. -/
structure Head where
  fields : Fields
  /-- Functions are passed over. -/
  direct : Bool := false
  /-- It is looked up by the standard path. -/
  standard : Bool := false
  /-- Whether the first utility is a special one, if there is one. -/
  special : Option Bool := none
  /-- Its arguments may be assignments. -/
  declares : Bool := false
  /-- It takes the place of the shell. -/
  replaces : Bool := false

/-- Finds out what a command stands for; a utility in front of it has others passed over. -/
def Head.settle (output : Script → Act String) : Nat → Head → Act Head
  | 0, _ => throw .exhausted
  | fuel + 1, h => do
    let m ← get
    let name := h.fields.all.getD h.fields.passed ""
    match m.meaning (!h.direct) m.path name with
    | .builtin => do
      let h := { h with
        special := some (h.special.getD (specials.contains name))
        declares := declarers.contains name
        replaces := name == "exec" }
      if name != "command" then return h
      else
        match ← Fields.passOptions output manyFields h.fields (h.fields.passed + 1) h.standard with
        | (true, standard, fields) =>
          Head.settle output fuel { h with fields, standard, direct := true }
        | (false, _, fields) => return { h with fields }
    | .program path => do
      set (m.remember name path)
      return { h with declares := false, replaces := false }
    | _ => return { h with declares := false, replaces := false }

/-- Expands the words that are left. Those that are assignments are not split if the utility has
them. -/
def expandRest (output : Script → Act String) (declares : Bool) : List Word → Act (List String)
  | [] => return []
  | word :: rest => do
    let fields ← if declares && (assignment? word).isSome then do
        pure [← expandText output .afterEquals word]
      else expandFields output word
    return fields ++ (← expandRest output declares rest)

/-- What is known of a command with some words; all of its fields are expanded. -/
def headOf (output : Script → Act String) (words : List Word) : Act (Option Head) := do
  let fields ← Fields.fill output [] 0 words
  if fields.all.isEmpty then return none
  else do
    let h ← Head.settle output manyFields { fields }
    let more ← expandRest output h.declares h.fields.rest
    return some { h with fields := { h.fields with all := h.fields.all ++ more, rest := [] } }

/-! ## Utilities that carry out commands -/

/-- Takes note of the utility that is carried out, as long as it is. -/
def withUtility {α : Type} (name : String) (act : Act α) : Act α := fun m =>
  let (result, after) := act.run { m with utility := some name }
  (result, { after with utility := m.utility })

/-- Carries out its arguments as a text. -/
def evaluateText (go : Carry) (tested : Bool) : Builtin := fun arguments => do
  if arguments.isEmpty then return {}
  else return { status := ← runText go tested (" ".intercalate arguments) }

/-- The path of a script that is carried out by its name. -/
def scriptPath? (m : Machine) (name : String) : Option String :=
  if name.contains '/' then some name
  else
    let candidates := (partsAt ':' m.path).map fun directory =>
      if directory.isEmpty then name else directory ++ "/" ++ name
    candidates.find? fun path =>
      match m.world.disk.node? m.place path with
      | some (.file _) | some (.program _) => true
      | _ => false

/-- Carries out the lines of a file. -/
def sourceFile (go : Carry) : Builtin := fun arguments => do
  let (_, rest) ← Builtin.options "" arguments
  match rest with
  | [] => return {}
  | name :: _ =>
    match scriptPath? (← get) name with
    | none => fail (name ++ ": not found")
    | some path =>
      let text ← match ← Utility.contents path with
        | .ok text => pure text
        | .error .isDirectory => pure ""
        | .error problem => fail ("cannot open " ++ path ++ ": " ++ problem.textForOpening false)
      let status ← withUtility path (runText go false text)
      takeReturn
      return { status }

/-- Leaves loops or goes on with their next rounds. -/
def leaveLoops (skip : Nat → Skip) : Builtin := fun arguments => do
  let n ← match arguments with
    | [] => pure 1
    | x :: _ => do
      let n ← Builtin.count x
      if n = 0 then fail ("Illegal number: " ++ x) else pure n
  let loops := (← get).loops
  if 0 < min n loops then modify fun m => { m with skip := some (skip (min n loops)) }
  return {}

/-- Goes to the end of a function or script. -/
def giveBack : Builtin := fun arguments => do
  let status ← match arguments with
    | [] => pure (← get).status
    | x :: _ => Builtin.count x
  modify fun m => { m with skip := some (.giveBack !arguments.isEmpty) }
  return { status }

/-- Ends the shell. -/
def exit : Builtin := fun arguments => do
  match arguments with
  | [] => throw .exited
  | x :: _ => do
    let n ← Builtin.count x
    modify fun m => { m with saved := some n }
    throw .exited

/-- Lets a program take the place of the shell; the shell ends if it cannot be started. -/
def become (go : Carry) (path : String) (fields : List String) : Act Unit := do
  let m ← get
  let name := fields.headD ""
  let problem ← match m.locate path name with
    | .ok found => launch go 100 found fields
    | .error problem => pure problem
  Act.complain (name ++ ": " ++ problem.textForProgram)
  setStatus problem.startStatus
  throw .ended

/-- Lets a program take the place of the shell, if one is named. -/
def replace (go : Carry) : Builtin := fun arguments => do
  let (_, rest) ← Builtin.options "" arguments
  if rest.isEmpty then return {}
  else do
    become go (← get).path rest
    return {}

/-- Says what names stand for. -/
def commandItself : Builtin := fun arguments => do
  let (options, rest) ← Builtin.options "pvV" arguments
  Builtin.describeCommand options rest

/-- The utility of a name. -/
def builtin (go : Carry) (tested : Bool) (name : String) : Builtin :=
  match name with
  | "." => sourceFile go
  | "eval" => evaluateText go tested
  | "exec" => replace go
  | "exit" => exit
  | "return" => giveBack
  | "break" => leaveLoops .leave
  | "continue" => leaveLoops .again
  | "command" => commandItself
  | "echo" => Builtin.echo
  | "printf" => Builtin.printf
  | "test" => Builtin.test false
  | "[" => Builtin.test true
  | "false" => fun _ => return { status := 1 }
  | "export" => Builtin.property "export" true false
  | "readonly" => Builtin.property "readonly" false true
  | "local" => Builtin.makeLocals
  | "unset" => Builtin.unset
  | "set" => Builtin.set
  | "shift" => Builtin.shift
  | "getopts" => Builtin.getopts
  | "read" => Builtin.read
  | "alias" => Builtin.alias
  | "unalias" => Builtin.unalias
  | "type" => Builtin.type
  | "hash" => Builtin.hash
  | "cd" | "chdir" => Builtin.changeDirectory
  | "pwd" => Builtin.printDirectory
  | "umask" => Builtin.umask
  | "ulimit" => Builtin.ulimit
  | "times" => Builtin.times
  | "jobs" => Builtin.jobs
  | "fg" | "bg" => Builtin.resume
  | "wait" => Builtin.wait
  | "kill" => Builtin.kill
  | "trap" => Builtin.trap
  | _ => fun _ => return {}

/-- Carries out a utility that is part of the shell. A mistake ends the shell if the utility is a
special one. -/
def runBuiltin (go : Carry) (tested special : Bool) (name : String) (arguments : List String) :
    Act Unit := fun m =>
  let act : Act Unit := withUtility name do
    let report ← builtin go tested name arguments
    match ← Act.write 1 report.output with
    | none => setStatus report.status
    | some _ => do
      Act.complain (name ++ ": I/O error")
      setStatus (report.status ||| 1)
  match act.run m with
  | (.error .failed, after) => if special then (.error .failed, after) else (.ok (), after)
  | answer => answer

/-! ## Functions and programs -/

/-- The greatest number of functions that are under way. -/
def greatestDepth : Nat := 1000

/-- Carries out a function with arguments of its own. -/
def callFunction (go : Carry) (tested : Bool) (f : Function) (arguments : List String) : Act Unit :=
  fun m =>
    if greatestDepth ≤ m.depth then
      (fail "Maximum function recursion depth (1000) reached" : Act Unit).run m
    else
      let (result, after) := (go { tested } f.body).run { m with
        depth := m.depth + 1
        loops := 0
        arguments
        optionIndex := 1
        optionOffset := none
        documents := f.documents }
      let skip := if after.givesBack then none else after.skip
      (result, { after with
        skip
        depth := m.depth
        loops := m.loops
        arguments := m.arguments
        optionIndex := m.optionIndex
        optionOffset := m.optionOffset
        documents := m.documents })

/-- Carries out a program in a process of its own, or in the place of the shell if it ends with it. -/
def runProgram (go : Carry) (final : Bool) (path : String) (fields : List String) : Act Unit := do
  if final && !(← get).hasTraps then become go path fields
  else
    waitingFor (Act.inChild do
      become go path fields
      return .exited 0)

/-! ## Simple commands -/

/-- Expands the prompt of a trace. -/
def tracePrompt (output : Script → Act String) : Act String := fun m =>
  let raw := (m.value? "PS4").getD ""
  match documentWord? raw.toList with
  | none => (.ok raw, m)
  | some word =>
    match (expandText output .nowhere word).run { m with tracing := true } with
    | (.error .failed, after) => (.ok raw, { after with tracing := m.tracing })
    | (result, after) => (result, { after with tracing := m.tracing })

/-- Writes a trace of a command to the channel of the standard error of before. -/
def trace (output : Script → Act String) (before : Machine) (items : List String) : Act Unit := do
  let m ← get
  if m.hasOption 'x' && !m.tracing then do
    let prompt ← tracePrompt output
    let m ← get
    let errors := m.descriptors.lookup 2
    set (m.lead 2 (before.descriptors.lookup 2))
    Act.sayLine (prompt ++ " ".intercalate items)
    modify fun m => m.lead 2 errors

/-- Assigns what stands in front of a command; tells the assignments as they are written. -/
def assignAll (output : Script → Act String) (isLocal exported : Bool) :
    List (String × Word) → Act (List String)
  | [] => return []
  | (name, word) :: rest => do
    let value ← expandText output .afterColons word
    if isLocal then Act.makeLocal name (some value) true
    else Act.setVariable name (some value) exported
    return (name ++ "=" ++ value) :: (← assignAll output isLocal exported rest)

/-- Carries out what the first field stands for. -/
def carryOutFields (go : Carry) (c : Circumstances) (h : Head) : Act Unit := do
  let fields := h.fields.all.drop h.fields.passed
  let name := fields.headD ""
  let m ← get
  let path := if h.standard then standardPath else m.path
  match m.meaning (!h.direct) path name with
  | .function f => callFunction go c.tested f fields.tail
  | .builtin => runBuiltin go c.tested (h.special.getD false) name fields.tail
  | .program found => do
    if !h.standard then set (m.remember name found)
    runProgram go c.final path fields
  | .unknown problem => do
    Act.complain (name ++ ": " ++ problem.textForProgram)
    setStatus 127

/-- Does something while descriptors are redirected. They stay so if the command was to replace the
shell and it goes on. -/
def redirecting (keeps : Bool) (before : Machine) (rs : List Ready) (act : Act Unit) : Act Unit := fun m =>
  match act.run m with
  | (.ok (), after) => if keeps then (.ok (), after) else (leadBack before rs).run after
  | (.error stop, after) => (.error stop, ((leadBack before rs).run after).2)

/-- Carries out assignments, words and redirections. -/
def simpleCommand (go : Carry) (c : Circumstances) (assignments : List (String × Word))
    (words : List Word) (redirections : List Redirection) : Act Unit := do
  let output := outputOf go
  modify fun m => { m with substituted := 0 }
  Act.pass 1
  let h ← headOf output words
  let special := (h.bind (·.special)).getD false
  let isLocal := h.isSome && !special
  let replaces := (h.map (·.replaces)).getD false
  let all := (h.map (·.fields.all)).getD []
  let depth := (← get).locals.length
  if isLocal then modify fun m => { m with locals := [] :: m.locals }
  let rs ← redirections.mapM (expandRedirection output)
  let before ← get
  redirecting replaces before rs do
    if ← applyAll output rs then do
      let exported := replaces && ((h.map (·.fields.passed)).getD 0) + 1 < all.length
      let assigned ← assignAll output isLocal exported assignments
      trace output before (assigned ++ all)
      match h with
      | none => modify fun m => { m with status := m.substituted }
      | some h => carryOutFields go c h
    else do
      setStatus 2
      if special then throw .failed
  modify fun m => Act.Machine.restoreTo m depth

/-! ## Commands -/

/-- Carries out a command with redirections. -/
def redirected (go : Carry) (tested : Bool) (body : Command) (redirections : List Redirection) :
    Act Unit := do
  let output := outputOf go
  let rs ← redirections.mapM (expandRedirection output)
  let before ← get
  redirecting false before rs do
    if ← applyAll output rs then go { tested } body else setStatus 2

/-- Takes note of the line of a command. -/
def atLine (line : Nat) : Act Unit :=
  modify fun m => { m with line }

/-- Carries out one command, whose parts are carried out by `go`. -/
def perform (go : Carry) (c : Circumstances) : Command → Act Unit
  | .nothing => return ()
  | .simple line assignments words redirections => do
    atLine line
    simpleCommand go c assignments words redirections
  | .subshell line body redirections => do
    atLine line
    subshell go c body redirections
  | .redirected line body redirections => do
    atLine line
    redirected go c.tested body redirections
  | .background line body redirections => do
    atLine line
    inTheBackground go body redirections
  | .pipeline awaited stages => joinStages go c.tested awaited stages
  | .not body => do
    go { tested := true } body
    modify fun m =>
      if m.skip.isSome then m else { m with status := if m.status = 0 then 1 else 0 }
  | .andThen first second => do
    go { tested := true } first
    let m ← get
    if m.skip.isNone && m.status = 0 then go c second
  | .orElse first second => do
    go { tested := true } first
    let m ← get
    if m.skip.isNone && m.status ≠ 0 then go c second
  | .sequence first second => do
    go { tested := c.tested } first
    if (← get).skip.isNone then go c second
  | .branch condition yes no => do
    go { tested := true } condition
    let m ← get
    if m.skip.isNone then
      let next := if m.status = 0 then yes else no
      if next.isNothing then setStatus 0 else go c next
  | .loop negated condition body =>
    inLoop (conditionalRounds go c.tested negated condition body manyRounds 0)
  | .each line name words body => do
    atLine line
    let fields ← words.mapM (expandFields (outputOf go))
    inLoop (fieldRounds go c.tested name body fields.flatten 0)
  | .select line word cases => do
    atLine line
    let text ← expandText (outputOf go) .atStart word
    match ← chosen (outputOf go) text.toList cases with
    | none => setStatus 0
    | some body => if body.isNothing then setStatus 0 else go c body
  | .define line name body => do
    atLine line
    modify fun m =>
      let f : Function := { body, documents := m.documents }
      { m with functions := (name, f) :: m.functions.filter (·.1 != name), status := 0 }

/-- Whether the failure of a command ends a shell that was told so. -/
def Command.isChecked : Command → Bool
  | .simple .. | .subshell .. | .background .. | .pipeline .. => true
  | _ => false

/-- Carries out a command, and what is to be done on the signals that come before and after it. -/
def evaluate (go : Carry) (c : Circumstances) (command : Command) : Act Unit := do
  let isPassedOver := (← get).hasOption 'n' || command.isNothing
  if !isPassedOver then do
    runTraps go
    perform go c command
  runTraps go
  let m ← get
  let isFailure := !isPassedOver && command.isChecked && m.hasOption 'e' && m.status ≠ 0
  if c.final || (isFailure && !c.tested) then throw .ended

/-- Carries out a command with a fuel. -/
def carryOut : Nat → Carry
  | 0 => fun _ _ => throw .exhausted
  | fuel + 1 => evaluate (carryOut fuel)

end RouteKeeper.Shell
