import RouteKeeper.Shell.Builtin.Variable
import RouteKeeper.Shell.Process
import RouteKeeper.Shell.Utility.Table

/-!
# Programs in the place of a process

How a program takes the place of the process that starts it: a program of the host, a
shell, or a script, for which the program that its first line names is started.

## Implementation notes

Programs that start other ones count down a fuel.
-/

namespace RouteKeeper.Shell

open Act (fail)

/-! ## Shells -/

/-- A shell that takes the place of a process. -/
def Machine.renewed (m : Machine) (name : String) : Machine :=
  { world := m.world
    name
    lineage := m.lineage
    root := m.process
    clock := m.clock
    bindings := firstVariables m.seen (m.lineage.getD 1 0) m.directory
    traps := m.traps.filter (·.2 == "")
    descriptors := m.descriptors
    directory := m.directory
    place := m.place
    mask := m.mask
    limits := m.limits }

/-- Reads the letters of an argument of a shell. Tells whether a command follows, and the arguments that
are left. -/
def shellLetters (value : Bool) : List Char → List String → Act (Bool × List String)
  | [], rest => return (false, rest)
  | 'c' :: cs, rest => do
    let (_, rest) ← shellLetters value cs rest
    return (true, rest)
  | 'l' :: cs, rest => shellLetters value cs rest
  | c :: cs, rest => do
    let (listed, rest) ← Builtin.setLetters value [c] rest
    let _ ← Act.write 1 listed
    shellLetters value cs rest

/-- Reads the options of a shell. Tells whether a command follows, and the arguments that are left. -/
def shellOptions : Nat → List String → (commanded : Bool) → Act (Bool × List String)
  | 0, rest, commanded => return (commanded, rest)
  | _ + 1, [], commanded => return (commanded, [])
  | fuel + 1, x :: rest, commanded =>
    match x.toList with
    | ['-'] | ['-', '-'] => return (commanded, rest)
    | sign :: letters =>
      if sign == '-' || sign == '+' then do
        let (more, rest) ← shellLetters (sign == '-') letters rest
        shellOptions fuel rest (commanded || more)
      else return (commanded, x :: rest)
    | [] => return (commanded, x :: rest)

/-- Carries out the commands on the standard input. -/
def carryOutInput (go : Carry) : Act Unit := do
  match ← Utility.contents "-" with
  | .ok text => do
    let _ ← runText go false text
  | .error _ => return ()

/-- Carries out the commands of a file. -/
def carryOutFile (go : Carry) (path : String) (arguments : List String) : Act Unit := do
  match ← Utility.contents path with
  | .error problem => fail ("cannot open " ++ path ++ ": " ++ problem.textForOpening false)
  | .ok text => do
    modify fun m => { m with name := path, arguments }
    let _ ← runText go false text

/-- Carries out what the arguments of a shell tell it to. -/
def obey (go : Carry) (arguments : List String) : Act Unit := do
  let (commanded, rest) ← shellOptions (arguments.length + 1) arguments false
  let readsInput := (← get).hasOption 's'
  match rest with
  | [] => if commanded then fail "-c requires an argument" else carryOutInput go
  | x :: more =>
    if commanded then do
      modify fun m => { m with name := more.headD m.name, arguments := more.tail }
      let _ ← runText go false x
      if readsInput then carryOutInput go
    else if readsInput then do
      modify fun m => { m with arguments := rest }
      carryOutInput go
    else carryOutFile go x more

/-- A shell with its name and its arguments. -/
def runShell (go : Carry) (name : String) (arguments : List String) : Act Outcome := do
  modify fun m => m.renewed name
  untilEnd go (obey go arguments)

/-! ## Programs -/

/-- The program and its argument that the first line of a script names. -/
def interpreter? (text : String) : Option (String × Option String) :=
  match text.toList with
  | '#' :: '!' :: rest =>
    let line := (rest.takeWhile (· != '\n')).dropWhile isBlank
    let (program, rest) := line.span (!isBlank ·)
    let argument := ((rest.dropWhile isBlank).reverse.dropWhile isBlank).reverse
    if program.isEmpty then none
    else some (String.ofList program,
      if argument.isEmpty then none else some (String.ofList argument))
  | _ => none

/-- The path of the program of a name. -/
def Machine.locate (m : Machine) (path name : String) : Except Problem String :=
  if name.contains '/' then .ok name else m.search name (partsAt ':' path) .missing

/-- The environment of a process without its ignored variables, and with others. -/
def changeEnvironment (empties : Bool) (removed : List String) (added : List (String × String)) :
    Act Unit :=
  modify fun m =>
    let kept := if empties then [] else
      (m.bindings.filter (·.2.exported)).filter fun (x, _) => !removed.contains x
    added.foldl (fun m (x, v) => m.putVariable x (some { value := some v, exported := true }))
      { m with bindings := kept }

/-- The variables that programs see, in the order in which a shell hands them over. -/
def environmentLines (m : Machine) : List String :=
  (inCells 39 m.seen.reverse).map fun (x, v) => x ++ "=" ++ v

/-- Splits the assignments from the front of some arguments. -/
def splitAssignments : List String → List (String × String) × List String
  | [] => ([], [])
  | x :: rest =>
    match x.toList.span (· != '=') with
    | (name, _ :: value) =>
      let (more, left) := splitAssignments rest
      ((String.ofList name, String.ofList value) :: more, left)
    | (_, []) => ([], x :: rest)

/-- Cuts a list into pieces of a length. -/
def pieces (length : Nat) : Nat → List String → List (List String)
  | 0, _ => []
  | _, [] => []
  | fuel + 1, xs => xs.take length :: pieces length fuel (xs.drop length)

/-- The status of a program that cannot be started. -/
def Problem.startStatus : Problem → Nat
  | .missing | .notDirectory | .looping | .nameTooLong => 127
  | _ => 126

/-- Lets a program take the place of the process, or tells why it cannot be started. The first of its
arguments is the name by which it is called. -/
def launch (go : Carry) : Nat → (path : String) → (arguments : List String) → Act Problem
  | 0, _, _ => throw .exhausted
  | fuel + 1, path, arguments => do
    let m ← get
    match m.world.disk.find m.place path with
    | .error problem => return problem
    | .ok (_, none) => return .missing
    | .ok (_, some e) =>
      match e.node with
      | .file text =>
        if e.mode &&& 0o111 = 0 then return .denied
        else
          match interpreter? text with
          | some (program, argument) =>
            launch go fuel program (program :: argument.toList ++ path :: arguments.tail)
          | none => launch go fuel "/bin/sh" ("/bin/sh" :: path :: arguments.tail)
      | .program name => do
        Act.pass Act.loading
        modify fun m => { m with
          name := arguments.headD ""
          traps := m.traps.filter (·.2 == "")
          caught := [] }
        match name with
        | "sh" =>
          match ← runShell go (arguments.headD "sh") arguments.tail with
          | .exited status => Utility.quit status
          | .signalled signal => Act.die signal
        | "env" => environment fuel arguments.tail
        | "xargs" => collect fuel arguments.tail
        | name =>
          match Utility.named? name with
          | some utility => Utility.quit (← utility arguments.tail)
          | none => return .missing
      | _ => return .denied
where
  /-- Starts a program by its name. -/
  byName (fuel : Nat) (quote : String → String) (fields : List String) : Act Unit := do
    let m ← get
    let name := fields.headD ""
    let problem ← match m.locate ((m.value? "PATH").getD "/bin:/usr/bin") name with
      | .ok path => launch go fuel path fields
      | .error problem => pure problem
    Utility.giveUp (quote name ++ ": " ++ problem.text) problem.startStatus
  /-- Changes the environment and starts a program, or writes the environment. -/
  environment (fuel : Nat) (arguments : List String) : Act Problem := do
    let a ← Utility.readArguments
      { letters := "iu:0", names := [("ignore-environment", 'i'), ("unset", 'u'), ("null", '0')],
        mixed := false } arguments 125
    let (empties, others) := match a.others with
      | "-" :: rest => (true, rest)
      | others => (a.has 'i', others)
    let removed := (a.options.filter (·.1 == 'u')).map (·.2)
    let (added, command) := splitAssignments others
    changeEnvironment empties removed added
    if command.isEmpty then do
      let ending := if a.has '0' then "\x00" else "\n"
      Utility.put (String.join ((environmentLines (← get)).map (· ++ ending)))
      Utility.quit 0
    else do
      byName fuel Utility.quoted command
      return .missing
  /-- Starts a program for what is read. -/
  collect (fuel : Nat) (arguments : List String) : Act Problem := do
    let a ← Utility.readArguments
      { letters := "0n:I:d:rtL:P:s:", mixed := false,
        names := [("null", '0'), ("max-args", 'n'), ("replace", 'I'), ("delimiter", 'd'),
          ("no-run-if-empty", 'r'), ("verbose", 't')] } arguments
    let text ← match ← Utility.contents "-" with
      | .ok text => pure text
      | .error _ => pure ""
    let command := if a.others.isEmpty then ["echo"] else a.others
    let items := Utility.items a text
    let calls := match a.value? 'I', (a.value? 'n').bind Utility.natural? with
      | some mark, _ => items.map fun item => command.map fun x => Utility.substituted mark item x
      | none, some n => (pieces (max n 1) items.length items).map (command ++ ·)
      | none, none => if items.isEmpty && a.has 'r' then [] else [command ++ items]
    let calls := if calls.isEmpty && (a.value? 'I').isNone && !a.has 'r' then [command] else calls
    let mut status := 0
    for fields in calls do
      if a.has 't' then Act.sayLine (" ".intercalate fields)
      let (x, _) ← Act.inChild do
        modify fun m => { m with descriptors := (0, 0) :: m.descriptors.filter (·.1 ≠ 0) }
        byName fuel (fun x => x) fields
        return .exited 0
      Act.waitUntil x.ends
      match x.outcome with
      | .exited 0 => pure ()
      | .exited 255 => do
        Utility.giveUp (fields.headD "" ++ ": exited with status 255; aborting") 124
      | .exited n =>
        if n = 126 || n = 127 then Utility.quit n else status := 123
      | .signalled n =>
        Utility.giveUp (fields.headD "" ++ ": terminated by signal " ++ Text.decimal n) 125
    Utility.quit status

end RouteKeeper.Shell
