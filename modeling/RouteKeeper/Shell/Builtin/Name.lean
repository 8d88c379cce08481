import RouteKeeper.Shell.Builtin.Option

/-!
# Utilities for the names of commands

The utilities that give names to texts and say what a name stands for.
-/

namespace RouteKeeper.Shell.Builtin

open Act (fail)

/-! ## Aliases -/

/-- The size of the table of aliases. -/
def aliasCells : Nat := 39

/-- An alias as it is listed. -/
def aliasText (name value : String) : String :=
  name ++ "=" ++ quotedText value

/-- Gives names to texts, or lists them. -/
def defineAliases : List String → Act Report
  | [] => return {}
  | x :: rest => do
    match x.toList.span (· != '=') with
    | (c :: name, _ :: value) => do
      let name := String.ofList (c :: name)
      modify fun m =>
        let value := String.ofList value
        let replace : String × String → String × String := fun (n, v) => if n == name then (n, value) else (n, v)
        { m with aliases :=
            if (m.aliases.lookup name).isSome then m.aliases.map replace
            else m.aliases ++ [(name, value)] }
      defineAliases rest
    | _ =>
      match (← get).aliases.lookup x with
      | some value => do
        let more ← defineAliases rest
        return { more with output := aliasText x value ++ "\n" ++ more.output }
      | none => do
        Act.sayLine ("alias: " ++ x ++ " not found")
        let more ← defineAliases rest
        return { more with status := 1 }

/-- Gives names to texts, or lists them. -/
def «alias» : Builtin := fun arguments => do
  if arguments.isEmpty then
    let all := inCells aliasCells (← get).aliases
    return { output := linesText (all.map fun (x, v) => aliasText x v) }
  else defineAliases arguments

/-- Takes names from texts. -/
def forgetAliases : List String → (status : Nat) → Act Report
  | [], status => return { status }
  | x :: rest, status => do
    if ((← get).aliases.lookup x).isSome then do
      modify fun m => { m with aliases := m.aliases.filter (·.1 != x) }
      forgetAliases rest status
    else do
      Act.sayLine ("unalias: " ++ x ++ " not found")
      forgetAliases rest 1

/-- Takes names from texts. -/
def unalias : Builtin := fun arguments => do
  let (options, names) ← options "a" arguments
  if options.isEmpty then forgetAliases names 0
  else do
    modify fun m => { m with aliases := [] }
    return {}

/-! ## Meanings -/

/-- The size of the table of programs. -/
def programCells : Nat := 31

/-- What a name stands for, for a reader or as a command. -/
def describe (m : Machine) (path : Option String) (verbose : Bool) (name : String) : Report :=
  let say (long short : String) : Report :=
    { output := (if verbose then name ++ " is " ++ long else short) ++ "\n" }
  if reservedWords.contains name then say "a shell keyword" name
  else
    match m.aliases.lookup name with
    | some value => say ("an alias for " ++ value) ("alias " ++ aliasText name value)
    | none =>
      match if path.isNone then m.known.lookup name else none, m.meaning true (path.getD m.path) name with
      | _, .function _ => say "a shell function" name
      | _, .builtin =>
        say (if specials.contains name then "a special shell builtin" else "a shell builtin") name
      | some found, _ => say ("a tracked alias for " ++ found) found
      | none, .program found =>
        match m.world.disk.find m.place found with
        | .ok (_, some _) => say found found
        | _ => missing
      | none, .unknown _ => missing
where
  /-- Nothing is known of the name. -/
  missing : Report :=
    { output := if verbose then name ++ ": not found\n" else "", status := 127 }

/-- Says what names stand for; the statuses are taken together. -/
def describeAll (m : Machine) : List String → Report
  | [] => {}
  | x :: rest =>
    let first := describe m none true x
    let more := describeAll m rest
    { output := first.output ++ more.output, status := first.status ||| more.status }

/-- Says what names stand for. -/
def type : Builtin := fun arguments => do
  return describeAll (← get) arguments

/-- Says what a name stands for, as `command` does with an option. -/
def describeCommand (options : List (Char × String)) (rest : List String) : Act Report := do
  let path := if options.any (·.1 == 'p') then some standardPath else none
  let verbose := options.any (·.1 == 'V')
  match rest with
  | x :: _ =>
    if verbose || options.any (·.1 == 'v') then return describe (← get) path verbose x
    else return {}
  | [] => return {}

/-- Looks up names anew. -/
def lookUpAll : List String → (status : Nat) → Act Nat
  | [], status => return status
  | x :: rest, status => do
    modify fun m => { m with known := m.known.filter (·.1 != x) }
    let m ← get
    match m.meaning true m.path x with
    | .unknown problem => do
      Act.complain (x ++ ": " ++ problem.textForProgram)
      lookUpAll rest 1
    | .program path => do
      set (m.remember x path)
      lookUpAll rest status
    | _ => lookUpAll rest status

/-- Looks up names, forgets the programs that were looked up, or lists them. -/
def hash : Builtin := fun arguments => do
  let (options, names) ← options "r" arguments
  if !options.isEmpty then do
    modify fun m => { m with known := [] }
    return {}
  else if names.isEmpty then
    return { output := linesText ((inCells programCells (← get).known).map (·.2)) }
  else return { status := ← lookUpAll names 0 }

end RouteKeeper.Shell.Builtin
