import RouteKeeper.Shell.Machine
import RouteKeeper.Shell.Words

/-!
# Parameters and variables

The values of parameters, and how variables get and lose values and properties. A
fixed variable keeps its value; a function gives back the variables that are its own.
-/

namespace RouteKeeper.Shell

/-- The letters of options in the order in which they are listed; some options have none. -/
def optionTable : List (String × Option Char) :=
  [("errexit", some 'e'), ("noglob", some 'f'), ("ignoreeof", some 'I'), ("interactive", some 'i'),
    ("monitor", some 'm'), ("noexec", some 'n'), ("stdin", some 's'), ("xtrace", some 'x'),
    ("verbose", some 'v'), ("vi", some 'V'), ("emacs", some 'E'), ("noclobber", some 'C'),
    ("allexport", some 'a'), ("notify", some 'b'), ("nounset", some 'u'), ("privileged", some 'p'),
    ("nolog", none), ("debug", none)]

/-- The variables of a new shell, given those that the program that started it lets it see. -/
def firstVariables (seen : List (String × String)) (parent : Nat) (directory : String) :
    List (String × Variable) :=
  let own : List (String × String) :=
    [("IFS", " \t\n"), ("OPTIND", "1"), ("PPID", Text.decimal parent), ("PS1", "# "), ("PS2", "> "),
      ("PS4", "+ ")]
  let imported := seen.filter fun (x, _) => !(["IFS", "OPTIND", "PPID", "PWD"].contains x)
  [("PWD", { value := some directory, exported := true })] ++
    imported.map (fun (x, v) => (x, { value := some v, exported := true })) ++
    (own.filter fun (x, _) => !imported.any (·.1 == x)).map fun (x, v) => (x, { value := some v })

namespace Machine

/-- The value of a variable. -/
def value? (m : Machine) (name : String) : Option String :=
  (m.bindings.lookup name).bind (·.value)

/-- The letters of the options that are set, the last ones first. -/
def optionLetters (m : Machine) : String :=
  String.ofList ((optionTable.filterMap (·.2)).reverse.filter m.options.letters.contains)

/-- The value of a parameter other than all arguments. -/
def parameter? (m : Machine) (name : String) : Option String :=
  match name with
  | "?" => some (Text.decimal m.status)
  | "$" => some (Text.decimal m.root)
  | "#" => some (Text.decimal m.arguments.length)
  | "!" => m.background.map Text.decimal
  | "-" => some m.optionLetters
  | name =>
    if name.toList.all Char.isDigit then
      match Integer.valueIn 10 name.toList with
      | 0 => some m.name
      | n => m.arguments[n - 1]?
    else m.value? name

/-- The characters at which fields are split. -/
def separators (m : Machine) : List Char :=
  match m.value? "IFS" with
  | some s => s.toList
  | none => [' ', '\t', '\n']

/-- Puts a variable in place of the one of that name. -/
def putVariable (m : Machine) (name : String) (v : Option Variable) : Machine :=
  { m with bindings := (v.toList.map (name, ·)) ++ m.bindings.filter (·.1 != name) }

/-- The variables that programs see, with their values. -/
def seen (m : Machine) : List (String × String) :=
  m.bindings.filterMap fun (x, v) => if v.exported then v.value.map (x, ·) else none

end Machine

namespace Act

/-- Complains about a text that is no name. -/
def checkName (name : String) : Act Unit := do
  if !isName name then fail (name ++ ": bad variable name")

/-- Complains about a fixed variable. -/
def checkFree (name : String) : Act Unit := do
  if (((← get).bindings.lookup name).map (·.fixed)).getD false then fail (name ++ ": is read only")

/-- Takes note of a new value of a variable with a meaning of its own. -/
def noteValue (name : String) (value : Option String) : Act Unit := do
  if name == "PATH" then modify fun m => { m with known := [] }
  if name == "OPTIND" then
    match Integer.count? (value.getD "") with
    | some n => modify fun m => { m with optionIndex := max n 1, optionOffset := none }
    | none => if let some text := value then fail ("Illegal number: " ++ text)

/-- Gives a variable a value or none, and perhaps properties. -/
def setVariable (name : String) (value : Option String) (exported : Bool := false)
    (fixed : Bool := false) : Act Unit := do
  checkName name
  checkFree name
  noteValue name value
  modify fun m =>
    let old := (m.bindings.lookup name).getD {}
    let exported := exported || old.exported || (m.hasOption 'a' && value.isSome)
    m.putVariable name (some { value, exported, fixed })

/-- Gives a variable a value. -/
def assign (name value : String) : Act Unit :=
  setVariable name (some value)

/-- Gives a variable properties and leaves its value. -/
def mark (name : String) (exported fixed : Bool) : Act Unit := do
  checkName name
  modify fun m =>
    let old := (m.bindings.lookup name).getD {}
    m.putVariable name (some
      { old with exported := old.exported || exported, fixed := old.fixed || fixed })

/-- Takes the value and the properties from a variable. -/
def unsetVariable (name : String) : Act Unit := do
  checkName name
  checkFree name
  modify fun m => m.putVariable name none

/-- Removes a function. -/
def unsetFunction (name : String) : Act Unit :=
  modify fun m => { m with functions := m.functions.filter (·.1 != name) }

/-! ## Variables of functions -/

/-- Lets the function that is carried out restore something. -/
def restoreLater (l : Local) : Act Unit :=
  modify fun m => { m with locals := match m.locals with
    | [] => []
    | inmost :: rest => (l :: inmost) :: rest }

/-- Makes a variable, or the options, the function's own; a variable may get a value. -/
def makeLocal (name : String) (value : Option String) (exported : Bool) : Act Unit := do
  let m ← get
  if name == "-" && value.isNone then restoreLater (.options m.options)
  else
    let before := m.bindings.lookup name
    match value, before with
    | none, some _ => restoreLater (.variable name before)
    | _, _ => do
      if before.isSome then restoreLater (.variable name before)
      setVariable name value exported
      if before.isNone then restoreLater (.variable name none)

/-- Restores what a function has made its own. -/
def Machine.restore (m : Machine) : Local → Machine
  | .variable name before =>
    let m := if name == "PATH" then { m with known := [] } else m
    m.putVariable name before
  | .options options => { m with options }

/-- Gives back the variables of all functions but so many of the outer ones. -/
def Machine.restoreTo (m : Machine) (depth : Nat) : Machine :=
  let ended := m.locals.take (m.locals.length - depth)
  { ended.flatten.foldl Machine.restore m with locals := m.locals.drop (m.locals.length - depth) }

end Act

end RouteKeeper.Shell
