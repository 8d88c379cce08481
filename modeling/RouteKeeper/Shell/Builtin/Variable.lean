import RouteKeeper.Shell.Builtin.Option
import RouteKeeper.Shell.Field

/-!
# Utilities for parameters

The utilities that give variables values and properties, set options and arguments, and
read options and lines.
-/

namespace RouteKeeper.Shell.Builtin

open Act (fail)

/-- Splits an argument at its equals sign. -/
def splitAssignment (x : String) : String × Option String :=
  match x.toList.span (· != '=') with
  | (name, _ :: value) => (String.ofList name, some (String.ofList value))
  | (name, []) => (String.ofList name, none)

/-- Variables in the order of their names, as they are listed. -/
def listing (start : String) (vs : List (String × Variable)) : List String :=
  (vs.mergeSort fun a b => a.1 ≤ b.1).map fun (x, v) =>
    start ++ x ++ (v.value.map fun s => "=" ++ quotedText s).getD ""

/-- Gives variables a property, and values if the arguments have any. -/
def declare (exported fixed : Bool) : List String → Act Unit
  | [] => return ()
  | x :: rest => do
    let (name, value) := splitAssignment x
    match value, (← get).bindings.lookup name with
    | none, some _ => Act.mark name exported fixed
    | value, _ => Act.setVariable name value exported fixed
    declare exported fixed rest

/-- Gives variables the property of being seen by programs or of keeping their values, or lists those
that have it. -/
def property (name : String) (exported fixed : Bool) : Builtin := fun arguments => do
  let (options, rest) ← options "p" arguments
  if options.isEmpty && !rest.isEmpty then do
    declare exported fixed rest
    return {}
  else
    let has (v : Variable) : Bool := (exported && v.exported) || (fixed && v.fixed)
    let vs := (← get).bindings.filter fun (_, v) => has v
    return { output := linesText (listing (name ++ " ") vs) }

/-- Makes variables a function's own. -/
def makeLocals : Builtin := fun arguments => do
  if (← get).locals.isEmpty then fail "not in a function"
  for x in arguments do
    let (name, value) := splitAssignment x
    Act.makeLocal name value false
  return {}

/-- Takes variables or functions away. -/
def unset : Builtin := fun arguments => do
  let (options, names) ← options "vf" arguments
  for name in names do
    if options.getLast?.map (·.1) = some 'f' then Act.unsetFunction name
    else Act.unsetVariable name
  return {}

/-! ## Options and arguments of the shell -/

/-- Sets or clears an option that has a letter. Two of them exclude each other. -/
def Options.put (o : Options) (letter : Char) (value : Bool) : Options :=
  let others := o.letters.filter (· != letter)
  if !value then { o with letters := others }
  else
    let others := match letter with
      | 'V' => others.filter (· != 'E')
      | 'E' => others.filter (· != 'V')
      | _ => others
    { o with letters := letter :: others }

/-- Sets or clears an option by its letter. -/
def setLetter (value : Bool) (letter : Char) : Act Unit := do
  if !optionTable.any (·.2 == some letter) then
    fail ("Illegal option -" ++ String.singleton letter)
  modify fun m => { m with options := Options.put m.options letter value }

/-- Sets or clears an option by its name. -/
def setName (value : Bool) (name : String) : Act Unit := do
  match optionTable.lookup name with
  | none => fail ("Illegal option -o " ++ name)
  | some (some letter) =>
    modify fun m =>
      let others := m.options.letters.filter (· != letter)
      { m with options.letters := if value then letter :: others else others }
  | some none =>
    modify fun m =>
      let others := m.options.names.filter (· != name)
      { m with options.names := if value then name :: others else others }

/-- The options and whether they are set, for a reader or as commands. -/
def optionLines (m : Machine) (asCommands : Bool) : List String :=
  let isSet (name : String) (letter : Option Char) : Bool :=
    match letter with
    | some c => m.hasOption c
    | none => m.options.names.contains name
  if asCommands then
    optionTable.map fun (name, letter) =>
      "set " ++ (if isSet name letter then "-o " else "+o ") ++ name
  else
    "Current option settings" :: optionTable.map fun (name, letter) =>
      String.ofList (name.toList ++ List.replicate (16 - name.length) ' ') ++
        if isSet name letter then "on" else "off"

/-- Sets or clears options by the letters of an argument; the letter `o` takes a name from the
arguments after it. Returns what it lists and the arguments that are left. -/
def setLetters (value : Bool) : List Char → List String → Act (String × List String)
  | [], rest => return ("", rest)
  | 'o' :: cs, [] => do
    let listed := linesText (optionLines (← get) (!value))
    let (more, rest) ← setLetters value cs []
    return (listed ++ more, rest)
  | 'o' :: cs, name :: rest => do
    setName value name
    setLetters value cs rest
  | c :: cs, rest => do
    setLetter value c
    setLetters value cs rest

/-- Sets the arguments of the shell. -/
def setArguments (arguments : List String) : Act Unit :=
  modify fun m => { m with arguments, optionIndex := 1, optionOffset := none }

/-- Sets options, one argument after the other. Returns what it lists and the arguments that are
left. -/
def setOptions : Nat → List String → Act (String × List String)
  | 0, rest => return ("", rest)
  | _ + 1, [] => return ("", [])
  | fuel + 1, x :: rest =>
    match x.toList with
    | ['-'] => do
      modify fun m => { m with options := ['x', 'v'].foldl (Options.put · · false) m.options }
      return ("", rest)
    | ['-', '-'] => do
      if rest.isEmpty then setArguments []
      return ("", rest)
    | c :: letters =>
      if c == '-' || c == '+' then do
        let (listed, rest) ← setLetters (c == '-') letters rest
        let (more, rest) ← setOptions fuel rest
        return (listed ++ more, rest)
      else return ("", x :: rest)
    | [] => return ("", x :: rest)

/-- Sets options and arguments, or lists the variables. -/
def set : Builtin := fun arguments => do
  if arguments.isEmpty then
    let vs := (← get).bindings.filter fun (_, v) => v.value.isSome
    return { output := linesText (listing "" vs) }
  else do
    let monitored := (← get).hasOption 'm'
    let (output, rest) ← setOptions (arguments.length + 1) arguments
    if !monitored && (← get).hasOption 'm' then do
      Act.complain "can't access tty; job control turned off"
      modify fun m => { m with options := Options.put m.options 'm' false }
    if !rest.isEmpty then setArguments rest
    return { output }

/-- Drops the first arguments of the shell. -/
def shift : Builtin := fun arguments => do
  let n ← match arguments with
    | [] => pure 1
    | x :: _ => count x
  let m ← get
  if m.arguments.length < n then fail "can't shift that many"
  setArguments (m.arguments.drop n)
  return {}

/-! ## Options of scripts -/

/-- Takes the value from a variable without looking at its properties. -/
def forget (name : String) : Act Unit :=
  modify fun m => m.putVariable name none

/-- The next letter among the options of some words: the letter, what follows it in its word, and the
number of the word after it. There is none at the end of the options; the number is that of the
first word after them. -/
def nextLetter (words : List String) (index : Nat) (offset : Option Nat) :
    Option (Char × List Char) × Nat :=
  let left := match offset with
    | some n => if index ≤ 1 then [] else ((words.getD (index - 2) "").toList).drop n
    | none => []
  match left with
  | c :: cs => (some (c, cs), index)
  | [] =>
    match (words[index - 1]?).map (·.toList) with
    | some ['-', '-'] => (none, index + 1)
    | some ('-' :: c :: cs) => (some (c, cs), index + 1)
    | _ => (none, index)

/-- Reads the next option of some words into a variable. -/
def nextOption (known name : String) (words : List String) : Act Nat := do
  let m ← get
  let quiet := known.startsWith ":"
  let finish (letter : Char) (index : Nat) (left : List Char) (status : Nat) : Act Nat := do
    modify fun m => m.putVariable "OPTIND" (some
      { (m.bindings.lookup "OPTIND").getD {} with value := some (Text.decimal index) })
    Act.assign name (String.singleton letter)
    let length := (words.getD (index - 2) "").length
    modify fun m => { m with
      optionIndex := index
      optionOffset := if left.isEmpty then none else some (length - left.length) }
    return status
  match nextLetter words m.optionIndex m.optionOffset with
  | (none, index) => finish '?' index [] 1
  | (some (c, cs), index) =>
    match known.toList.dropWhile (· != c) with
    | [] =>
      if quiet then Act.assign "OPTARG" (String.singleton c)
      else do
        Act.sayLine ("Illegal option -" ++ String.singleton c)
        forget "OPTARG"
      finish '?' index cs 0
    | _ :: ':' :: _ =>
      if !cs.isEmpty then do
        Act.assign "OPTARG" (String.ofList cs)
        finish c index [] 0
      else
        match words[index - 1]? with
        | some value => do
          Act.assign "OPTARG" value
          finish c (index + 1) [] 0
        | none =>
          if quiet then do
            Act.assign "OPTARG" (String.singleton c)
            finish ':' index [] 0
          else do
            Act.sayLine ("No arg for -" ++ String.singleton c ++ " option")
            forget "OPTARG"
            finish '?' index [] 0
    | _ => do
      Act.assign "OPTARG" ""
      finish c index cs 0

/-- Reads the next option of the shell's arguments, or of the given ones, into a variable. -/
def getopts : Builtin := fun arguments => do
  match arguments with
  | known :: name :: words => do
    let m ← get
    let words := if words.isEmpty then m.arguments else words
    if words.length + 1 < m.optionIndex then
      modify fun m => { m with optionIndex := 1, optionOffset := none }
    return { status := ← nextOption known name words }
  | _ => fail "Usage: getopts optstring var [arg...]"

/-! ## Lines -/

/-- The segments of a line, in which a character after a backslash is quoted; `raw` says that
backslashes mean nothing. Tells whether a backslash ends the line. -/
def lineSegments (raw : Bool) : List Char → List Segment × Bool
  | [] => ([⟨.atSeparators, []⟩], false)
  | c :: rest =>
    if c == '\\' && !raw then
      match rest with
      | [] => ([⟨.atSeparators, []⟩], true)
      | d :: rest =>
        let (more, isOpen) := lineSegments raw rest
        (⟨.atSeparators, []⟩ :: .fixed [.char d true] :: more, isOpen)
    else
      match lineSegments raw rest with
      | (s :: more, isOpen) => ({ s with glyphs := .char c false :: s.glyphs } :: more, isOpen)
      | ([], isOpen) => ([⟨.atSeparators, [.char c false]⟩], isOpen)

/-- More lines than are joined by backslashes. -/
def manyLines : Nat := 1 <<< 24

/-- Reads a line, and the lines after it as long as a backslash ends them. Tells whether the last one
ended. -/
def readSegments (raw : Bool) : Nat → Act (List Segment × Bool)
  | 0 => throw .exhausted
  | fuel + 1 => do
    match ← Act.readLine 0 with
    | .error _ => return ([⟨.atSeparators, []⟩], false)
    | .ok (line, ended) =>
      let (segments, isOpen) := lineSegments raw (line.filter (· != '\x00'))
      if isOpen && ended then do
        let (more, ended) ← readSegments raw fuel
        return (segments ++ more, ended)
      else return (segments, ended)

/-- Gives variables fields; those without a field become empty. -/
def assignFields : List String → List String → Act Unit
  | [], _ => return ()
  | name :: names, [] => do
    Act.assign name ""
    assignFields names []
  | name :: names, x :: fields => do
    Act.assign name x
    assignFields names fields

/-- Reads a line into variables; the last one takes all that the others leave. -/
def read : Builtin := fun arguments => do
  let (options, names) ← options "p:r" arguments
  if names.isEmpty then fail "arg count"
  let (segments, ended) ← readSegments (options.any (·.1 == 'r')) manyLines
  let fields := Field.split (← get).separators (some names.length) segments
  assignFields names (fields.map textOf)
  return { status := if ended then 0 else 1 }

end RouteKeeper.Shell.Builtin
