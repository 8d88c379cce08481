import RouteKeeper.Shell.Builtin.Place
import RouteKeeper.Shell.Utility.Name

/-!
# Programs for files

The programs that list, create, remove, copy and rename files and directories.
-/

namespace RouteKeeper.Shell.Utility

/-- Where a path leads, and what is there. -/
def lookUp (path : String) (follow : Bool := true) : Act (Except Problem (Path × Option Entry)) := do
  let m ← get
  return m.world.disk.find m.place path follow

/-- Changes the tree of files. -/
def changeDisk (change : Disk → Disk) : Act Unit :=
  modify fun m => { m with world.disk := change m.world.disk }

/-- Does something for each of some paths. The status tells whether something stood against one of
them. -/
def forEach (paths : List String) (act : String → Act (Option String)) : Act Nat := do
  let mut status := 0
  for path in paths do
    match ← act path with
    | none => pure ()
    | some complaint => do
      complain complaint
      status := 1
  return status

/-! ## Listing -/

/-- The names in a directory, in order. -/
def listed (a : Arguments) (d : Disk) (place : Path) : List String :=
  let names := (d.namesIn place).mergeSort fun x y => x ≤ y
  let names := if a.has 'a' then "." :: ".." :: names
    else if a.has 'A' then names
    else names.filter (!·.startsWith ".")
  if a.has 'r' then names.reverse else names

/-- A name with a sign for its kind, if that is wanted. -/
def marked (a : Arguments) (d : Disk) (place : Path) (name : String) : String :=
  match d.entry? (if name == "." || name == ".." then [] else place ++ [name]) with
  | some e =>
    match e.node with
    | .directory => if a.has 'F' || a.has 'p' then name ++ "/" else name
    | .link _ => if a.has 'F' then name ++ "@" else name
    | .program _ => if a.has 'F' then name ++ "*" else name
    | .file _ => if a.has 'F' && e.mode &&& 0o111 ≠ 0 then name ++ "*" else name
    | _ => name
  | none => name

/-- Lists files and what directories hold. -/
def ls : Utility := fun arguments => do
  let a ← readArguments
    { letters := "aA1dFprRtSlhiLnogscCmxuqQN"
      names := [("all", 'a'), ("almost-all", 'A'), ("directory", 'd'), ("reverse", 'r')] } arguments 2
  let paths := (if a.others.isEmpty then ["."] else a.others).mergeSort fun x y => x ≤ y
  let mut files : List String := []
  let mut directories : List (String × Path) := []
  let mut status := 0
  for path in paths do
    let found ← lookUp path
    let direct ← lookUp path false
    match if direct.toOption.bind (·.2) |>.isSome then
        if found.toOption.bind (·.2) |>.isSome then found else direct
      else found with
    | .ok (place, some e) =>
      if e.node = .directory && !a.has 'd' then directories := directories ++ [(path, place)]
      else files := files ++ [path]
    | .ok (_, none) => do
      complain ("cannot access " ++ shellQuoted path ++ ": " ++ Problem.missing.text)
      status := 2
    | .error problem => do
      complain ("cannot access " ++ shellQuoted path ++ ": " ++ problem.text)
      status := 2
  put (textOfLines files) 2
  let titled := 1 < a.others.length
  let d := (← get).world.disk
  let mut isFirst := files.isEmpty
  for (path, place) in directories do
    let header := if titled then (if isFirst then "" else "\n") ++ path ++ ":\n" else ""
    put (header ++ textOfLines ((listed a d place).map (marked a d place))) 2
    isFirst := false
  return status

/-! ## Directories -/

/-- Creates a directory. Those on the way to it are created too if `parents`. -/
def makeDirectory (parents : Bool) (mode : Nat) (path : String) : Act (Option String) := do
  let refusal (problem : Problem) : Option String :=
    some ("cannot create directory " ++ shellQuoted path ++ ": " ++ problem.text)
  let entry (mode : Nat) : Act Entry := do
    return { node := .directory, mode, time := (← get).clock }
  match ← lookUp (String.ofList (withoutSlashes path.toList)) false with
  | .ok (_, some e) => return if parents && e.node = .directory then none else refusal .exists
  | .ok (place, none) => do
    let e ← entry mode
    changeDisk fun d => d.put place e
    return none
  | .error .missing =>
    if !parents || path.isEmpty then return refusal .missing
    else do
      let m ← get
      let start := if path.startsWith "/" then [] else m.place
      let e ← entry (0o777 - (0o777 &&& (← get).mask))
      changeDisk fun d => ((partsAt '/' path).filter (· != "")).foldl (fun (d, place) part =>
        let place := place ++ [part]
        if (d.entry? place).isSome then (d, place) else (d.put place e, place)) (d, start) |>.1
      return none
  | .error problem => return refusal problem

/-- Creates directories. -/
def mkdir : Utility := fun arguments => do
  let a ← readArguments
    { letters := "pm:v", names := [("parents", 'p'), ("mode", 'm'), ("verbose", 'v')] } arguments
  if a.others.isEmpty then refuse "missing operand"
  let m ← get
  let usual := 0o777 - (0o777 &&& m.mask)
  let mode := match a.value? 'm' with
    | some s =>
      if s.toList.all fun c => '0' ≤ c && c ≤ '7' then Integer.valueIn 8 s.toList
      else (Builtin.applyClauses 0o777 (s.length + 1) s.toList 0o777 0).getD usual
    | none => usual
  forEach a.others (makeDirectory (a.has 'p') mode)

/-- Removes an empty directory. -/
def removeDirectory (path : String) : Act (Option String) := do
  let refusal (problem : Problem) : Option String :=
    some ("failed to remove " ++ shellQuoted path ++ ": " ++ problem.text)
  match ← lookUp path false with
  | .error problem => return refusal problem
  | .ok (_, none) => return refusal .missing
  | .ok (place, some e) =>
    if e.node ≠ .directory then return refusal .notDirectory
    else if !((← get).world.disk.namesIn place).isEmpty then return refusal .notEmpty
    else if place.isEmpty then return refusal .busy
    else do
      changeDisk fun d => d.remove place
      return none

/-- Removes empty directories. -/
def rmdir : Utility := fun arguments => do
  let a ← readArguments { letters := "pv" } arguments
  if a.others.isEmpty then refuse "missing operand"
  forEach a.others removeDirectory

/-! ## Files -/

/-- Removes files, and directories if that is wanted. -/
def rm : Utility := fun arguments => do
  let a ← readArguments
    { letters := "frRidIv"
      names := [("force", 'f'), ("recursive", 'r'), ("dir", 'd'), ("verbose", 'v')] } arguments
  if a.others.isEmpty && !a.has 'f' then refuse "missing operand"
  let recursive := a.has 'r' || a.has 'R'
  let remove (path : String) : Act (Option String) := do
    let refusal (problem : Problem) : Option String :=
      some ("cannot remove " ++ shellQuoted path ++ ": " ++ problem.text)
    match ← lookUp path false with
    | .error .missing | .error .notDirectory | .ok (_, none) =>
      return if a.has 'f' then none else refusal .missing
    | .error problem => return refusal problem
    | .ok (place, some e) =>
      let name := lastPart path ""
      if recursive && place.isEmpty then
        return some ("it is dangerous to operate recursively on '/'\nrm: use --no-preserve-root to " ++
          "override this failsafe")
      else if recursive && (name == "." || name == "..") then
        return some ("refusing to remove '.' or '..' directory: skipping " ++ shellQuoted path)
      else if e.node = .directory && !recursive then
        if a.has 'd' && ((← get).world.disk.namesIn place).isEmpty then do
          changeDisk fun d => d.remove place
          return none
        else return refusal (if a.has 'd' then .notEmpty else .isDirectory)
      else do
        changeDisk fun d => d.remove place
        return none
  forEach a.others remove

/-- Creates files that are not there, and has the others changed now. -/
def touch : Utility := fun arguments => do
  let a ← readArguments { letters := "acmd:t:r:h" } arguments
  if a.others.isEmpty then refuse "missing file operand"
  let change (path : String) : Act (Option String) := do
    let refusal (problem : Problem) : Option String :=
      some ("cannot touch " ++ shellQuoted path ++ ": " ++ problem.text)
    let m ← get
    match ← lookUp path with
    | .error problem => return refusal problem
    | .ok (place, some e) => do
      changeDisk fun d => d.put place { e with time := m.clock }
      return none
    | .ok (place, none) =>
      if a.has 'c' then return none
      else if path.endsWith "/" then return refusal .missing
      else do
        changeDisk fun d => d.put place ⟨.file "", 0o666 - (0o666 &&& m.mask), m.clock⟩
        return none
  forEach a.others change

/-- Puts what is at a place and below it at another place, too. -/
def copyTree (d : Disk) (source target : Path) : Disk :=
  let below := d.entries.filter fun (p, _) => source.isPrefixOf p
  below.foldl (fun d (p, e) => d.put (target ++ p.drop source.length) e) d

/-- Where a file is copied or moved to: into a directory under its own name, or to another name. -/
def targetOf (source target : String) : Act String := do
  let m ← get
  if m.world.disk.isDirectory m.place target then
    return String.ofList (withoutSlashes target.toList) ++ "/" ++ lastPart source ""
  else return target

/-- The sources and the target among the arguments of a program. -/
def sourcesAndTarget (a : Arguments) : Act (List String × String) := do
  match a.others with
  | [] => refuse "missing file operand"
  | [x] =>
    match a.value? 't' with
    | some target => return ([x], target)
    | none => refuse ("missing destination file operand after " ++ shellQuoted x)
  | xs =>
    match a.value? 't' with
    | some target => return (xs, target)
    | none => do
      let target := xs.getLast?.getD ""
      let m ← get
      if 2 < xs.length && !m.world.disk.isDirectory m.place target then
        let problem := match m.world.disk.find m.place target with
          | .ok (_, some _) => Problem.notDirectory
          | _ => .missing
        giveUp ("target " ++ shellQuoted target ++ ": " ++ problem.text)
      return (xs.dropLast, target)

/-- Copies files. -/
def cp : Utility := fun arguments => do
  let a ← readArguments
    { letters := "rRafpdinuvLPt:"
      names := [("recursive", 'r'), ("archive", 'a'), ("force", 'f'), ("target-directory", 't')] }
    arguments
  let (sources, target) ← sourcesAndTarget a
  let recursive := a.has 'r' || a.has 'R' || a.has 'a'
  let copy (path : String) : Act (Option String) := do
    match ← lookUp path with
    | .error problem => return some ("cannot stat " ++ shellQuoted path ++ ": " ++ problem.text)
    | .ok (_, none) =>
      return some ("cannot stat " ++ shellQuoted path ++ ": " ++ Problem.missing.text)
    | .ok (source, some e) =>
      if e.node = .directory && !recursive then
        return some ("-r not specified; omitting directory " ++ shellQuoted path)
      else
        let goal ← targetOf path target
        match ← lookUp goal with
        | .error problem =>
          return some ("cannot create regular file " ++ shellQuoted goal ++ ": " ++ problem.text)
        | .ok (place, old) =>
          if place == source then
            return some (shellQuoted path ++ " and " ++ shellQuoted goal ++ " are the same file")
          else if e.node = .directory then do
            changeDisk fun d => copyTree d source place
            return none
          else do
            let m ← get
            let mode := match old with
              | some o => o.mode
              | none => e.mode - (e.mode &&& m.mask)
            changeDisk fun d => d.put place ⟨e.node, mode, m.clock⟩
            return none
  forEach sources copy

/-- Renames files. -/
def mv : Utility := fun arguments => do
  let a ← readArguments { letters := "finuvTt:" } arguments
  let (sources, target) ← sourcesAndTarget a
  let move (path : String) : Act (Option String) := do
    match ← lookUp path false with
    | .error problem => return some ("cannot stat " ++ shellQuoted path ++ ": " ++ problem.text)
    | .ok (_, none) =>
      return some ("cannot stat " ++ shellQuoted path ++ ": " ++ Problem.missing.text)
    | .ok (source, some e) =>
      let goal ← targetOf path target
      match ← lookUp goal false with
      | .error problem =>
        return some ("cannot move " ++ shellQuoted path ++ " to " ++ shellQuoted goal ++ ": " ++
          problem.text)
      | .ok (place, _) =>
        if place == source then
          return some (shellQuoted path ++ " and " ++ shellQuoted goal ++ " are the same file")
        else if e.node = .directory && source.isPrefixOf place then
          return some ("cannot move " ++ shellQuoted path ++ " to a subdirectory of itself, " ++
            shellQuoted goal)
        else do
          changeDisk fun d => (copyTree (d.remove place) source place).remove source
          return none
  forEach sources move

/-- Gives files other names. -/
def ln : Utility := fun arguments => do
  let a ← readArguments
    { letters := "sfnTvrt:", names := [("symbolic", 's'), ("force", 'f')] } arguments
  if a.others.isEmpty then refuse "missing file operand"
  let (sources, target) := match a.others with
    | [x] => ([x], lastPart x "")
    | xs => (xs.dropLast, xs.getLast?.getD "")
  let link (path : String) : Act (Option String) := do
    let goal ← if a.has 'n' || a.has 'T' then pure target else targetOf path target
    let kind := if a.has 's' then "symbolic link " else "hard link "
    let node ← if a.has 's' then pure (Except.ok (Node.link path)) else do
      match ← lookUp path false with
      | .ok (_, some e) =>
        if e.node = .directory then
          pure (.error (shellQuoted path ++ ": hard link not allowed for directory"))
        else pure (.ok e.node)
      | .ok (_, none) =>
        pure (.error ("failed to access " ++ shellQuoted path ++ ": " ++ Problem.missing.text))
      | .error problem => pure (.error ("failed to access " ++ shellQuoted path ++ ": " ++ problem.text))
    match node, ← lookUp goal false with
    | .error complaint, _ => return some complaint
    | _, .error problem =>
      return some ("failed to create " ++ kind ++ shellQuoted goal ++ ": " ++ problem.text)
    | .ok node, .ok (place, old) =>
      if old.isSome && !a.has 'f' then
        return some ("failed to create " ++ kind ++ shellQuoted goal ++ ": " ++ Problem.exists.text)
      else do
        let mode := match node with
          | .link _ => 0o777
          | _ => 0o644
        let clock := (← get).clock
        changeDisk fun d => d.put place ⟨node, mode, clock⟩
        return none
  forEach sources link

/-- The mode that a text makes of another one. -/
def modeOf? (s : String) (old : Nat) : Option Nat :=
  if s.isEmpty then none
  else if s.toList.all fun c => '0' ≤ c && c ≤ '7' then some (Integer.valueIn 8 s.toList)
  else Builtin.applyClauses old (s.length + 1) s.toList old 0

/-- Changes who may do what with files. -/
def chmod : Utility := fun arguments => do
  let arguments := arguments.filter fun x => x != "-R" && x != "-v" && x != "-f" && x != "--"
  match arguments with
  | [] => refuse "missing operand"
  | [mode] => refuse ("missing operand after " ++ quoted mode)
  | mode :: paths => do
    if (modeOf? mode 0).isNone then refuse ("invalid mode: " ++ quoted mode)
    let change (path : String) : Act (Option String) := do
      match ← lookUp path with
      | .ok (place, some e) => do
        changeDisk fun d => d.put place { e with mode := (modeOf? mode e.mode).getD e.mode }
        return none
      | .ok (_, none) =>
        return some ("cannot access " ++ shellQuoted path ++ ": " ++ Problem.missing.text)
      | .error problem => return some ("cannot access " ++ shellQuoted path ++ ": " ++ problem.text)
    forEach paths change

/-! ## Names of files -/

/-- Writes where links lead. -/
def readlink : Utility := fun arguments => do
  let a ← readArguments
    { letters := "femnqsvz"
      names := [("canonicalize", 'f'), ("canonicalize-existing", 'e'), ("no-newline", 'n')] } arguments
  if a.others.isEmpty then refuse "missing operand"
  let mut status := 0
  let ends := if a.has 'n' && a.others.length = 1 then "" else "\n"
  for path in a.others do
    let follows := a.has 'f' || a.has 'e' || a.has 'm'
    match ← lookUp path follows with
    | .ok (place, e) =>
      if follows then
        if a.has 'e' && e.isNone then status := 1 else put (Path.text place ++ ends)
      else
        match e with
        | some { node := .link target, .. } => put (target ++ ends)
        | _ => status := 1
    | .error _ => status := 1
  return status

/-- Writes the places to which paths lead. -/
def realpath : Utility := fun arguments => do
  let a ← readArguments { letters := "emsqLPz" } arguments
  if a.others.isEmpty then refuse "missing operand"
  let show_ (path : String) : Act (Option String) := do
    match ← lookUp path with
    | .ok (place, e) =>
      if a.has 'e' && e.isNone then return some (plainly path .missing)
      else do
        put (Path.text place ++ "\n")
        return none
    | .error problem => return some (plainly path problem)
  forEach a.others show_
where
  /-- What stands against a path, after its name. -/
  plainly (path : String) (problem : Problem) : String :=
    named path ++ ": " ++ problem.text

/-- Creates a file or a directory of a new name. -/
def mktemp : Utility := fun arguments => do
  let a ← readArguments
    { letters := "dqutp:", names := [("directory", 'd'), ("dry-run", 'u'), ("tmpdir", 'p')] } arguments
  let m ← get
  let template := a.others.headD "/tmp/tmp.XXXXXXXXXX"
  let marks := (template.toList.reverse.takeWhile (· == 'X')).length
  if marks < 3 then giveUp ("too few X's in template " ++ shellQuoted template)
  let ds := Nat.toDigits 36 (Nat.pow 36 marks + m.world.lastProcess * 48611)
  let letters := (ds.reverse.take marks).map fun c => if c.isAlphanum then c else 'q'
  let path := String.ofList (template.toList.take (template.length - marks) ++ letters)
  match ← lookUp path false with
  | .ok (place, none) => do
    let node : Node := if a.has 'd' then .directory else .file ""
    if !a.has 'u' then
      changeDisk fun d => d.put place ⟨node, if a.has 'd' then 0o700 else 0o600, m.clock⟩
    put (path ++ "\n")
    return 0
  | .ok (_, some _) => giveUp ("failed to create file via template " ++ shellQuoted template ++
      ": " ++ Problem.exists.text)
  | .error problem =>
    giveUp ("failed to create file via template " ++ shellQuoted template ++ ": " ++
      problem.text)

end RouteKeeper.Shell.Utility
