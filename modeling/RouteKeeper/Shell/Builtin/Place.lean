import RouteKeeper.Shell.Builtin.Option

/-!
# Utilities for the surroundings of a shell

The utilities that change the directory, the modes of new files, and the limits of a
process.
-/

namespace RouteKeeper.Shell.Builtin

open Act (fail)

/-! ## Directories -/

/-- The name of a directory that a path leads to from another one, without dots. Two slashes at the
start are kept. -/
def joinedDirectory (directory path : String) : String :=
  let isAbsolute := path.startsWith "/"
  let base := if isAbsolute then path else directory ++ "/" ++ path
  let start := if path.startsWith "//" && !path.startsWith "///" then "//"
    else if !isAbsolute && directory.startsWith "//" then "//" else "/"
  let parts := (partsAt '/' base).foldl (fun soFar part =>
    if part == "" || part == "." then soFar
    else if part == ".." then soFar.dropLast
    else soFar ++ [part]) []
  start ++ "/".intercalate parts

/-- The directory of a name, if it is one. -/
def placeOf? (m : Machine) (name : String) : Option Path :=
  match m.world.disk.find m.place name with
  | .ok (place, some { node := .directory, .. }) => some place
  | _ => none

/-- The directories in which a directory is looked for, with a slash after each; one without a name
is the current one, and is the last one to be tried. -/
def candidates (m : Machine) (target : String) : List String :=
  let isPlain := target.startsWith "/" || target == "." || target == ".." ||
    target.startsWith "./" || target.startsWith "../"
  match if isPlain then none else m.value? "CDPATH" with
  | some paths => ((partsAt ':' paths).map fun p => if p.isEmpty then "" else p ++ "/") ++ [""]
  | none => [""]

/-- Changes the directory. The variables take note of the old and the new one. -/
def enter (directory : String) (place : Path) : Act Unit := do
  let m ← get
  set { m with directory, place }
  let exported := ((m.bindings.lookup "OLDPWD").map (·.exported)).getD false
  Act.setVariable "OLDPWD" (some m.directory) exported
  Act.setVariable "PWD" (some directory) true

/-- Whether the last of the given options is the one for directories without links. -/
def isPhysical (options : List (Char × String)) : Bool :=
  options.getLast?.map (·.1) = some 'P'

/-- Changes the directory. One that is found by the search path, or that is the old one, is named. -/
def changeDirectory : Builtin := fun arguments => do
  let (options, rest) ← options "LP" arguments
  let m ← get
  let given := match rest.head? with
    | none => (m.value? "HOME").getD ""
    | some "-" => (m.value? "OLDPWD").getD ""
    | some x => x
  let target := if given.isEmpty then "." else given
  let start := ((candidates m given).find? fun start => (placeOf? m (start ++ target)).isSome).getD ""
  let path := start ++ target
  let path := if isPhysical options then path else joinedDirectory m.directory path
  match placeOf? m path with
  | none => fail ("can't cd to " ++ target)
  | some place => do
    let directory := if isPhysical options then Path.text place else path
    enter directory place
    let isNamed := rest.head? = some "-" || !start.isEmpty
    return { output := if isNamed then directory ++ "\n" else "" }

/-- Writes the directory. -/
def printDirectory : Builtin := fun arguments => do
  let (options, _) ← options "LP" arguments
  let m ← get
  return { output := (if isPhysical options then Path.text m.place else m.directory) ++ "\n" }

/-! ## Modes -/

/-- A mode as octal digits. -/
def octalText (width n : Nat) : String :=
  let ds := Nat.toDigits 8 n
  String.ofList (List.replicate (width - ds.length) '0' ++ ds)

/-- The letters of the bits of one octal digit. -/
def digitLetters (n : Nat) : String :=
  (if n.testBit 2 then "r" else "") ++ (if n.testBit 1 then "w" else "") ++
    if n.testBit 0 then "x" else ""

/-- What a mask leaves to the owner, the group and others. -/
def maskLetters (mask : Nat) : String :=
  let left := 0o777 - mask
  "u=" ++ digitLetters (left / 64 % 8) ++ ",g=" ++ digitLetters (left / 8 % 8) ++ ",o=" ++
    digitLetters (left % 8)

/-- The bits that a letter for somebody stands for. -/
def positionOf? (c : Char) : Option Nat :=
  match c with
  | 'a' => some 0o111
  | 'u' => some 0o100
  | 'g' => some 0o010
  | 'o' => some 0o001
  | _ => none

/-- The bits of one digit that a letter for a permission stands for, given the mode before. -/
def permissionOf? (before : Nat) (c : Char) : Option Nat :=
  match c with
  | 'r' => some 4
  | 'w' => some 2
  | 'x' => some 1
  | 'u' => some (before / 64 % 8)
  | 'g' => some (before / 8 % 8)
  | 'o' => some (before % 8)
  | 'X' => some (if before &&& 0o111 = 0 then 0 else 1)
  | 's' => some 0
  | _ => none

/-- Applies clauses such as `u=rw` to a mode, if they can be read. -/
def applyClauses (before : Nat) : Nat → List Char → (mode positions : Nat) → Option Nat
  | 0, _, _, _ => none
  | _ + 1, [], mode, _ => some mode
  | fuel + 1, cs, mode, positions =>
    let (who, rest) := cs.span fun c => (positionOf? c).isSome
    let positions := (who.filterMap positionOf?).foldl (· ||| ·) positions
    let positions := if positions = 0 then 0o111 else positions
    match rest with
    | [] => some mode
    | sign :: rest =>
      let (what, rest) := rest.span fun c => (permissionOf? before c).isSome
      let bits := ((what.filterMap (permissionOf? before)).foldl (· ||| ·) 0) * positions
      let next (mode : Nat) : Option Nat :=
        match rest with
        | ',' :: rest => applyClauses before fuel rest mode 0
        | rest => applyClauses before fuel rest mode positions
      match sign with
      | '-' => next (mode &&& (0o777 - (bits &&& 0o777)))
      | '+' => next (mode ||| bits)
      | '=' => next (bits ||| (mode &&& (0o777 - (positions * 7 &&& 0o777))))
      | _ => none

/-- Sets the modes that files are not created with, or writes them. -/
def umask : Builtin := fun arguments => do
  let (options, rest) ← options "S" arguments
  let m ← get
  match rest with
  | [] =>
    return { output := (if options.isEmpty then octalText 4 m.mask else maskLetters m.mask) ++ "\n" }
  | x :: _ =>
    let cs := x.toList
    if (cs.head?.map Char.isDigit).getD false then do
      if !cs.all fun c => '0' ≤ c && c ≤ '7' then fail ("Illegal number: " ++ x)
      set { m with mask := Integer.valueIn 8 cs % 0o1000 }
      return {}
    else
      match applyClauses (0o777 - m.mask) (cs.length + 1) cs (0o777 - m.mask) 0 with
      | some mode => do
        set { m with mask := 0o777 - (mode &&& 0o777) }
        return {}
      | none => fail ("Illegal mode: " ++ x)

/-! ## Limits and times -/

/-- The limits of a process: the letters and the names. -/
def limitNames : List (Char × String) :=
  [('t', "time(seconds)"), ('f', "file(blocks)"), ('d', "data(kbytes)"), ('s', "stack(kbytes)"),
    ('c', "coredump(blocks)"), ('m', "memory(kbytes)"), ('l', "locked memory(kbytes)"),
    ('p', "process"), ('n', "nofiles"), ('v', "vmemory(kbytes)"), ('w', "locks"), ('r', "rtprio")]

/-- The limits that a host sets, and those up to which a process may raise them. -/
def hostLimit (letter : Char) : Limit :=
  match letter with
  | 's' => ⟨some 8192, none⟩
  | 'c' => ⟨some 0, none⟩
  | 'l' => ⟨some 8192, some 8192⟩
  | 'p' => ⟨some 128619, some 128619⟩
  | 'n' => ⟨some 20000, some 20000⟩
  | 'r' => ⟨some 0, some 0⟩
  | _ => ⟨none, none⟩

/-- A limit of a process. -/
def limitOf (m : Machine) (letter : Char) : Limit :=
  (m.limits.lookup letter).getD (hostLimit letter)

/-- A limit as it is written. -/
def limitText (limit : Option Nat) : String :=
  (limit.map Text.decimal).getD "unlimited"

/-- Whether a limit lets more than another one. -/
def isHigher (a b : Option Nat) : Bool :=
  match a, b with
  | _, none => false
  | none, some _ => true
  | some m, some n => n < m

/-- Writes the limits of a process, or sets one. -/
def ulimit : Builtin := fun arguments => do
  let (options, rest) ← options "HSatfdscmlpnvwr" arguments
  let letter := ((options.map (·.1)).filter fun c => !"HSa".toList.contains c).getLast?.getD 'f'
  let kind := ((options.map (·.1)).filter fun c => c == 'H' || c == 'S').getLast?
  let isAll := options.any (·.1 == 'a')
  let m ← get
  let shown (letter : Char) : String :=
    let l := limitOf m letter
    limitText (if kind = some 'H' then l.most else l.current)
  match rest with
  | [] =>
    if isAll then
      let line : Char × String → String := fun (letter, name) =>
        String.ofList (name.toList ++ List.replicate (20 - name.length) ' ') ++ " " ++ shown letter
      return { output := linesText (limitNames.map line) }
    else return { output := shown letter ++ "\n" }
  | x :: more => do
    if isAll || !more.isEmpty then fail "too many arguments"
    if x != "unlimited" && !x.toList.all Char.isDigit then fail "bad number"
    let value := if x == "unlimited" then none else some (Integer.valueIn 10 x.toList)
    let old := limitOf m letter
    let new : Limit :=
      ⟨if kind = some 'H' then old.current else value, if kind = some 'S' then old.most else value⟩
    if isHigher new.current new.most then fail "error setting limit (Invalid argument)"
    if isHigher new.most old.most then fail "error setting limit (Operation not permitted)"
    set { m with limits := (letter, new) :: m.limits.filter (·.1 != letter) }
    return {}

/-- Writes the times that the shell and its children took. -/
def times : Builtin := fun _ => do
  let line := "0m0.000000s 0m0.000000s"
  return { output := linesText [line, line] }

end RouteKeeper.Shell.Builtin
