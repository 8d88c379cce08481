import RouteKeeper.Shell.Builtin.Writing
import RouteKeeper.Shell.Utility.Basic

/-!
# Programs for names

The programs that take paths apart, write texts, or tell who and where they are.
-/

namespace RouteKeeper.Shell.Utility

/-! ## Paths -/

/-- A path without the slashes at its end. -/
def withoutSlashes (cs : List Char) : List Char :=
  (cs.reverse.dropWhile (· == '/')).reverse

/-- The last part of a path, without an ending if it has more than that. -/
def lastPart (path ending : String) : String :=
  let cs := withoutSlashes path.toList
  if cs.isEmpty then (if path.isEmpty then "" else "/")
  else
    let name := (cs.reverse.takeWhile (· != '/')).reverse
    let cut := name.take (name.length - ending.length)
    if !ending.isEmpty && !cut.isEmpty && name == cut ++ ending.toList then String.ofList cut
    else String.ofList name

/-- A path without its last part. -/
def firstPart (path : String) : String :=
  let cs := withoutSlashes path.toList
  if cs.isEmpty then (if path.isEmpty then "." else "/")
  else if !cs.contains '/' then "."
  else
    let front := withoutSlashes (cs.reverse.dropWhile (· != '/')).reverse
    if front.isEmpty then "/" else String.ofList front

/-- Writes the last parts of paths. -/
def basename : Utility := fun arguments => do
  let a ← readArguments
    { letters := "as:z", names := [("multiple", 'a'), ("suffix", 's'), ("zero", 'z')], mixed := false }
    arguments
  let ends := if a.has 'z' then "\x00" else "\n"
  match a.others with
  | [] => refuse "missing operand"
  | path :: more => do
    if a.has 'a' || a.has 's' then
      put (String.join (a.others.map fun p =>
        lastPart p ((a.value? 's').getD "") ++ ends))
    else do
      if 1 < more.length then
        refuse ("extra operand " ++ quoted (more.getD 1 ""))
      put (lastPart path (more.headD "") ++ ends)
    return 0

/-- Writes paths without their last parts. -/
def dirname : Utility := fun arguments => do
  let a ← readArguments { letters := "z", names := [("zero", 'z')] } arguments
  if a.others.isEmpty then refuse "missing operand"
  let ends := if a.has 'z' then "\x00" else "\n"
  put (String.join (a.others.map fun p => firstPart p ++ ends))
  return 0

/-- Writes the directory. -/
def pwd : Utility := fun arguments => do
  let a ← readArguments { letters := "LP" } arguments
  let m ← get
  put ((if a.has 'L' then m.directory else Path.text m.place) ++ "\n")
  return 0

/-! ## Texts -/

/-- The character after a backslash in what `echo` writes; none ends the text. -/
def echoEscapes : Nat → List Char → List Char × Bool
  | _, [] => ([], false)
  | 0, _ => ([], false)
  | fuel + 1, '\\' :: c :: cs =>
    let goOn (d : Char) (rest : List Char) : List Char × Bool :=
      let (more, ended) := echoEscapes fuel rest
      (d :: more, ended)
    match c with
    | 'c' => ([], true)
    | 'e' => goOn '\x1b' cs
    | '0' =>
      let ds := (cs.take 3).takeWhile fun d => '0' ≤ d && d ≤ '7'
      goOn (Char.ofNat (Integer.valueIn 8 ds % 256)) (cs.drop ds.length)
    | 'x' =>
      let ds := (cs.take 2).takeWhile fun d => Pattern.isIn "xdigit" d
      if ds.isEmpty then
        let (more, ended) := echoEscapes fuel cs
        ('\\' :: 'x' :: more, ended)
      else goOn (Char.ofNat (Integer.valueIn 16 ds)) (cs.drop ds.length)
    | c =>
      match Escape.ofLetter? c with
      | some d => goOn d cs
      | none =>
        let (more, ended) := echoEscapes fuel cs
        ('\\' :: c :: more, ended)
  | fuel + 1, c :: cs =>
    let (more, ended) := echoEscapes fuel cs
    (c :: more, ended)

/-- Writes its arguments with blanks between them. -/
def echo : Utility := fun arguments => do
  let isOption (x : String) : Bool :=
    x.startsWith "-" && 1 < x.length && (x.toList.drop 1).all "neE".toList.contains
  let letters := ((arguments.takeWhile isOption).flatMap fun x => x.toList.drop 1)
  let text := " ".intercalate (arguments.dropWhile isOption)
  let escapes := (letters.filter (· != 'n')).getLast? = some 'e'
  let (cs, ended) := if escapes then echoEscapes text.length text.toList else (text.toList, false)
  put (String.ofList cs ++ if letters.contains 'n' || ended then "" else "\n")
  return 0

/-- Writes arguments by a format. -/
def printf : Utility := fun arguments => do
  let arguments := if arguments.head? = some "--" then arguments.tail else arguments
  match arguments with
  | [] => refuse "missing operand"
  | format :: rest => do
    let (text, complaints, status) := Printf.write format rest
    for complaint in complaints do
      complain complaint
    put text
    return min status 1

/-- Decides a condition. -/
def test (bracketed : Bool) : Utility := fun arguments => do
  match Condition.decide (Builtin.answers (← get)) bracketed arguments with
  | .ok decision => return if decision then 0 else 1
  | .error complaint => do
    let start := "Illegal number: "
    let x := String.ofList (complaint.toList.drop start.length)
    complain (if complaint.startsWith start then "invalid integer " ++ quoted x else complaint)
    return 2

/-! ## Users and hosts -/

/-- Tells who carries out the program. -/
def whoami : Utility := fun _ => do
  put "root\n"
  return 0

/-- Tells by which numbers and names its user is known. -/
def id : Utility := fun arguments => do
  let a ← readArguments
    { letters := "agGnruzZ"
      names := [("user", 'u'), ("group", 'g'), ("groups", 'G'), ("name", 'n'), ("real", 'r')] }
    arguments
  let isOne := a.has 'u' || a.has 'g' || a.has 'G'
  put (if !isOne then "uid=0(root) gid=0(root) groups=0(root)\n"
    else if a.has 'n' then "root\n" else "0\n")
  return 0

/-- Tells the kind of the host. -/
def uname : Utility := fun arguments => do
  let a ← readArguments
    { letters := "asnrvmpio", names := [("kernel-name", 's'), ("operating-system", 'o')] } arguments
  put (if a.has 'o' && !a.has 's' then "GNU/Linux\n" else "Linux\n")
  return 0

/-- Writes the values of variables, or all of them. -/
def printenv : Utility := fun arguments => do
  let a ← readArguments { letters := "0", mixed := false } arguments 2
  let seen := (← get).seen
  if a.others.isEmpty then do
    put (textOfLines ((inCells 39 seen.reverse).map fun (x, v) => x ++ "=" ++ v))
    return 0
  else do
    put (textOfLines (a.others.filterMap fun x => seen.lookup x))
    return if a.others.all fun x => (seen.lookup x).isSome then 0 else 1

end RouteKeeper.Shell.Utility
