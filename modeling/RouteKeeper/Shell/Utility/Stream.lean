import RouteKeeper.Shell.Utility.Basic

/-!
# Programs that pass on their input

The programs that write their input or files as they are, or the first or last part of
them, or how much they hold.
-/

namespace RouteKeeper.Shell.Utility

/-- What stands against a file, after its name. -/
def plainly (path : String) (problem : Problem) : String :=
  named path ++ ": " ++ problem.text

/-! ## Whole files -/

/-- A character as `cat` shows it: what cannot be shown has a caret or `M-` in front. -/
def visible (c : Char) : List Char :=
  let low (n : Nat) : List Char :=
    if n < 32 then ['^', Char.ofNat (n + 64)] else if n = 127 then ['^', '?'] else [Char.ofNat n]
  if c == '\n' || c == '\t' then [c]
  else if c.toNat < 128 then low c.toNat
  else 'M' :: '-' :: low (c.toNat - 128)

/-- A text at the right of a column. -/
def rightAligned (width : Nat) (s : String) : String :=
  String.ofList (List.replicate (width - s.length) ' ') ++ s

/-- The lines of a text with their ends; the last one may have none. -/
def rawLines (text : String) : List String :=
  let ls := linesOf text
  if isOpen text then (ls.dropLast.map (· ++ "\n")) ++ ls.getLast?.toList
  else ls.map (· ++ "\n")

/-- The lines as `cat` writes them; `number` is that of the next line, and `blank` says that the line
before is empty. -/
def shownLines (a : Arguments) : List String → (number : Nat) → (blank : Bool) → List String × Nat × Bool
  | [], number, blank => ([], number, blank)
  | l :: rest, number, blank =>
    let isBlankLine := l == "\n"
    if a.has 's' && isBlankLine && blank then shownLines a rest number blank
    else
      let isNumbered := if a.has 'b' then !isBlankLine else a.has 'n'
      let shows := a.has 'v' || a.has 'A' || a.has 'e' || a.has 't'
      let tabs := a.has 'T' || a.has 'A' || a.has 't'
      let ends := a.has 'E' || a.has 'A' || a.has 'e'
      let cs := l.toList.flatMap fun c =>
        if c == '\t' && tabs then ['^', 'I']
        else if c == '\n' && ends then ['$', '\n']
        else if shows then visible c else [c]
      let start := if isNumbered then rightAligned 6 (Text.decimal number) ++ "\t" else ""
      let (more, last) := shownLines a rest (if isNumbered then number + 1 else number) isBlankLine
      ((start ++ String.ofList cs) :: more, last)

/-- Writes its input, or the files that are named. -/
def cat : Utility := fun arguments => do
  let a ← readArguments { letters := "AbeEnstTuv", names := [("show-all", 'A'), ("number-nonblank", 'b'), ("show-ends", 'E'), ("number", 'n'), ("squeeze-blank", 's'), ("show-tabs", 'T'), ("show-nonprinting", 'v')] } arguments
  if ((← get).descriptors.lookup 1).isNone then
    giveUp ("standard output: " ++ Problem.badDescriptor.text)
  let mut status := 0
  let mut number := 1
  let mut blank := false
  for path in if a.others.isEmpty then ["-"] else a.others do
    match ← input path with
    | .error problem => do
      complain (plainly path problem)
      if path == "-" && problem = .badDescriptor then
        giveUp "closing standard input: Bad file descriptor"
      status := 1
    | .ok i => do
      if a.options.isEmpty then put i.text
      else
        let (ls, last, isBlankLine) := shownLines a (rawLines i.text) number blank
        put (String.join ls)
        number := last
        blank := isBlankLine
      let _ ← i.whole
  return status

/-- Writes its input to its output and to files. -/
def tee : Utility := fun arguments => do
  let a ← readArguments { letters := "aip", names := [("append", 'a'), ("ignore-interrupts", 'i')] } arguments
  let direction : Direction := if a.has 'a' then .append else .overwrite
  let mut status := 0
  let mut numbers : List Nat := []
  for path in a.others do
    match openFile (← get) direction path with
    | .ok (m, number) => do
      set m
      numbers := numbers ++ [number]
    | .error problem => do
      complain (plainly path problem)
      status := 1
  match ← input "-" with
  | .error problem => do
    complain ("'standard input': " ++ problem.text)
    return 1
  | .ok i => do
    for number in numbers do
      modify fun m => m.lead 9 (some number)
      let _ ← Act.write 9 i.text
    put i.text
    let _ ← i.whole
    return status

/-- Writes the lines of files from the last one to the first one. -/
def tac : Utility := fun arguments => do
  let a ← readArguments { letters := "bs:r" } arguments
  withEach (fun path problem =>
      if problem = .isDirectory then named path ++ ": read error: " ++ problem.text
      else "failed to open " ++ shellQuoted path ++ " for reading: " ++ problem.text) a.others
    fun _ i => do
      put (String.join (rawLines (← i.whole)).reverse)

/-- Writes the characters of each line from the last one to the first one. -/
def rev : Utility := fun arguments => do
  withEachPart (fun path problem => "cannot open " ++ path ++ ": " ++ problem.text) arguments
    fun _ text => do
      let turned (l : String) : String :=
        let cs := l.toList
        if l.endsWith "\n" then String.ofList (cs.dropLast.reverse ++ ['\n']) else String.ofList cs.reverse
      put (String.join ((rawLines text).map turned))

/-! ## Parts -/

/-- The number of units that a text names; a letter at its end multiplies it. -/
def amount? (s : String) : Option Nat :=
  let (ds, unit) := s.toList.span Char.isDigit
  let factor : Option Nat := match String.ofList unit with
    | "" => some 1
    | "b" => some 512
    | "k" | "K" | "KiB" => some 1024
    | "kB" | "KB" => some 1000
    | "m" | "M" | "MiB" => some (1024 * 1024)
    | "MB" => some 1000000
    | "G" | "GiB" => some (1024 * 1024 * 1024)
    | _ => none
  if ds.isEmpty then none else factor.map (Integer.valueIn 10 ds * ·)

/-- What is written of an input: so many lines or characters. -/
structure Portion where
  ofCharacters : Bool := false
  count : Nat := 10
  /-- A minus sign or a plus sign in front of the count. -/
  sign : Option Char := none

/-- Reads what is to be written of an input. -/
def portionOf (ofCharacters : Bool) (s : String) : Act Portion := do
  let (sign, rest) := match s.toList with
    | '-' :: rest => (some '-', String.ofList rest)
    | '+' :: rest => (some '+', String.ofList rest)
    | _ => (none, s)
  match amount? rest with
  | some count => return { ofCharacters, count, sign }
  | none =>
    giveUp ("invalid number of " ++ (if ofCharacters then "bytes" else "lines") ++ ": " ++
      quoted rest)

/-- The portion and the other arguments of a program that writes one. A number may stand in place of
the options. -/
def readPortion (arguments : List String) : Act (Portion × Arguments) := do
  let arguments := match arguments with
    | x :: rest =>
      match x.toList with
      | '-' :: c :: cs =>
        if c.isDigit then
          let (ds, letters) := (c :: cs).span Char.isDigit
          let more := letters.map fun l => "-" ++ String.singleton l
          more ++ ["-n", String.ofList ds] ++ rest
        else arguments
      | _ => arguments
    | [] => []
  let a ← readArguments
    { letters := "c:n:qvzf"
      names := [("bytes", 'c'), ("lines", 'n'), ("quiet", 'q'), ("silent", 'q'), ("verbose", 'v'),
        ("zero-terminated", 'z'), ("follow", 'f')] } arguments
  match (a.options.filter fun (c, _) => c == 'c' || c == 'n').getLast? with
  | some (c, value) => return (← portionOf (c == 'c') value, a)
  | none => return ({}, a)

/-- The units of a text. -/
def Portion.units (p : Portion) (text : String) : List String :=
  if p.ofCharacters then text.toList.map String.singleton else rawLines text

/-- Writes parts of files, each with its name if there are several. -/
def writeParts (a : Arguments) (act : (path : String) → Act Unit) : Act Nat := do
  let paths := if a.others.isEmpty then ["-"] else a.others
  let titled := !a.has 'q' && (a.has 'v' || 1 < paths.length)
  let mut status := 0
  let mut isFirst := true
  for path in paths do
    let title := if path == "-" then "standard input" else path
    let header := (if isFirst then "" else "\n") ++ "==> " ++ title ++ " <==\n"
    let m ← get
    let problem : Option Problem :=
      if path == "-" then none
      else
        match m.world.disk.find m.place path with
        | .error problem => some problem
        | .ok (_, none) => some .missing
        | .ok (_, some _) => none
    match problem with
    | some problem => do
      complain ("cannot open " ++ shellQuoted path ++ " for reading: " ++ problem.text)
      status := 1
    | none => do
      if titled then put header
      isFirst := false
      if m.world.disk.isDirectory m.place path then do
        complain ("error reading " ++ shellQuoted path ++ ": Is a directory")
        status := 1
      else act path
  return status

/-- Reads so many lines from a descriptor, and no more. -/
def readLines : Nat → Act String
  | 0 => return ""
  | n + 1 => do
    match ← Act.readLine 0 with
    | .ok (line, true) => return String.ofList line ++ "\n" ++ (← readLines n)
    | .ok (line, false) => return String.ofList line
    | .error _ => return ""

/-- Whether the standard input is a file, of which what is not needed can be left. -/
def readsFile : Act Bool := do
  match (← get).channel? 0 with
  | some (.file ..) => return true
  | _ => return false

/-- Writes the first part of files. -/
def head : Utility := fun arguments => do
  let (p, a) ← readPortion arguments
  writeParts a fun path => do
    if path == "-" && p.sign != some '-' && !p.ofCharacters && (← readsFile) then
      put (← readLines p.count)
    else
      match ← input path (max endless (if p.ofCharacters then p.count else 0)) with
      | .error problem =>
        giveUp ("error reading " ++ shellQuoted path ++ ": " ++ problem.text)
      | .ok i =>
        if p.sign = some '-' then do
          let units := p.units (← i.whole)
          put (String.join (units.take (units.length - p.count)))
        else do
          let part := if p.ofCharacters then String.ofList (i.text.toList.take p.count)
            else String.join ((rawLines i.text).take p.count)
          let isEnough :=
            if p.ofCharacters then p.count ≤ part.length
            else p.count ≤ (part.toList.filter (· == '\n')).length
          if !isEnough then
            let _ ← i.whole
          put part

/-- Writes the last part of files. -/
def tail : Utility := fun arguments => do
  let (p, a) ← readPortion arguments
  writeParts a fun path => do
    match ← input path with
    | .error problem =>
      giveUp ("error reading " ++ shellQuoted path ++ ": " ++ problem.text)
    | .ok i => do
      let units := p.units (← i.whole)
      let passed := if p.sign = some '+' then p.count - 1 else units.length - p.count
      put (String.join (units.drop passed))

/-! ## Counts -/

/-- How much a text holds. -/
structure Count where
  lines : Nat := 0
  words : Nat := 0
  characters : Nat := 0
  longest : Nat := 0

/-- How much a text holds. -/
def Count.of (text : String) : Count :=
  let isGap (c : Char) : Bool := Pattern.isIn "space" c
  let cs := text.toList
  let words := ((none :: cs.map some).zip cs).filter fun (before, c) =>
    !isGap c && (before.all isGap)
  { lines := (cs.filter (· == '\n')).length
    words := words.length
    characters := cs.length
    longest := ((linesOf text).map (·.length)).foldl max 0 }

/-- What two texts hold together. -/
def Count.add (a b : Count) : Count :=
  { lines := a.lines + b.lines
    words := a.words + b.words
    characters := a.characters + b.characters
    longest := max a.longest b.longest }

/-- Whether a path leads to a file whose size is known. -/
def hasSize (m : Machine) (path : String) : Bool :=
  if path == "-" then
    match m.channel? 0 with
    | some (.file ..) => true
    | _ => false
  else
    match m.world.disk.node? m.place path with
    | some (.file _) | some (.program _) => true
    | _ => false

/-- Writes how many lines, words and characters files hold. -/
def wc : Utility := fun arguments => do
  let a ← readArguments
    { letters := "clmwL"
      names := [("bytes", 'c'), ("chars", 'm'), ("lines", 'l'), ("words", 'w'),
        ("max-line-length", 'L')] } arguments
  let all := a.options.isEmpty
  let columns (k : Count) : List Nat :=
    (if all || a.has 'l' then [k.lines] else []) ++ (if all || a.has 'w' then [k.words] else []) ++
      (if a.has 'm' then [k.characters] else []) ++
      (if all || a.has 'c' then [k.characters] else []) ++ if a.has 'L' then [k.longest] else []
  let paths := if a.others.isEmpty then ["-"] else a.others
  let mut counts : List (String × Except Problem Count) := []
  let m ← get
  for path in paths do
    match ← contents path with
    | .ok text => counts := counts ++ [(path, .ok (Count.of text))]
    | .error .isDirectory => counts := counts ++ [(path, .error .isDirectory)]
    | .error problem => counts := counts ++ [(path, .error problem)]
  let sum := (counts.filterMap fun (_, k) => k.toOption).foldl Count.add {}
  let known := paths.filter (hasSize m)
  let least := if (paths.filter fun p => !hasSize m p &&
      (p == "-" || (m.world.disk.node? m.place p).isSome)).isEmpty then 1 else 7
  let sizes := ((counts.filter fun (p, _) => known.contains p).filterMap fun (_, k) =>
    k.toOption.map (·.characters)).foldl (· + ·) 0
  let width := if paths.length = 1 && (columns {}).length = 1 then 1
    else max least (Text.decimal sizes).length
  let line (k : Count) (title : String) : String :=
    " ".intercalate ((columns k).map fun n => rightAligned width (Text.decimal n)) ++
      (if title.isEmpty then "" else " " ++ title) ++ "\n"
  let mut status := 0
  for (path, k) in counts do
    let title := if a.others.isEmpty then "" else path
    match k with
    | .ok k => put (line k title)
    | .error problem => do
      complain (if path.isEmpty then "invalid zero-length file name" else plainly path problem)
      status := 1
      if problem = .isDirectory then put (line {} title)
  if 1 < paths.length then put (line sum "total")
  return status

/-! ## Endless and empty output -/

/-- Writes a line again and again. -/
def yes : Utility := fun arguments => do
  let arguments := if arguments.head? = some "--" then arguments.tail else arguments
  let line := (if arguments.isEmpty then "y" else " ".intercalate arguments) ++ "\n"
  let block := String.join (List.replicate (4096 / line.length + 1) line)
  for _ in List.range 4096 do
    put block
  throw .exhausted

/-- A time in millionths of a second. -/
def time? (s : String) : Option Nat :=
  let (whole, rest) := s.toList.span Char.isDigit
  let (part, rest) := match rest with
    | '.' :: rest => rest.span Char.isDigit
    | rest => ([], rest)
  let factor : Option Nat := match rest with
    | [] | ['s'] => some 1
    | ['m'] => some 60
    | ['h'] => some 3600
    | ['d'] => some 86400
    | _ => none
  let millionths := Integer.valueIn 10 ((part ++ List.replicate 6 '0').take 6)
  if whole.isEmpty && part.isEmpty then none
  else factor.map fun f => (Integer.valueIn 10 whole * 1000000 + millionths) * f

/-- Waits for some time. -/
def sleep : Utility := fun arguments => do
  let a ← readArguments { letters := "" } arguments
  if a.others.isEmpty then refuse "missing operand"
  let mut total := 0
  let mut wrong := false
  for x in a.others do
    match time? x with
    | some t => total := total + t
    | none => do
      complain ("invalid time interval " ++ quoted x)
      wrong := true
  if wrong then do
    sayHint
    quit 1
  Act.pass total
  return 0

end RouteKeeper.Shell.Utility
