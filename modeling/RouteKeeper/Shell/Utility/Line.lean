import RouteKeeper.Shell.Regex
import RouteKeeper.Shell.Utility.Stream

/-!
# Programs that look at lines

The programs that find lines, compare neighbouring ones, cut parts out of them, join
them and number them.
-/

namespace RouteKeeper.Shell.Utility

/-! ## Neighbouring lines -/

/-- Runs of lines with the same key, with their lengths. -/
def runsOf (key : String → String) : List String → List (String × Nat)
  | [] => []
  | l :: rest =>
    match runsOf key rest with
    | (m, n) :: more => if key l == key m then (l, n + 1) :: more else (l, 1) :: (m, n) :: more
    | [] => [(l, 1)]

/-- Writes one of each run of lines that are the same. -/
def uniq : Utility := fun arguments => do
  let a ← readArguments
    { letters := "cdiuDf:s:w:z"
      names := [("count", 'c'), ("repeated", 'd'), ("ignore-case", 'i'), ("unique", 'u'),
        ("skip-fields", 'f'), ("skip-chars", 's'), ("check-chars", 'w')] } arguments
  let number (c : Char) : Option Nat := (a.value? c).bind natural?
  let key (l : String) : String :=
    let passField (cs : List Char) : List Char := (cs.dropWhile isBlank).dropWhile (!isBlank ·)
    let cs := Nat.repeat passField ((number 'f').getD 0) l.toList
    let cs := cs.drop ((number 's').getD 0)
    let cs := match number 'w' with
      | some n => cs.take n
      | none => cs
    String.ofList (if a.has 'i' then cs.map Char.toLower else cs)
  let text ← match ← contents (a.others.headD "-") with
    | .ok text => pure text
    | .error problem => giveUp (plainly (a.others.headD "-") problem)
  let isKept (n : Nat) : Bool := (!a.has 'd' || 1 < n) && (!a.has 'u' || n = 1)
  let line : String × Nat → String := fun (l, n) =>
    (if a.has 'c' then rightAligned 7 (Text.decimal n) ++ " " else "") ++ l
  let runs := (runsOf key (linesOf text)).filter fun (_, n) => isKept n
  put (textOfLines (runs.map line))
  return 0

/-! ## Parts of lines -/

/-- The positions that a list of ranges means: pairs of first and last ones. -/
def rangesOf? (s : String) : Option (List (Nat × Option Nat)) :=
  (s.toList.splitOn ',').mapM fun cs =>
    match cs.span (· != '-') with
    | (low, []) =>
      (natural? (String.ofList low)).bind fun n => if n = 0 then none else some (n, some n)
    | (low, _ :: high) =>
      let first := if low.isEmpty then some 1 else natural? (String.ofList low)
      let last := if high.isEmpty then some none else (natural? (String.ofList high)).map some
      if low.isEmpty && high.isEmpty then none
      else
        match first, last with
        | some (m + 1), some last => if last.any (· < m + 1) then none else some (m + 1, last)
        | _, _ => none

/-- Whether a position is in one of some ranges. -/
def isInRanges (ranges : List (Nat × Option Nat)) (n : Nat) : Bool :=
  ranges.any fun (low, high) => low ≤ n && high.all (n ≤ ·)

/-- The items at the positions of ranges. -/
def selected {α : Type} (ranges : List (Nat × Option Nat)) (complements : Bool) (xs : List α) :
    List α :=
  (xs.zipIdx.filter fun (_, i) => isInRanges ranges (i + 1) != complements).map (·.1)

/-- Writes parts of the lines of files. -/
def cut : Utility := fun arguments => do
  let a ← readArguments
    { letters := "b:c:d:f:nsO:C"
      names := [("bytes", 'b'), ("characters", 'c'), ("delimiter", 'd'), ("fields", 'f'),
        ("only-delimited", 's'), ("output-delimiter", 'O'), ("complement", 'C')] } arguments
  let lists := a.options.filter fun (c, _) => "bcf".toList.contains c
  let (kind, list) ← match lists with
    | [] => refuse "you must specify a list of bytes, characters, or fields"
    | [one] => pure one
    | _ => refuse "only one list may be specified"
  let delimiter := (a.value? 'd').getD "\t"
  if 1 < delimiter.length then refuse "the delimiter must be a single character"
  if kind != 'f' && a.has 'd' then
    refuse "an input delimiter may be specified only when operating on fields"
  if kind != 'f' && a.has 's' then
    refuse ("suppressing non-delimited lines makes sense\n\tonly when operating on fields")
  let ranges ← match rangesOf? list with
    | some ranges => pure ranges
    | none =>
      let wrong := ((partsAt ',' list).find? fun x => (rangesOf? x).isNone).getD ""
      let letters := wrong.toList.dropWhile fun c => c.isDigit || c == '-'
      if !letters.isEmpty then
        refuse ((if kind == 'f' then "invalid field value " else
          "invalid byte/character position ") ++ quoted (String.ofList letters))
      else if wrong == "-" then refuse "invalid range with no endpoint: -"
      else if (partsAt '-' wrong).any fun x => x.isEmpty || x.toList.any (· != '0') then
        refuse "invalid decreasing range"
      else
        refuse ((if kind == 'f' then "fields" else "byte/character positions") ++
          " are numbered from 1")
  let separator := delimiter.toList.headD '\x00'
  let between := (a.value? 'O').getD delimiter
  let complements := a.has 'C'
  let line (l : String) : Option String :=
    if kind == 'f' then
      let fields := partsAt separator l
      if fields.length = 1 then (if a.has 's' then none else some l)
      else some (between.intercalate (selected ranges complements fields))
    else some (String.ofList (selected ranges complements l.toList))
  withEachPart plainly a.others fun _ text =>
    put (textOfLines ((linesOf text).filterMap line))

/-- The separators that a text names. -/
def separatorsOf : List Char → List String
  | [] => []
  | '\\' :: c :: rest =>
    let text := match c with
      | 'n' => "\n"
      | 't' => "\t"
      | '0' => ""
      | c => String.singleton c
    text :: separatorsOf rest
  | c :: rest => String.singleton c :: separatorsOf rest

/-- Texts with separators between them, which are used in turn. -/
def joinedBy (separators : List String) (texts : List String) : String :=
  match texts with
  | [] => ""
  | first :: rest =>
    first ++ String.join (rest.zipIdx.map fun (x, i) =>
      separators.getD (i % max separators.length 1) "" ++ x)

/-- Joins the lines of files. -/
def paste : Utility := fun arguments => do
  let a ← readArguments
    { letters := "d:sz", names := [("delimiters", 'd'), ("serial", 's')] } arguments
  let separators := separatorsOf ((a.value? 'd').getD "\t").toList
  let mut columns : List (List String) := []
  for path in if a.others.isEmpty then ["-"] else a.others do
    match ← contents path with
    | .ok text => columns := columns ++ [linesOf text]
    | .error problem => giveUp (plainly path problem)
  let paths := if a.others.isEmpty then ["-"] else a.others
  let fromInput := (paths.filter (· == "-")).length
  let shared := (columns.zip paths).filterMap fun (ls, p) => if p == "-" then some ls else none
  let all := shared.headD []
  let deal (i : Nat) : List String :=
    (all.zipIdx.filter fun (_, j) => j % max fromInput 1 = i).map (·.1)
  let dealt := ((columns.zip paths).foldl (fun (soFar, i) (ls, p) =>
    if p == "-" && 1 < fromInput && !a.has 's' then (soFar ++ [deal i], i + 1)
    else (soFar ++ [ls], i)) (([] : List (List String)), 0)).1
  if a.has 's' then put (textOfLines (columns.map (joinedBy separators)))
  else
    let height := (dealt.map (·.length)).foldl max 0
    put (textOfLines ((List.range height).map fun i =>
      joinedBy separators (dealt.map fun ls => ls.getD i "")))
  return 0

/-- Numbers the lines of files. -/
def nl : Utility := fun arguments => do
  let a ← readArguments
    { letters := "b:s:w:v:i:n:", names := [("body-numbering", 'b'), ("number-separator", 's'),
        ("number-width", 'w'), ("starting-line-number", 'v'), ("line-increment", 'i'),
        ("number-format", 'n')] } arguments
  let width := ((a.value? 'w').bind natural?).getD 6
  let separator := (a.value? 's').getD "\t"
  let step := ((a.value? 'i').bind integer?).getD 1
  let style := (a.value? 'b').getD "t"
  let format := (a.value? 'n').getD "rn"
  let number (n : Int) : String :=
    let text := Text.decimalInt n
    let fill := width - text.length
    if format == "ln" then text ++ String.ofList (List.replicate fill ' ')
    else if format == "rz" then String.ofList (List.replicate fill '0') ++ text
    else rightAligned width text
  let mut text := ""
  for path in if a.others.isEmpty then ["-"] else a.others do
    match ← contents path with
    | .ok more => text := text ++ more
    | .error problem => giveUp (plainly path problem)
  let mut n := ((a.value? 'v').bind integer?).getD 1
  let blanks := String.ofList (List.replicate (width + separator.length) ' ')
  for l in linesOf text do
    if style == "a" || (style == "t" && !l.isEmpty) then do
      put (number n ++ separator ++ l ++ "\n")
      n := n + step
    else put (blanks ++ l ++ "\n")
  return 0

/-! ## Finding lines -/

/-- What is looked for, and how. -/
structure Search where
  patterns : List Regex
  ignoresCase : Bool
  /-- The match is all of the line. -/
  wholeLine : Bool
  /-- The match is a word. -/
  wholeWord : Bool

/-- A text taken for itself. -/
def literal (cs : List Char) : Regex :=
  cs.foldr (fun c r => .sequence (.exactly c) r) .empty

/-- The matches of a line from a place on, one after the other. -/
def Search.from (s : Search) : Nat → Regex.Place → List (List Char)
  | 0, _ => []
  | fuel + 1, p =>
    let found := s.patterns.filterMap fun r => Regex.search r s.ignoresCase p
    let first := found.foldl (fun best m =>
      match best with
      | some (b : Regex.Match) =>
        if m.before.length < b.before.length ||
            (m.before.length = b.before.length && b.text.length < m.text.length) then some m
        else best
      | none => some m) none
    match first with
    | none => []
    | some m =>
      if m.text.isEmpty then
        match m.after.next with
        | none => [[]]
        | some (_, q) => [] :: s.from fuel q
      else m.text :: s.from fuel m.after

/-- The regular expressions as they are used: for whole lines or words they are tied to their
borders. -/
def Search.make (patterns : List Regex) (ignoresCase wholeLine wholeWord : Bool) : Search :=
  let tied (r : Regex) : Regex :=
    if wholeLine then .sequence .start (.sequence r .finish)
    else if wholeWord then
      .sequence (.apart true) (.sequence r (.apart false))
    else r
  { patterns := patterns.map tied, ignoresCase, wholeLine, wholeWord }

/-- Whether a line has a match. -/
def Search.finds (s : Search) (line : List Char) : Bool :=
  s.patterns.any fun r => (Regex.search r s.ignoresCase { rest := line }).isSome

/-- What is wrong with the way in which `grep` was called. -/
def grepUsage {α : Type} : Act α := do
  Act.sayLine "Usage: grep [OPTION]... PATTERNS [FILE]..."
  sayHint
  quit 2

/-- The regular expressions that the patterns of `grep` spell. -/
def readPatterns (a : Arguments) (texts : List String) : Act (List Regex) :=
  (texts.flatMap fun t => partsAt '\n' t).mapM fun t =>
    if a.has 'F' then pure (literal t.toList)
    else
      let extended := a.has 'E'
      if t.startsWith "[:" && t.endsWith ":]" then
        giveUp "character class syntax is [[:space:]], not [:space:]" 2
      else
        match Regex.ofText extended t.toList with
        | .ok r => do
          if extended then
            if let .ok ls := Regex.lexemes true (t.length + 1) t.toList then
              for c in Regex.idleSigns true ls do
                complain ("warning: " ++ String.singleton c ++ " at start of expression")
          return r
        | .error complaint => giveUp complaint 2

/-- What `grep` writes of a line that it has found. -/
def foundText (a : Arguments) (s : Search) (title : String) (number : Nat) (line : String) : String :=
  let start := title ++ if a.has 'n' then Text.decimal number ++ ":" else ""
  if a.has 'o' then
    let parts := (s.from (line.length + 1) { rest := line.toList }).filter (!·.isEmpty)
    if a.has 'v' then "" else String.join (parts.map fun cs => start ++ String.ofList cs ++ "\n")
  else start ++ line ++ "\n"

/-- Writes the lines of files in which patterns are found. -/
def grep : Utility := fun arguments => do
  let a ← match ({ letters := "EFGPe:f:ivwxcm:noqshHLlrRzaIA:B:C:"
                   names := [("extended-regexp", 'E'), ("fixed-strings", 'F'), ("regexp", 'e'),
                     ("ignore-case", 'i'), ("invert-match", 'v'), ("word-regexp", 'w'),
                     ("line-regexp", 'x'), ("count", 'c'), ("max-count", 'm'), ("line-number", 'n'),
                     ("only-matching", 'o'), ("quiet", 'q'), ("silent", 'q'), ("no-messages", 's'),
                     ("no-filename", 'h'), ("with-filename", 'H'), ("files-with-matches", 'l'),
                     ("files-without-match", 'L'), ("text", 'a')] } : Grammar).read
      (arguments.length + 1) arguments with
    | .ok a => pure a
    | .error complaint => do
      complain complaint
      grepUsage
  let given := (a.options.filter (·.1 == 'e')).map (·.2)
  let (texts, paths) ← match given, a.others with
    | [], [] => grepUsage
    | [], t :: paths => pure ([t], paths)
    | given, paths => pure (given, paths)
  let patterns ← readPatterns a texts
  let s := Search.make patterns (a.has 'i') (a.has 'x') (a.has 'w')
  let most := (a.value? 'm').bind natural?
  let titled := !a.has 'h' && (a.has 'H' || 1 < paths.length)
  let mut any := false
  let mut failed := false
  for path in if paths.isEmpty then ["-"] else paths do
    match ← input path with
    | .error problem => do
      if !a.has 's' then complain (path ++ ": " ++ problem.text)
      failed := true
    | .ok i => do
      let shown := if path == "-" then "(standard input)" else path
      let title := if titled then shown ++ ":" else ""
      let isBinary := i.text.contains '\x00' && !a.has 'a'
      let hits := ((linesOf i.text).zipIdx).filter fun (l, _) => s.finds l.toList != a.has 'v'
      let hits := match most with
        | some n => hits.take n
        | none => hits
      let isEnough := !hits.isEmpty && (a.has 'q' || a.has 'l' || most.any (· ≤ hits.length))
      let report : Option (Act Unit) :=
        if a.has 'q' then none
        else if a.has 'c' then some do
          let _ ← i.whole
          put (title ++ Text.decimal hits.length ++ "\n") 2
        else if a.has 'l' || a.has 'L' then
          if hits.isEmpty == a.has 'L' then some (put (shown ++ "\n") 2) else none
        else if isBinary then
          if hits.isEmpty then none
          else some (Act.sayLine ("grep: " ++ shown ++ ": binary file matches"))
        else
          some (put (String.join (hits.map fun (l, n) => foundText a s title (n + 1) l)) 2)
      report.getD (pure ())
      if !isEnough then
        let _ ← i.whole
      if !hits.isEmpty then any := true
      if any && a.has 'q' then return 0
  return if failed then 2 else if any then 0 else 1

end RouteKeeper.Shell.Utility
