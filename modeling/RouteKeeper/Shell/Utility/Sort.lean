import RouteKeeper.Shell.Utility.Stream
import RouteKeeper.Shell.Words

/-!
# Ordering lines

The program that writes lines in order: by all of a line, or by parts of it, as texts or
as numbers.
-/

namespace RouteKeeper.Shell.Utility

/-- How parts of lines are compared. -/
structure Manner where
  isReversed : Bool := false
  isNumeric : Bool := false
  /-- Letters of both cases are the same. -/
  folds : Bool := false
  /-- Blanks at the start do not count. -/
  skipsBlanks : Bool := false
  /-- Only blanks, letters and digits count. -/
  isDictionary : Bool := false
  deriving DecidableEq

/-- A part of a line by which it is ordered: the first and the last field, and characters in
them. -/
structure SortKey where
  first : Nat := 1
  firstCharacter : Nat := 1
  last : Option Nat := none
  lastCharacter : Nat := 0
  manner : Manner := {}

/-! ## Parts of lines -/

/-- The fields of a line: each begins with the blanks before it, unless a separator is given. -/
def fieldsOf (separator : Option Char) (line : List Char) : List (List Char) :=
  match separator with
  | some c => line.splitOn c
  | none => blankFields line.length line
where
  /-- The fields between blanks. -/
  blankFields : Nat → List Char → List (List Char)
    | 0, _ => []
    | _, [] => []
    | fuel + 1, cs =>
      let (blanks, rest) := cs.span isBlank
      let (text, rest) := rest.span (!isBlank ·)
      (blanks ++ text) :: blankFields fuel rest

/-- The part of a line that a key means. -/
def SortKey.part (k : SortKey) (separator : Option Char) (line : List Char) : List Char :=
  let fields := fieldsOf separator line
  let start (cs : List Char) : List Char := if k.manner.skipsBlanks then cs.dropWhile isBlank else cs
  let cut (fs : List (List Char)) : List Char :=
    (start (List.intercalate separator.toList fs)).drop (k.firstCharacter - 1)
  match k.last with
  | none => cut (fields.drop (k.first - 1))
  | some last =>
    if k.lastCharacter = 0 then cut ((fields.take last).drop (k.first - 1))
    else
      let final := (start (fields.getD (last - 1) [])).take k.lastCharacter
      if k.first = last then final.drop (k.firstCharacter - 1)
      else cut ((fields.take (last - 1)).drop (k.first - 1) ++ [final])

/-- Reads a position of a key: a field, a character in it, and letters. -/
def keyPosition? (s : List Char) : Option (Nat × Option Nat × List Char) :=
  let (field, rest) := s.span Char.isDigit
  if field.isEmpty then none
  else
    match rest with
    | '.' :: rest =>
      let (character, rest) := rest.span Char.isDigit
      some (Integer.valueIn 10 field, some (Integer.valueIn 10 character), rest)
    | rest => some (Integer.valueIn 10 field, none, rest)

/-- A manner with what a letter says. -/
def Manner.with (m : Manner) (letter : Char) : Manner :=
  match letter with
  | 'r' => { m with isReversed := true }
  | 'n' => { m with isNumeric := true }
  | 'f' => { m with folds := true }
  | 'b' => { m with skipsBlanks := true }
  | 'd' => { m with isDictionary := true }
  | _ => m

/-- The key that a text spells; without letters of its own it is compared as the others are. -/
def SortKey.ofText? (usual : Manner) (s : String) : Option SortKey :=
  let (start, finish) := match s.toList.span (· != ',') with
    | (start, _ :: finish) => (start, some finish)
    | (start, []) => (start, none)
  (keyPosition? start).bind fun (first, firstCharacter, letters) =>
    let last := finish.map keyPosition?
    match last with
    | some none => none
    | some (some (n, c, more)) =>
      let all := letters ++ more
      some
        { first, firstCharacter := firstCharacter.getD 1, last := some n, lastCharacter := c.getD 0
          manner := if all.isEmpty then usual else all.foldl Manner.with {} }
    | none =>
      some
        { first, firstCharacter := firstCharacter.getD 1
          manner := if letters.isEmpty then usual else letters.foldl Manner.with {} }

/-! ## Comparing -/

/-- Compares two texts, character by character. -/
def compareTexts : List Char → List Char → Ordering
  | [], [] => .eq
  | [], _ => .lt
  | _, [] => .gt
  | a :: as, b :: bs => (compare a b).then (compareTexts as bs)

/-- The number at the front of a text: its sign, its digits, and those of its fraction. -/
def leadingNumber (cs : List Char) : Bool × List Char × List Char :=
  let cs := cs.dropWhile isBlank
  let (negative, cs) := match cs with
    | '-' :: rest => (true, rest)
    | cs => (false, cs)
  let (whole, rest) := cs.span Char.isDigit
  match rest with
  | '.' :: rest => (negative, whole, rest.takeWhile Char.isDigit)
  | _ => (negative, whole, [])

/-- Compares the numbers at the front of two texts. -/
def compareNumbers (a b : List Char) : Ordering :=
  let x := leadingNumber a
  let y := leadingNumber b
  let places := max x.2.2.length y.2.2.length
  let scaled : Bool × List Char × List Char → Int := fun (negative, whole, part) =>
    let n : Int := Integer.valueIn 10 (whole ++ part ++ List.replicate (places - part.length) '0')
    if negative then -n else n
  compare (scaled x) (scaled y)

/-- Compares two parts of lines. -/
def Manner.compare (m : Manner) (a b : List Char) : Ordering :=
  let counted (cs : List Char) : List Char :=
    let cs := if m.isDictionary then cs.filter fun c => isBlank c || c.isAlphanum else cs
    if m.folds then cs.map Char.toUpper else cs
  let order := if m.isNumeric then compareNumbers a b else compareTexts (counted a) (counted b)
  if m.isReversed then order.swap else order

/-- Compares two lines by keys, and then by all of them, unless the order in which they came is
kept. -/
def compareLines (keys : List SortKey) (separator : Option Char) (isReversed isStable : Bool)
    (a b : List Char) : Ordering :=
  let byKeys := keys.foldl (fun order k =>
    order.then (k.manner.compare (k.part separator a) (k.part separator b))) Ordering.eq
  if isStable then byKeys
  else byKeys.then (if isReversed then compareTexts b a else compareTexts a b)

/-- One of each run of lines that are the same. -/
def firstOfEach (isSame : List Char → List Char → Bool) : List (List Char) → List (List Char)
  | [] => []
  | [a] => [a]
  | a :: b :: rest =>
    let more := firstOfEach isSame (b :: rest)
    if isSame a b then a :: more.tail else a :: more

/-- Writes the lines of files in order. -/
def sort : Utility := fun arguments => do
  let a ← readArguments
    { letters := "bdfgik:mno:rst:uczhMV"
      names := [("reverse", 'r'), ("numeric-sort", 'n'), ("unique", 'u'), ("key", 'k'),
        ("field-separator", 't'), ("stable", 's'), ("ignore-case", 'f'),
        ("ignore-leading-blanks", 'b'), ("output", 'o'), ("check", 'c')] } arguments 2
  let usual := (a.options.map (·.1)).foldl Manner.with {}
  let separator := (a.value? 't').bind (·.toList.head?)
  let keys ← (a.options.filter (·.1 == 'k')).mapM fun (_, s) =>
    match SortKey.ofText? usual s with
    | some k =>
      if k.first = 0 then giveUp ("field number is zero: invalid field specification " ++ quoted s) 2 else pure k
    | none => giveUp ("invalid number at field start: invalid count at start of " ++ quoted s) 2
  let keys : List SortKey := if keys.isEmpty then [{ manner := usual }] else keys
  let isPlain := keys.length = 1 && (keys.head?.map (·.manner)) = some {} && separator.isNone &&
    (a.value? 'k').isNone
  let mut ls : List (List Char) := []
  for path in if a.others.isEmpty then ["-"] else a.others do
    match ← contents path with
    | .ok text => ls := ls ++ (linesOf text).map (·.toList)
    | .error problem =>
      if problem = .isDirectory then
        giveUp ("read failed: " ++ named path ++ ": " ++ problem.text) 2
      else giveUp ("cannot read: " ++ named path ++ ": " ++ problem.text) 2
  let order := if isPlain then compareTexts
    else compareLines keys separator usual.isReversed (a.has 's' || a.has 'u')
  if a.has 'c' then do
    let pairs := (ls.zip ls.tail).zipIdx
    match pairs.find? fun ((x, y), _) => order x y == .gt || (a.has 'u' && order x y == .eq) with
    | some ((_, y), i) =>
      giveUp ("-:" ++ Text.decimal (i + 2) ++ ": disorder: " ++ String.ofList y)
    | none => return 0
  else do
    let sorted := ls.mergeSort fun x y => order x y != .gt
    let kept := if a.has 'u' then firstOfEach (fun x y => order x y == .eq) sorted else sorted
    let text := textOfLines (kept.map String.ofList)
    match a.value? 'o' with
    | none => put text 2
    | some path =>
      match openFile (← get) .overwrite path with
      | .ok (m, number) => do
        set (m.lead 9 (some number))
        let _ ← Act.write 9 text
      | .error problem => giveUp ("open failed: " ++ named path ++ ": " ++ problem.text) 2
    return 0

end RouteKeeper.Shell.Utility
