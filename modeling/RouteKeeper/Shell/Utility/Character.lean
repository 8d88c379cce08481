import RouteKeeper.Shell.Pattern
import RouteKeeper.Shell.Utility.Stream

/-!
# Programs that look at characters

The program that replaces, deletes and joins characters, and the one that writes them
as numbers.
-/

namespace RouteKeeper.Shell.Utility

/-! ## Sets of characters -/

/-- A part of a set. -/
inductive SetPart where
  | range (low high : Char)
  | named (name : String)
  /-- A character so often, or as often as the other set needs if no count is given. -/
  | copies (c : Char) (count : Nat)

/-- The character after a backslash, and what follows. -/
def setEscape (cs : List Char) : Char × List Char :=
  match cs with
  | [] => ('\\', [])
  | c :: rest =>
    let ds := (cs.take 3).takeWhile fun d => '0' ≤ d && d ≤ '7'
    if !ds.isEmpty then (Char.ofNat (Integer.valueIn 8 ds % 256), cs.drop ds.length)
    else
      match c with
      | 'a' => ('\x07', rest)
      | 'b' => ('\x08', rest)
      | 'f' => ('\x0c', rest)
      | 'n' => ('\n', rest)
      | 'r' => ('\r', rest)
      | 't' => ('\t', rest)
      | 'v' => ('\x0b', rest)
      | c => (c, rest)

/-- The character at the front of a set, and whether a backslash stood before it. -/
def setCharacter : List Char → Option (Char × Bool × List Char)
  | [] => none
  | '\\' :: rest =>
    let (c, rest) := setEscape rest
    some (c, true, rest)
  | c :: rest => some (c, false, rest)

/-- Copies of a character after an opening bracket. -/
def copies? (cs : List Char) : Option (SetPart × List Char) := do
  let (c, _, rest) ← setCharacter cs
  match rest with
  | '*' :: rest =>
    let (ds, rest) := rest.span Char.isDigit
    match rest with
    | ']' :: rest =>
      let base := if ds.head? = some '0' then 8 else 10
      return (.copies c (Integer.valueIn base ds), rest)
    | _ => none
  | _ => none

/-- The parts of a set. -/
def setParts : Nat → List Char → Except String (List SetPart)
  | _, [] => .ok []
  | 0, _ => .ok []
  | fuel + 1, '[' :: ':' :: rest =>
    match Pattern.className? (':' :: rest) with
    | some (name, rest) => (setParts fuel rest).map (.named name :: ·)
    | none => one fuel ('[' :: ':' :: rest)
  | fuel + 1, '[' :: '=' :: c :: '=' :: ']' :: rest => (setParts fuel rest).map (.range c c :: ·)
  | fuel + 1, '[' :: rest =>
    match copies? rest with
    | some (part, rest) => (setParts fuel rest).map (part :: ·)
    | none => one fuel ('[' :: rest)
  | fuel + 1, cs => one fuel cs
where
  /-- Reads a character or a range. -/
  one (fuel : Nat) (cs : List Char) : Except String (List SetPart) :=
    match setCharacter cs with
    | none => .ok []
    | some (low, _, '-' :: rest) =>
      match setCharacter rest with
      | none => (setParts fuel ['-']).map (.range low low :: ·)
      | some (high, _, rest) =>
        if high < low then
          let shown (c : Char) : String := String.ofList (if isShown c then [c] else escape c)
          .error ("range-endpoints of '" ++ shown low ++ "-" ++ shown high ++
            "' are in reverse collating sequence order")
        else (setParts fuel rest).map (.range low high :: ·)
    | some (c, _, rest) => (setParts fuel rest).map (.range c c :: ·)

/-- All characters. -/
def allCharacters : List Char :=
  (List.range 256).map Char.ofNat

/-- The characters of a part; those that are copied as often as needed fill up to a length. -/
def SetPart.characters (fill : Nat) : SetPart → List Char
  | .range low high =>
    (List.range' low.toNat (high.toNat + 1 - low.toNat)).map Char.ofNat
  | .named name => allCharacters.filter (Pattern.isIn name)
  | .copies c 0 => List.replicate fill c
  | .copies c n => List.replicate n c

/-- The characters of a set, filled up to a length. -/
def charactersOf (parts : List SetPart) (length : Nat) : List Char :=
  let fixed := (parts.flatMap (·.characters 0)).length
  parts.flatMap (·.characters (length - fixed))

/-! ## Replacing characters -/

/-- Joins runs of the same character. -/
def squeeze (isJoined : Char → Bool) : List Char → (last : Option Char) → List Char
  | [], _ => []
  | c :: rest, last =>
    if last = some c && isJoined c then squeeze isJoined rest last
    else c :: squeeze isJoined rest (some c)

/-- A set of characters that an argument spells. -/
def readSet (s : String) : Act (List SetPart) := do
  match setParts (s.length + 1) s.toList with
  | .ok parts => return parts
  | .error complaint => giveUp complaint

/-- Complains about the number of operands. -/
def refuseOperands (a : Arguments) (least most : Nat) : Act Unit := do
  match a.others with
  | [] => refuse "missing operand"
  | xs =>
    if xs.length < least then do
      complain ("missing operand after " ++ quoted (xs.getLast?.getD ""))
      Act.sayLine (if a.has 'd' && a.has 's'
        then "Two strings must be given when both deleting and squeezing repeats."
        else "Two strings must be given when translating.")
      sayHint
      quit 1
    else if most < xs.length then do
      complain ("extra operand " ++ quoted (xs.getD most ""))
      if most = 1 then
        Act.sayLine "Only one string may be given when deleting without squeezing repeats."
      sayHint
      quit 1

/-- Replaces, deletes or joins characters of its input. -/
def tr : Utility := fun arguments => do
  let a ← readArguments
    { letters := "cCdst"
      names := [("complement", 'c'), ("delete", 'd'), ("squeeze-repeats", 's'), ("truncate-set1", 't')]
      mixed := false } arguments
  let deletes := a.has 'd'
  let squeezes := a.has 's'
  let least := if deletes == squeezes then 2 else 1
  let most := if deletes && !squeezes then 1 else 2
  refuseOperands a least most
  let complements := a.has 'c' || a.has 'C'
  let first := charactersOf (← readSet (a.others.headD "")) 0
  let first := if complements then allCharacters.filter (!first.contains ·) else first
  let parts ← match a.others[1]? with
    | some s => readSet s
    | none => pure []
  let second := charactersOf parts first.length
  let translates := !deletes && 1 < a.others.length
  if translates && second.isEmpty && !a.has 't' then
    giveUp "when not truncating set1, string2 must be non-empty"
  let table : Array Char := (first.zipIdx).foldl (fun t (c, i) =>
    match second[i]?.or (if a.has 't' then none else second.getLast?) with
    | some d => t.setIfInBounds c.toNat d
    | none => t) allCharacters.toArray
  let inFirst : Array Bool := first.foldl (fun t c => t.setIfInBounds c.toNat true)
    (Array.replicate 256 false)
  let joined := if 1 < a.others.length then second else first
  withEachPart (fun _ problem => "read error: " ++ problem.text) [] fun _ text => do
    let cs := text.toList
    let cs := if deletes then cs.filter fun c => !inFirst.getD c.toNat false
      else if translates then cs.map fun c => table.getD c.toNat c
      else cs
    let cs := if squeezes then squeeze joined.contains cs none else cs
    put (String.ofList cs)

/-! ## Characters as numbers -/

/-- How a group of characters is written. -/
structure Dump where
  size : Nat
  width : Nat
  text : List Char → String

/-- The number that some characters make up, the first one being the least. -/
def littleEndian (cs : List Char) : Nat :=
  cs.foldr (fun c n => c.toNat + 256 * n) 0

/-- A number in a base with zeros in front. -/
def zeroPadded (base width n : Nat) : String :=
  let ds := Nat.toDigits base n
  String.ofList (List.replicate (width - ds.length) '0' ++ ds)

/-- A character as it is written between others. -/
def dumpedCharacter (c : Char) : String :=
  match c.toNat with
  | 0 => "\\0"
  | n =>
    if 7 ≤ n && n ≤ 13 then String.ofList (escape c)
    else if isShown c then String.singleton c
    else zeroPadded 8 3 n

/-- The names of the characters that cannot be shown. -/
def characterNames : List String :=
  ["nul", "soh", "stx", "etx", "eot", "enq", "ack", "bel", "bs", "ht", "nl", "vt", "ff", "cr", "so",
    "si", "dle", "dc1", "dc2", "dc3", "dc4", "nak", "syn", "etb", "can", "em", "sub", "esc", "fs",
    "gs", "rs", "us", "sp"]

/-- A character by its name. -/
def characterName (c : Char) : String :=
  let n := c.toNat % 128
  if n = 127 then "del" else (characterNames[n]?).getD (String.singleton (Char.ofNat n))

/-- The width of a number of so many bytes. -/
def dumpWidth (kind : Char) (size : Nat) : Nat :=
  match kind with
  | 'x' => 2 * size
  | 'o' => (8 * size + 2) / 3
  | 'u' => (Nat.toDigits 10 (1 <<< (8 * size) - 1)).length
  | _ => (Nat.toDigits 10 (1 <<< (8 * size) / 2)).length + 1

/-- The way to write that a type names. -/
def dumpOf? (s : String) : Option Dump :=
  match s.toList with
  | ['c'] => some ⟨1, 3, fun cs => dumpedCharacter (cs.headD '\x00')⟩
  | ['a'] => some ⟨1, 3, fun cs => characterName (cs.headD '\x00')⟩
  | kind :: rest =>
    let size : Option Nat := match rest with
      | [] | ['I'] => some 4
      | ['C'] | ['1'] => some 1
      | ['S'] | ['2'] => some 2
      | ['4'] => some 4
      | ['L'] | ['8'] => some 8
      | _ => none
    if !"doux".toList.contains kind then none
    else size.map fun size =>
      let width := dumpWidth kind size
      ⟨size, width, fun cs =>
        let n := littleEndian cs
        match kind with
        | 'x' => zeroPadded 16 width n
        | 'o' => zeroPadded 8 width n
        | 'u' => Text.decimal n
        | _ =>
          let range : Nat := 1 <<< (8 * size)
          Text.decimalInt (if 2 * n < range then n else n - range)⟩
  | [] => none

/-- Cuts characters into groups of a length. -/
def groupsOf (length : Nat) : Nat → List Char → List (List Char)
  | 0, _ => []
  | _, [] => []
  | fuel + 1, cs => cs.take length :: groupsOf length fuel (cs.drop length)

/-- Numbers up to which something is shared out evenly, from the last share to the first. -/
def shares (total parts : Nat) : List Nat :=
  (List.range parts).map fun i =>
    let left := total * (parts - i) / parts
    left - total * (parts - i - 1) / parts

/-- The width of sixteen characters, without what fills up. -/
def Dump.lineWidth (d : Dump) (length : Nat) : Nat :=
  (d.width + 1) * (length / d.size)

/-- A line of groups of characters in the width that all ways to write need. -/
def dumpLine (length width : Nat) (d : Dump) (cs : List Char) : String :=
  let fills := shares (width - d.lineWidth length) (length / d.size)
  let fields := (groupsOf d.size cs.length cs).zip fills |>.map fun (group, fill) =>
    rightAligned (d.width + 1 + fill) (d.text group)
  String.join fields

/-- The address of a position. -/
def address (base : Char) (n : Nat) : String :=
  match base with
  | 'n' => ""
  | 'd' => zeroPadded 10 7 n
  | 'x' => zeroPadded 16 6 n
  | _ => zeroPadded 8 7 n

/-- The lines that show characters; lines like the one before are left out. -/
def dumpLines (all : Bool) (base : Char) (ds : List Dump) (length width : Nat) :
    List (List Char) → (position : Nat) → (last : Option (List Char)) → (marked : Bool) → List String
  | [], position, _, _ => if base == 'n' then [] else [address base position ++ "\n"]
  | cs :: rest, position, last, marked =>
    let next := position + cs.length
    if last = some cs && !all && !rest.isEmpty && cs.length = length then
      (if marked then [] else ["*\n"]) ++ dumpLines all base ds length width rest next last true
    else
      let start := address base position
      let blank := String.ofList (List.replicate start.length ' ')
      let ls := ds.zipIdx.map fun (d, i) =>
        (if i = 0 then start else blank) ++ dumpLine length width d cs ++ "\n"
      ls ++ dumpLines all base ds length width rest next (some cs) false

/-- The types that are named together. -/
def dumpTypes : Nat → List Char → List String
  | 0, _ => []
  | _, [] => []
  | fuel + 1, c :: cs =>
    let (size, rest) := cs.span fun d => d.isDigit || "CSIL".toList.contains d
    String.ofList (c :: size) :: dumpTypes fuel rest

/-- Writes characters as numbers. -/
def od : Utility := fun arguments => do
  let a ← readArguments { letters := "A:t:N:j:vabcdoxw:" } arguments
  let named := a.options.flatMap fun (c, value) =>
    match c with
    | 't' => dumpTypes (value.length + 1) value.toList
    | 'a' => ["a"]
    | 'b' => ["o1"]
    | 'c' => ["c"]
    | 'd' => ["u2"]
    | 'o' => ["o2"]
    | 'x' => ["x2"]
    | _ => []
  let types := if named.isEmpty then ["o2"] else named
  let ds ← types.mapM fun t =>
    match dumpOf? t with
    | some d => pure d
    | none => giveUp ("invalid character '" ++ t ++ "' in type string " ++ quoted t)
  let base := ((a.value? 'A').getD "o").toList.headD 'o'
  let mut text := ""
  let mut status := 0
  for path in if a.others.isEmpty then ["-"] else a.others do
    match ← contents path with
    | .ok more => text := text ++ more
    | .error problem => do
      complain (plainly path problem)
      status := 1
  let cs := text.toList.drop (((a.value? 'j').bind amount?).getD 0)
  let cs := match (a.value? 'N').bind amount? with
    | some n => cs.take n
    | none => cs
  let length := (((a.value? 'w').bind amount?).getD 16)
  let width := (ds.map (·.lineWidth length)).foldl max 0
  let groups := groupsOf length (cs.length + 1) cs
  put (String.join (dumpLines (a.has 'v') base ds length width groups 0 none false))
  return status

end RouteKeeper.Shell.Utility
