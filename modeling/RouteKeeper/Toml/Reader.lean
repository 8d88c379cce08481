import RouteKeeper.Toml.Document
import RouteKeeper.Toml.Scalar

/-!
# Reading TOML

Readers take the characters that are left and return what they read with the rest,
or nothing if the text is malformed.

## Implementation notes

Values inside values are read by structural recursion on the depth that is left.
Runs of items, entries and lines count down a fuel that the length of the text is
enough for, since each takes at least one character.
-/

namespace RouteKeeper.Toml

/-- How deep arrays and tables between braces may nest, and how many parts a key may have. -/
def depthLimit : Nat := 80

/-! ## Blanks, comments and line ends -/

/-- A blank within a line. -/
def isWhite (c : Char) : Bool :=
  c == ' ' || c == '\t'

/-- Passes over blanks within a line. -/
def skipWhite (cs : List Char) : List Char :=
  cs.dropWhile isWhite

/-- A control character other than a tab; it may stand nowhere in a document but in a line end. -/
def isControl (c : Char) : Bool :=
  (c.toNat < 32 && c != '\t') || c.toNat == 127

/-- Reads a line end. -/
def newline? : List Char → Option (List Char)
  | '\n' :: rest => some rest
  | '\r' :: '\n' :: rest => some rest
  | _ => none

/-- Passes over a comment, if there is one, up to the end of the line. -/
def skipComment : List Char → List Char
  | '#' :: rest => rest.dropWhile (!isControl ·)
  | cs => cs

/-- Passes over blanks, comments and line ends. -/
def skipLines : Nat → List Char → List Char
  | 0, cs => cs
  | fuel + 1, cs =>
    let cs := skipComment (skipWhite cs)
    match newline? cs with
    | some rest => skipLines fuel rest
    | none => cs

/-- Passes over blanks, comments and line ends as far as they go. -/
def skipAll (cs : List Char) : List Char :=
  skipLines (cs.length + 1) cs

/-- Reads what may stand at the end of a line: blanks and a comment, then a line end or nothing. -/
def lineEnd? (cs : List Char) : Option (List Char) :=
  match skipComment (skipWhite cs) with
  | [] => some []
  | cs => newline? cs

/-! ## Strings -/

/-- The character that hexadecimal digits stand for; surrogates stand for none. -/
def hexChar? (ds : List Char) : Option Char :=
  if ds.all isHexDigit then
    let n := ofDigits 16 ds
    if h : n.isValidChar then some (Char.ofNatAux n h) else none
  else none

/-- Reads an escape after its backslash. -/
def escape? : List Char → Option (Char × List Char)
  | 'b' :: rest => some ('\x08', rest)
  | 't' :: rest => some ('\t', rest)
  | 'n' :: rest => some ('\n', rest)
  | 'f' :: rest => some ('\x0c', rest)
  | 'r' :: rest => some ('\r', rest)
  | 'e' :: rest => some ('\x1b', rest)
  | '"' :: rest => some ('"', rest)
  | '\\' :: rest => some ('\\', rest)
  | 'x' :: rest => coded 2 rest
  | 'u' :: rest => coded 4 rest
  | 'U' :: rest => coded 8 rest
  | _ => none
where
  /-- A character given by the number of hexadecimal digits. -/
  coded (width : Nat) (rest : List Char) : Option (Char × List Char) :=
    if width ≤ rest.length then (hexChar? (rest.take width)).map (·, rest.drop width) else none

/-- Reads a string in double quotes after the opening quote. -/
def basic : Nat → List Char → Option (List Char × List Char)
  | 0, _ => none
  | fuel + 1, cs =>
    match cs with
    | '"' :: rest => some ([], rest)
    | '\\' :: rest => do
      let (c, rest) ← escape? rest
      let (s, rest) ← basic fuel rest
      return (c :: s, rest)
    | c :: rest =>
      if isControl c then none
      else (basic fuel rest).map fun (s, rest) => (c :: s, rest)
    | [] => none

/-- Reads a string in single quotes after the opening quote. -/
def literal (cs : List Char) : Option (List Char × List Char) :=
  let s := cs.takeWhile (· != '\'')
  match cs.dropWhile (· != '\'') with
  | _ :: rest => if s.any isControl then none else some (s, rest)
  | [] => none

/-- Reads the quotes that close a string of many lines: three, after at most two that belong to it. -/
def closing? (quote : Char) (cs : List Char) : Option (List Char × List Char) :=
  let n := (cs.takeWhile (· == quote)).length
  if n < 3 then none
  else
    let own := min (n - 3) 2
    some (List.replicate own quote, cs.drop (own + 3))

/-- Passes over blank lines and the blanks in front of the next line. -/
def skipBlankLines : Nat → List Char → List Char
  | 0, cs => cs
  | fuel + 1, cs =>
    let cs := skipWhite cs
    match newline? cs with
    | some rest => skipBlankLines fuel rest
    | none => cs

/-- Passes over the line end after a backslash, and all blanks and line ends after it. -/
def skipBreak (cs : List Char) : Option (List Char) :=
  (newline? (skipWhite cs)).map fun rest => skipBlankLines (rest.length + 1) rest

/-- Reads a string of many lines after the opening quotes. Escapes are read in double quotes only. -/
def manyLines (quote : Char) : Nat → List Char → Option (List Char × List Char)
  | 0, _ => none
  | fuel + 1, cs =>
    match closing? quote cs with
    | some (own, rest) => some (own, rest)
    | none =>
      match cs with
      | [] => none
      | c :: rest =>
        if c = '\\' ∧ quote = '"' then
          match skipBreak rest with
          | some rest => manyLines quote fuel rest
          | none => do
            let (c, rest) ← escape? rest
            let (s, rest) ← manyLines quote fuel rest
            return (c :: s, rest)
        else if c = '\r' then
          match rest with
          | '\n' :: rest => (manyLines quote fuel rest).map fun (s, rest) => ('\r' :: '\n' :: s, rest)
          | _ => none
        else if isControl c && c != '\n' then none
        else (manyLines quote fuel rest).map fun (s, rest) => (c :: s, rest)

/-- Reads a string of many lines after the opening quotes; a line end right after them is dropped. -/
def block (quote : Char) (cs : List Char) : Option (List Char × List Char) :=
  manyLines quote (cs.length + 1) ((newline? cs).getD cs)

/-- Reads a string with its quotes. -/
def string? : List Char → Option (String × List Char)
  | '"' :: '"' :: '"' :: rest => (block '"' rest).map fun (s, rest) => (String.ofList s, rest)
  | '\'' :: '\'' :: '\'' :: rest => (block '\'' rest).map fun (s, rest) => (String.ofList s, rest)
  | '"' :: rest => (basic (rest.length + 1) rest).map fun (s, rest) => (String.ofList s, rest)
  | '\'' :: rest => (literal rest).map fun (s, rest) => (String.ofList s, rest)
  | _ => none

/-! ## Keys -/

/-- The characters of a key without quotes. -/
def isBareChar (c : Char) : Bool :=
  c.isAlphanum || c == '_' || c == '-'

/-- Reads one part of a key; a string of many lines is none. -/
def keyPart? (cs : List Char) : Option (String × List Char) :=
  match cs with
  | '"' :: '"' :: '"' :: _ => none
  | '\'' :: '\'' :: '\'' :: _ => none
  | '"' :: _ | '\'' :: _ => string? cs
  | cs =>
    match cs.takeWhile isBareChar with
    | [] => none
    | k => some (String.ofList k, cs.dropWhile isBareChar)

/-- Reads at most `n` parts of a key with points between them. -/
def keyParts? : (n : Nat) → List Char → Option (List String × List Char)
  | 0, _ => none
  | n + 1, cs => do
    let (k, rest) ← keyPart? (skipWhite cs)
    match skipWhite rest with
    | '.' :: rest => (keyParts? n rest).map fun (ks, rest) => (k :: ks, rest)
    | rest => some ([k], rest)

/-- Reads a key: one or more parts with points between them, and not more than a value may nest. -/
def key? (cs : List Char) : Option (List String × List Char) :=
  keyParts? depthLimit cs

/-- Reads a key and the equals sign after it; `gap` passes over what may stand around the sign. -/
def assignee? (gap : List Char → List Char) (cs : List Char) :
    Option (List String × List Char) := do
  let (ks, rest) ← key? cs
  match gap rest with
  | '=' :: rest => some (ks, gap rest)
  | _ => none

/-! ## Values -/

/-- Reads items with commas between them, to the closing bracket. A comma may end the run. -/
def items (value : List Char → Option (Value × List Char)) :
    Nat → List Char → Option (List Value × List Char)
  | 0, _ => none
  | fuel + 1, cs =>
    match skipAll cs with
    | ']' :: rest => some ([], rest)
    | cs => do
      let (v, rest) ← value cs
      match skipAll rest with
      | ',' :: rest => (items value fuel rest).map fun (vs, rest) => (v :: vs, rest)
      | ']' :: rest => some ([v], rest)
      | _ => none

/-- Reads assignments with commas between them, to the closing brace. A comma may end the run,
and lines may end around each equals sign and comma. -/
def assignments (value : List Char → Option (Value × List Char)) :
    Nat → List Char → Option (List (List String × Value) × List Char)
  | 0, _ => none
  | fuel + 1, cs =>
    match skipAll cs with
    | '}' :: rest => some ([], rest)
    | cs => do
      let (ks, rest) ← assignee? skipAll cs
      let (v, rest) ← value rest
      match skipAll rest with
      | ',' :: rest => (assignments value fuel rest).map fun (vs, rest) => ((ks, v) :: vs, rest)
      | '}' :: rest => some ([(ks, v)], rest)
      | _ => none

/-- Reads a value without brackets or braces. -/
def flat (cs : List Char) : Option (Value × List Char) :=
  match cs with
  | '"' :: _ | '\'' :: _ => (string? cs).map fun (s, rest) => (.string s, rest)
  | cs =>
    let (run, rest) := scalarRun cs
    (scalar? run).map (·, rest)

/-- Reads a value in which arrays and tables nest as deep as `depth` has it. -/
def value : (depth : Nat) → List Char → Option (Value × List Char)
  | 0, cs => flat cs
  | depth + 1, cs =>
    match cs with
    | '[' :: rest =>
      (items (value depth) (rest.length + 1) rest).map fun (vs, rest) => (.array vs, rest)
    | '{' :: rest => do
      let (es, rest) ← assignments (value depth) (rest.length + 1) rest
      return (← inlineTable es, rest)
    | cs => flat cs

/-! ## Documents -/

/-- Reads the path of a header up to its closing brackets. -/
def headerPath? (close : List Char) (cs : List Char) : Option (List String × List Char) := do
  let (ks, rest) ← key? cs
  if close.isPrefixOf rest then some (ks, rest.drop close.length) else none

/-- Reads one statement. -/
def statement? (cs : List Char) : Option (Statement × List Char) :=
  match cs with
  | '[' :: '[' :: rest =>
    (headerPath? [']', ']'] rest).map fun (path, rest) => (.element path, rest)
  | '[' :: rest => (headerPath? [']'] rest).map fun (path, rest) => (.header path, rest)
  | cs => do
    let (path, rest) ← assignee? skipWhite cs
    let (v, rest) ← value depthLimit rest
    return (.assign path v, rest)

/-- Reads statements, each to the end of its line, until the text ends. -/
def statements : Nat → List Char → Option (List Statement)
  | 0, _ => none
  | fuel + 1, cs =>
    match skipAll cs with
    | [] => some []
    | cs => do
      let (s, rest) ← statement? cs
      let rest ← lineEnd? rest
      let more ← statements fuel rest
      return s :: more

/-- Reads a whole document; a byte order mark in front is passed over. -/
def parse (s : String) : Option Entries :=
  let cs := match s.toList with
    | '\ufeff' :: rest => rest
    | cs => cs
  (statements (cs.length + 1) cs).bind ofStatements

end RouteKeeper.Toml
