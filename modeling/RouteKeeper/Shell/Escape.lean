import RouteKeeper.Shell.Integer

/-!
# Backslash escapes

What a backslash and the characters after it stand for in texts that `echo` and
`printf` write.
-/

namespace RouteKeeper.Shell.Escape

/-- The character that a letter after a backslash stands for. -/
def ofLetter? (c : Char) : Option Char :=
  match c with
  | 'a' => some '\x07'
  | 'b' => some '\x08'
  | 'e' => some '\x1b'
  | 'f' => some '\x0c'
  | 'n' => some '\n'
  | 'r' => some '\r'
  | 't' => some '\t'
  | 'v' => some '\x0b'
  | '\\' => some '\\'
  | _ => none

/-- The octal digits. -/
def isOctal (c : Char) : Bool :=
  '0' ≤ c && c ≤ '7'

/-- The character that octal digits stand for. -/
def ofOctal (ds : List Char) : Char :=
  Char.ofNat (Integer.valueIn 8 ds % 256)

/-- What a backslash and what follows it stand for; a backslash before anything else stands for
itself. -/
def afterBackslash (cs : List Char) : Char × List Char :=
  match cs with
  | [] => ('\\', [])
  | c :: rest =>
    match ofLetter? c with
    | some d => (d, rest)
    | none =>
      match (cs.take 3).takeWhile isOctal with
      | [] => ('\\', cs)
      | ds => (ofOctal ds, cs.drop ds.length)

/-- Passes over a zero in front of octal digits. -/
def skipZero : List Char → List Char
  | '0' :: c :: rest => if isOctal c then c :: rest else '0' :: c :: rest
  | cs => cs

/-- A text with its escapes replaced, and whether `\c` ended it. After `\0` up to three octal digits
follow. -/
def expand : Nat → List Char → List Char × Bool
  | _, [] => ([], false)
  | 0, _ => ([], false)
  | _ + 1, '\\' :: 'c' :: _ => ([], true)
  | fuel + 1, '\\' :: cs =>
    let (c, rest) := afterBackslash (skipZero cs)
    let (more, ended) := expand fuel rest
    (c :: more, ended)
  | fuel + 1, c :: cs =>
    let (more, ended) := expand fuel cs
    (c :: more, ended)

/-- The texts with their escapes replaced, up to the one that `\c` ended. -/
def expandAll : List String → List (List Char) × Bool
  | [] => ([], false)
  | x :: rest =>
    match expand x.length x.toList with
    | (cs, true) => ([cs], true)
    | (cs, false) =>
      let (more, ended) := expandAll rest
      (cs :: more, ended)

/-- What `echo` writes: its arguments with blanks between them and, unless the first is `-n`, the end
of a line. -/
def echo (arguments : List String) : String :=
  let (ends, arguments) := match arguments with
    | "-n" :: rest => (false, rest)
    | all => (true, all)
  let (texts, ended) := expandAll arguments
  String.ofList (List.intercalate [' '] texts ++ if ends && !ended then ['\n'] else [])

end RouteKeeper.Shell.Escape
