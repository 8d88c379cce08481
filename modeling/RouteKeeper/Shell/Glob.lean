import RouteKeeper.Shell.Disk
import RouteKeeper.Shell.Field

/-!
# Paths that a pattern matches

A field whose parts between slashes hold patterns stands for the paths whose names the
patterns match. A name that begins with a dot is matched only by a pattern that begins
with a dot.
-/

namespace RouteKeeper.Shell.Glob

/-- Whether a glyph gives a pattern more than one match. -/
def isSpecial : Glyph → Bool
  | .char c _ => c == '*' || c == '?' || c == '['
  | .quote => false

/-- The parts of a field between slashes. -/
def parts (gs : List Glyph) : List (List Glyph) :=
  gs.splitOnP fun
    | .char '/' _ => true
    | _ => false

/-- The names in a directory that a pattern matches. -/
def names (d : Disk) (place : Path) (pattern : List Glyph) : List String :=
  let items := patternOf pattern
  let dotted := (textOf pattern).startsWith "."
  let all := d.namesIn place ++ if dotted then [".", ".."] else []
  all.filter fun name =>
    (dotted || !name.startsWith ".") && Pattern.accepts items name.toList

/-- The paths that begin with a text and go on with the parts of a pattern. -/
def pathsFrom (d : Disk) (directory : Path) : String → List (List Glyph) → List String
  | soFar, [] => [soFar]
  | soFar, [part] =>
    if part.any isSpecial then
      match placeOf soFar with
      | some place => (names d place part).map (soFar ++ ·)
      | none => []
    else
      let path := soFar ++ textOf part
      match d.find directory path false with
      | .ok (_, some _) => [path]
      | _ => []
  | soFar, part :: rest =>
    if part.any isSpecial then
      match placeOf soFar with
      | some place =>
        (names d place part).flatMap fun name =>
          let path := soFar ++ name
          if d.isDirectory directory path then pathsFrom d directory (path ++ "/") rest else []
      | none => []
    else pathsFrom d directory (soFar ++ textOf part ++ "/") rest
where
  /-- The directory that the beginning of a path leads to. -/
  placeOf (soFar : String) : Option Path :=
    match d.find directory (if soFar.isEmpty then "." else soFar) with
    | .ok (place, some { node := .directory, .. }) => some place
    | _ => none

/-- The paths that a field matches, in order; there are none if it holds no pattern. -/
def paths (d : Disk) (directory : Path) (gs : List Glyph) : List String :=
  if gs.any isSpecial then (pathsFrom d directory "" (parts gs)).mergeSort (· ≤ ·) else []

end RouteKeeper.Shell.Glob
