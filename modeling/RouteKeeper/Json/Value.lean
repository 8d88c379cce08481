/-!
# JSON values

The value of a JSON text. Members keep their order and may repeat.

## Implementation notes

A text may spell half of a surrogate pair on its own, which no character stands
for. The points of a string keep such halves, so that a value which nobody looks
at can hold them; turning points into a string fails on them. Numbers keep their
spelling.
-/

namespace RouteKeeper.Json

/-- One point of a string: a character, or a surrogate without its other half. -/
inductive Point where
  | char (c : Char)
  | surrogate (code : Nat)
  deriving DecidableEq

/-- A JSON value. -/
inductive Value where
  | null
  | bool (b : Bool)
  | number (spelling : List Char)
  | string (points : List Point)
  | array (items : List Value)
  | object (members : List (List Point × Value))

/-- The points of a string. -/
def points (s : String) : List Point :=
  s.toList.map .char

/-- The character of a point, if it is one. -/
def Point.char? : Point → Option Char
  | .char c => some c
  | .surrogate _ => none

/-- The string with the given points, if all of them are characters. -/
def text? (ps : List Point) : Option String :=
  (ps.mapM Point.char?).map String.ofList

namespace Value

/-- A string as a value. -/
def ofString (s : String) : Value :=
  .string (points s)

/-- A natural number as a value. -/
def ofNat (n : Nat) : Value :=
  .number (toString n).toList

/-- An object from names and values. -/
def ofMembers (members : List (String × Value)) : Value :=
  .object (members.map fun (name, v) => (points name, v))

/-- The string that a value is. -/
def string? : Value → Option String
  | .string ps => text? ps
  | _ => none

end Value

end RouteKeeper.Json
