/-!
# TOML values

The value of a TOML document. A table remembers how it came to be, since that
decides what later parts of a document may still add to it.

## Implementation notes

Entries keep the order of the document and no key is there twice. Floating-point
numbers and points in time keep their spelling only.
-/

namespace RouteKeeper.Toml

/-- How a table came to be. -/
inductive Origin where
  /-- Written between braces; nothing can be added. -/
  | inline
  /-- Named by a header. -/
  | header
  /-- On the way to a table that a header named. -/
  | path
  /-- On the way to a value with a dotted key. -/
  | dotted
  deriving DecidableEq

/-- A TOML value. -/
inductive Value where
  | string (s : String)
  | integer (n : Int)
  | float (spelling : List Char)
  | boolean (b : Bool)
  | datetime (spelling : List Char)
  | array (items : List Value)
  /-- Tables that headers in double brackets added one by one. -/
  | tables (items : List Value)
  | table (origin : Origin) (entries : List (String × Value))

/-- The entries of a table. -/
abbrev Entries : Type :=
  List (String × Value)

/-- The value of a key. -/
def Entries.get? (es : Entries) (k : String) : Option Value :=
  (es.find? (·.1 == k)).map (·.2)

/-- Gives a key that is there another value. -/
def Entries.set (es : Entries) (k : String) (v : Value) : Entries :=
  es.map fun e => if e.1 == k then (k, v) else e

/-- Adds a key that is not there yet. -/
def Entries.add? (es : Entries) (k : String) (v : Value) : Option Entries :=
  if (es.get? k).isSome then none else some (es ++ [(k, v)])

end RouteKeeper.Toml
