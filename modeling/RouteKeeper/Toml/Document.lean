import RouteKeeper.Toml.Value

/-!
# Building a TOML document

A document is a run of headers and assignments. A header opens a table, an
assignment adds a value to the table that is open. A table is named by a header
once, no value is given twice, and what is written between braces is complete.
-/

namespace RouteKeeper.Toml

/-- One statement of a document. -/
inductive Statement where
  /-- A header that opens a table. -/
  | header (path : List String)
  /-- A header that adds a table to an array of tables and opens it. -/
  | element (path : List String)
  /-- An assignment to a key, which may be dotted. -/
  | assign (path : List String) (value : Value)

namespace Entries

/-- Works on the last table of an array of tables. -/
def onLast (f : Entries → Option Entries) : List Value → Option (List Value)
  | [] => none
  | [.table origin es] => (f es).map fun es => [.table origin es]
  | [_] => none
  | v :: rest => (onLast f rest).map (v :: ·)

/-- Works on the entries below a key that stands on the way of a header; a missing table is made. -/
def below (f : Entries → Option Entries) (es : Entries) (k : String) : Option Entries :=
  match es.get? k with
  | none => (f []).bind fun inner => es.add? k (.table .path inner)
  | some (.table .inline _) => none
  | some (.table origin inner) => (f inner).map fun inner => es.set k (.table origin inner)
  | some (.tables items) => (onLast f items).map fun items => es.set k (.tables items)
  | some _ => none

/-- Opens the table that a header names. -/
def openTable : List String → Entries → Option Entries
  | [], _ => none
  | [k], es =>
    match es.get? k with
    | none => es.add? k (.table .header [])
    | some (.table .path inner) => some (es.set k (.table .header inner))
    | some _ => none
  | k :: rest, es => below (openTable rest) es k

/-- Adds an empty table to the array of tables that a header names. -/
def openElement : List String → Entries → Option Entries
  | [], _ => none
  | [k], es =>
    match es.get? k with
    | none => es.add? k (.tables [.table .header []])
    | some (.tables items) => some (es.set k (.tables (items ++ [.table .header []])))
    | some _ => none
  | k :: rest, es => below (openElement rest) es k

/-- Whether the tables on the way of a dotted key may be passed through or end in one. -/
def mayPass (last : Bool) : Origin → Bool
  | .dotted => true
  | .path => !last
  | .inline | .header => false

/-- Gives a dotted key its value; tables on the way are made. The last table of an array of tables
may be passed through, but the key may not end in it. -/
def assign (v : Value) : List String → Entries → Option Entries
  | [], _ => none
  | [k], es => es.add? k v
  | k :: rest, es =>
    match es.get? k with
    | none => (assign v rest []).bind fun inner => es.add? k (.table .dotted inner)
    | some (.table origin inner) =>
      if mayPass (rest.length == 1) origin then
        (assign v rest inner).map fun inner => es.set k (.table origin inner)
      else none
    | some (.tables items) =>
      if rest.length == 1 then none
      else (onLast (assign v rest) items).map fun items => es.set k (.tables items)
    | some _ => none

/-- Works on the table at a path that a header opened before. -/
def atPath (f : Entries → Option Entries) : List String → Entries → Option Entries
  | [], es => f es
  | k :: rest, es => below (atPath f rest) es k

end Entries

/-- A document that is being built: its entries and the path of the open table. -/
structure Draft where
  entries : Entries := []
  openPath : List String := []

/-- Adds one statement. -/
def Draft.add (d : Draft) : Statement → Option Draft
  | .header path => (d.entries.openTable path).map fun es => ⟨es, path⟩
  | .element path => (d.entries.openElement path).map fun es => ⟨es, path⟩
  | .assign path v => (d.entries.atPath (Entries.assign v path) d.openPath).map fun es =>
      { d with entries := es }

/-- The entries of the document with the given statements. -/
def ofStatements (statements : List Statement) : Option Entries :=
  (statements.foldlM Draft.add {}).map (·.entries)

/-- The table between braces with the given assignments. -/
def inlineTable (assignments : List (List String × Value)) : Option Value :=
  (assignments.foldlM (fun es (path, v) => Entries.assign v path es) []).map (.table .inline ·)

end RouteKeeper.Toml
