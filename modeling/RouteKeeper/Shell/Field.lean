import RouteKeeper.Shell.Pattern

/-!
# Fields

What is left of a word once its expansions are made: segments of text, which are
split into fields, joined into one text, or taken as a pattern.

## Implementation notes

Where all arguments are put in, a character zero stands between two of them; no other
text has one. White space among the separators splits fields but makes no empty ones;
what is known of it does not reach beyond a segment.
-/

namespace RouteKeeper.Shell

/-- A character of an expanded word, or a place where a quote was. -/
inductive Glyph where
  | char (c : Char) (quoted : Bool)
  | quote
  deriving DecidableEq

/-- Where a segment is split. -/
inductive Splitting where
  /-- Nowhere. -/
  | never
  /-- At the separators. -/
  | atSeparators
  /-- Between two arguments. -/
  | atGaps
  deriving DecidableEq

/-- A part of an expanded word. -/
structure Segment where
  splitting : Splitting
  glyphs : List Glyph
  deriving DecidableEq

namespace Segment

/-- A segment that is not split. -/
def fixed (glyphs : List Glyph) : Segment :=
  ⟨.never, glyphs⟩

/-- A segment of quoted characters that is not split. -/
def quotedText (cs : List Char) : Segment :=
  .fixed (cs.map (.char · true))

end Segment

/-- The text of some glyphs. -/
def textOf (gs : List Glyph) : String :=
  String.ofList (gs.filterMap fun
    | .char c _ => some c
    | .quote => none)

/-- The text of an expanded word that is not split. -/
def joinedText (segments : List Segment) : String :=
  textOf (segments.flatMap (·.glyphs))

/-- The characters of a pattern; a quoted one has a backslash before it. -/
def patternChars (gs : List Glyph) : List Char :=
  gs.flatMap fun
    | .char c true => ['\\', c]
    | .char c false => [c]
    | .quote => []

/-- The pattern that some glyphs make up. -/
def patternOf (gs : List Glyph) : List Pattern.Item :=
  let cs := patternChars gs
  Pattern.ofChars cs.length cs

namespace Field

/-- The characters that separate fields without making empty ones. -/
def isSpace (c : Char) : Bool :=
  c == ' ' || c == '\t' || c == '\n' || c == '\x00'

/-- The fields found so far, and the one that is being read; both run backwards. -/
structure Progress where
  done : List (List Glyph) := []
  field : List Glyph := []
  /-- The last field was ended by white space. -/
  spaced : Bool := false
  /-- How many more fields there may be; the last one takes all that is left. -/
  left : Option Nat := none
  /-- How much is kept of the last field. -/
  kept : Option Nat := none

/-- What a segment is split at: the separators, and whether white space is special. -/
structure Cuts where
  separators : List Char
  spaces : Bool

/-- Takes in a glyph that is not split. -/
def Progress.keep (p : Progress) (g : Glyph) : Progress :=
  { p with field := g :: p.field }

/-- Takes in a character of the last field, which keeps its separators but for white space at its
end. -/
def Progress.keepLast (p : Progress) (g : Glyph) (isSeparator space : Bool) : Progress :=
  let p' := p.keep g
  if space then { p' with kept := p.kept.or (some p.field.length) }
  else { p' with
    kept := if isSeparator && p.spaced then p.kept else none
    spaced := false }

/-- Takes in a character where fields are split. -/
def Progress.take (cuts : Cuts) (p : Progress) (g : Glyph) (c : Char) : Progress :=
  let isSeparator := cuts.separators.contains c || c == '\x00'
  let space := isSeparator && isSpace c
  if p.left = some 0 then p.keepLast g isSeparator space
  else if p.spaced then
    if space then { p with field := [] }
    else if isSeparator then { p with field := [], spaced := false }
    else { p with field := [g], spaced := false }
  else if isSeparator then
    let spaced := cuts.spaces && space
    if p.field.isEmpty && spaced then p
    else if p.left = some 1 then
      { p.keep g with left := some 0, kept := some p.field.length, spaced }
    else
      { p with done := p.field.reverse :: p.done, field := [], spaced, left := p.left.map (· - 1) }
  else p.keep g

/-- Takes in a segment; `after` says that the one before it was split between arguments. -/
def Progress.takeSegment (separators : List Char) (p : Progress) (after : Bool) (s : Segment) :
    Progress :=
  match s.splitting with
  | .never => s.glyphs.foldl (fun p g => p.keep g) p
  | splitting =>
    let gaps := splitting = .atGaps
    let cuts : Cuts := ⟨if gaps then [] else separators, !gaps && !after⟩
    s.glyphs.foldl (fun p g =>
      match g with
      | .char c _ => p.take cuts g c
      | .quote => p.keep g) { p with spaced := false }

/-- Takes in segments; `after` says that the last one that is split was split between arguments. -/
def Progress.takeAll (separators : List Char) :
    Progress → (after : Bool) → List Segment → Progress × Bool
  | p, after, [] => (p, after)
  | p, after, s :: rest =>
    let p := p.takeSegment separators after s
    let after := if s.splitting = .never then after else s.splitting = .atGaps
    p.takeAll separators after rest

/-- The fields of an expanded word, at most as many as `limit` has it. -/
def split (separators : List Char) (limit : Option Nat) (segments : List Segment) :
    List (List Glyph) :=
  let (p, gaps) := ({ left := limit } : Progress).takeAll separators false segments
  let last := match p.kept with
    | some n => p.field.reverse.take n
    | none => p.field.reverse
  if gaps || !last.isEmpty then (last :: p.done).reverse else p.done.reverse

end Field

end RouteKeeper.Shell
