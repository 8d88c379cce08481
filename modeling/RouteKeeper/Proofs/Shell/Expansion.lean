import RouteKeeper.Proofs.Shell.Glob
import RouteKeeper.Proofs.Shell.Literal
import RouteKeeper.Shell.Expansion

/-!
# What literal words come to

Nothing in a literal word is expanded, split or taken for another path, so it is one field, whatever
the shell's variables, options and files are.
-/

namespace RouteKeeper.Shell

/-! ## Pieces -/

/-- The segments that a part is expanded to. -/
def Part.segments : Part → List Segment
  | bare s _ => s.map fun c => .fixed [.char c false]
  | quoted s => .fixed [.quote] :: (unbroken s).map fun c => .fixed [.char c true]

/-- The segments that a literal word is expanded to. -/
def Literal.segments (w : Literal) : List Segment :=
  w.flatMap Part.segments

section

variable (output : Script → Act String)

/-- A character as it stands is put before what follows it. -/
theorem expandPieces_plain {manner : Manner} {c : Char} {start : Bool}
    (htilde : (start && c == '~' && !manner.quoted) = false)
    (htildes : manner.tildes.after c = (manner.tildes, false)) (rest : Word) :
    expandPieces output manner (.plain c :: rest) 0 start =
      (expandPieces output manner rest 0 false).bind fun more =>
        pure (consPlain manner c (rest.head?.any isPlain) more) := by
  rw [expandPieces]
  simp only [htilde, htildes]
  rfl

/-- Any other piece is expanded by itself. -/
theorem expandPieces_of_not_isPlain {piece : Piece} (hpiece : isPlain piece = false)
    (manner : Manner) (start : Bool) (rest : Word) :
    expandPieces output manner (piece :: rest) 0 start =
      (expandPiece output manner piece).bind fun segments =>
        (expandPieces output manner rest 0 false).bind fun more => pure (segments ++ more) := by
  rw [expandPieces]
  · rfl
  · rintro c rfl
    cases hpiece

/-- Between double quotes every piece of a quoted text is the quoted character. -/
theorem expandPieces_quotedPieces {manner : Manner} (hquoted : manner.quoted = true)
    (htildes : manner.tildes = .nowhere) (s : List Char) :
    expandPieces output manner (quotedPieces s) 0 false =
      pure ((unbroken s).map fun c => .fixed [.char c true]) := by
  rw [quotedPieces]
  induction unbroken s with
  | nil => rfl
  | cons c s ih =>
      rw [List.map_cons, List.map_cons]
      by_cases hspecial : isSpecial c = true
      · rw [if_pos hspecial, expandPieces_of_not_isPlain output rfl, ih]
        rfl
      · have hafter : manner.tildes.after c = (manner.tildes, false) := by
          rw [htildes]
          rfl
        have hplain (joins : Bool) (rest : List Segment) :
            consPlain manner c joins rest = .fixed [.char c true] :: rest := by
          unfold consPlain
          rw [if_pos (by rw [hquoted]; rfl), hquoted]
        rw [if_neg hspecial, expandPieces_plain output rfl hafter, ih]
        simp only [hplain]
        rfl

/-- How the words of a command are expanded. -/
def Manner.ofField : Manner :=
  { full := true, tildes := .atStart }

/-- Inert characters stand for themselves. -/
theorem expandPieces_bare {s : List Char} (inert : ∀ c ∈ s, isInert c = true) {rest : Word}
    {segments : List Segment}
    (hrest : ∀ start, expandPieces output .ofField rest 0 start = pure segments) (start : Bool) :
    expandPieces output .ofField (s.map .plain ++ rest) 0 start =
      pure (s.map (fun c => .fixed [.char c false]) ++ segments) := by
  induction s generalizing start with
  | nil => exact hrest start
  | cons c s ih =>
      have hc : c ≠ '~' := ne_of_isInert (inert c List.mem_cons_self) rfl
      have htilde : (start && c == '~' && !Manner.ofField.quoted) = false := by
        rw [beq_eq_false_iff_ne.mpr hc, Bool.and_false]
        rfl
      rw [List.map_cons, List.cons_append, expandPieces_plain output htilde rfl,
        ih (fun d hd => inert d (List.mem_cons_of_mem c hd))]
      rfl

/-- A literal word is expanded to its segments. -/
theorem expandPieces_literal (w : Literal) (start : Bool) :
    expandPieces output .ofField w.pieces 0 start = pure w.segments := by
  induction w generalizing start with
  | nil => rfl
  | cons p w ih =>
      cases p with
      | bare s inert => exact expandPieces_bare output (List.all_eq_true.mp inert) ih start
      | quoted s =>
          have hpiece : expandPiece output .ofField (.double (quotedPieces s)) =
              pure (Part.quoted s).segments := by
            rw [expandPiece, expandPieces_quotedPieces output rfl rfl, pure_bind]
            split
            case h_1 h =>
              have hmem : Piece.parameter "@" .value ∈ quotedPieces s := by simp [h]
              obtain ⟨c, hc | hc⟩ := isCharacter_of_mem_quotedPieces hmem
              · cases hc
              · cases hc
            case h_2 => rfl
          have hpieces : Literal.pieces (.quoted s :: w) =
              .double (quotedPieces s) :: Literal.pieces w := rfl
          rw [hpieces, expandPieces_of_not_isPlain output rfl, hpiece, ih]
          rfl

end

/-! ## Fields -/

/-- The glyphs of a literal word. -/
def Literal.glyphs (w : Literal) : List Glyph :=
  w.segments.flatMap (·.glyphs)

/-- No segment of a literal word is split. -/
theorem Literal.splitting_of_mem_segments {w : Literal} {s : Segment} (hs : s ∈ w.segments) :
    s.splitting = .never := by
  obtain ⟨p, -, hs⟩ := List.mem_flatMap.mp hs
  cases p with
  | bare _ _ =>
      obtain ⟨_, -, rfl⟩ := List.mem_map.mp hs
      rfl
  | quoted _ =>
      rcases List.mem_cons.mp hs with rfl | hs
      · rfl
      · obtain ⟨_, -, rfl⟩ := List.mem_map.mp hs
        rfl

theorem Literal.glyphs_cons (p : Part) (w : Literal) :
    Literal.glyphs (p :: w) = p.segments.flatMap (·.glyphs) ++ Literal.glyphs w :=
  List.flatMap_append

/-- The glyphs of characters have these characters as their text. -/
theorem textOf_fixed (quoted : Bool) (s : List Char) :
    textOf ((s.map fun c => Segment.fixed [.char c quoted]).flatMap (·.glyphs)) =
      String.ofList s := by
  rw [textOf]
  refine congrArg String.ofList ?_
  induction s with
  | nil => rfl
  | cons c s ih => exact congrArg (List.cons c) ih

/-- A literal word stands for its text. -/
theorem Literal.textOf_glyphs (w : Literal) : textOf w.glyphs = String.ofList w.text := by
  induction w with
  | nil => rfl
  | cons p w ih =>
      have hp : textOf (p.segments.flatMap (·.glyphs)) = String.ofList p.text := by
        cases p with
        | bare s inert => exact textOf_fixed false s
        | quoted s => exact textOf_fixed true (unbroken s)
      rw [glyphs_cons, textOf_append, hp, ih, ← String.ofList_append]
      rfl

/-- A word that is written is not lost, even if its text is empty. -/
theorem Literal.glyphs_ne_nil {w : Literal} (hw : w.spelling ≠ []) : w.glyphs ≠ [] := by
  induction w with
  | nil => exact absurd rfl hw
  | cons p w ih =>
      rw [glyphs_cons]
      cases p with
      | quoted s => exact List.cons_ne_nil _ _
      | bare s inert =>
          cases s with
          | nil => exact ih hw
          | cons c s => exact List.cons_ne_nil _ _

namespace Field

theorem foldl_keep (gs : List Glyph) (p : Progress) :
    gs.foldl (fun p g => p.keep g) p = { p with field := gs.reverse ++ p.field } := by
  induction gs generalizing p with
  | nil => rfl
  | cons g gs ih =>
      rw [List.foldl_cons, ih]
      simp [Progress.keep]

/-- Segments that are not split are taken in as they are. -/
theorem takeAll_never (separators : List Char) {segments : List Segment}
    (h : ∀ s ∈ segments, s.splitting = .never) (p : Progress) (after : Bool) :
    p.takeAll separators after segments =
      ({ p with field := (segments.flatMap (·.glyphs)).reverse ++ p.field }, after) := by
  induction segments generalizing p with
  | nil => rfl
  | cons s rest ih =>
      obtain ⟨hs, hrest⟩ := List.forall_mem_cons.mp h
      rw [Progress.takeAll, Progress.takeSegment, hs, if_pos rfl, ih hrest, foldl_keep]
      simp

/-- So they are one field, if there is anything in them. -/
theorem split_never (separators : List Char) {segments : List Segment}
    (h : ∀ s ∈ segments, s.splitting = .never) (hne : segments.flatMap (·.glyphs) ≠ []) :
    split separators none segments = [segments.flatMap (·.glyphs)] := by
  have hempty : (segments.flatMap (·.glyphs)).isEmpty = false := by
    rw [Bool.eq_false_iff]
    exact mt List.isEmpty_iff.mp hne
  simp [split, takeAll_never separators h, hempty]

end Field

theorem Literal.isLiteral_of_mem_glyphs {w : Literal} {g : Glyph} (hg : g ∈ w.glyphs) :
    g.IsLiteral := by
  obtain ⟨s, hs, hg⟩ := List.mem_flatMap.mp hg
  obtain ⟨p, -, hs⟩ := List.mem_flatMap.mp hs
  cases p with
  | bare s inert =>
      obtain ⟨c, hc, rfl⟩ := List.mem_map.mp hs
      obtain rfl := List.mem_singleton.mp hg
      have hne {d : Char} (hd : isInert d = false) : c ≠ d :=
        ne_of_isInert (List.all_eq_true.mp inert c hc) hd
      exact ⟨hne rfl, hne rfl, hne rfl, hne rfl⟩
  | quoted s =>
      rcases List.mem_cons.mp hs with rfl | hs
      · obtain rfl := List.mem_singleton.mp hg
        trivial
      · obtain ⟨c, -, rfl⟩ := List.mem_map.mp hs
        obtain rfl := List.mem_singleton.mp hg
        trivial

/-! ## One field -/

/-- A word that is the same one field in every shell, whatever its scripts would write, and leaves
the shell as it was. -/
def Yields (word : Word) (field : String) : Prop :=
  ∀ (output : Script → Act String) (m : Machine), m.world.disk.Distinct →
    (expandFields output word).run m = (.ok [field], m)

/-- Whether paths are looked for or not, the field stays. -/
theorem pathsOrText_of_isLiteral {m : Machine} (hdisk : m.world.disk.Distinct) {gs : List Glyph}
    (h : ∀ g ∈ gs, g.IsLiteral) :
    let paths := if m.hasOption 'f' then [] else Glob.paths m.world.disk m.place gs
    (if paths.isEmpty then [textOf gs] else paths) = [textOf gs] := by
  intro paths
  have hpaths : paths = [] ∨ paths = [textOf gs] := by
    simp only [paths]
    split
    · exact Or.inl rfl
    · exact Glob.paths_of_isLiteral hdisk m.place h
  rcases hpaths with hpaths | hpaths
  · rw [hpaths]
    rfl
  · rw [hpaths]
    rfl

/-- **A literal word is one field.** It is its text, and no expansion takes place, no splitting, and
no search for paths that finds anything else. -/
theorem Literal.yields {w : Literal} (hw : w.spelling ≠ []) :
    Yields w.pieces (String.ofList w.text) := by
  intro output m hdisk
  have hpieces : expandPieces output { full := true, tildes := .atStart } w.pieces 0 true =
      pure w.segments := expandPieces_literal output w true
  have hsplit : Field.split m.separators none w.segments = [w.glyphs] :=
    Field.split_never _ (fun _ => splitting_of_mem_segments) (glyphs_ne_nil hw)
  have hfield := pathsOrText_of_isLiteral hdisk fun g (hg : g ∈ w.glyphs) =>
    isLiteral_of_mem_glyphs hg
  have hrun : (expandFields output w.pieces).run m =
      (.ok ((Field.split m.separators none w.segments).flatMap fun glyphs =>
        let paths := if m.hasOption 'f' then [] else Glob.paths m.world.disk m.place glyphs
        if paths.isEmpty then [textOf glyphs] else paths), m) := by
    rw [expandFields, hpieces]
    rfl
  rw [hrun, hsplit, List.flatMap_singleton, hfield, textOf_glyphs]

end RouteKeeper.Shell
