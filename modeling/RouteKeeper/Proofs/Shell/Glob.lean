import Mathlib.Data.List.Nodup
import RouteKeeper.Shell.Glob

/-!
# Paths of texts that look like patterns

A field may hold the signs of a pattern without their meaning. Such a pattern matches its own text
only, and a tree of files has an entry at most once, so a field of this kind has at most one path,
its own text.
-/

namespace RouteKeeper.Shell

/-- The text of glyphs is that of one part of them and then that of the other. -/
theorem textOf_append (gs hs : List Glyph) : textOf (gs ++ hs) = textOf gs ++ textOf hs := by
  rw [textOf, List.filterMap_append, String.ofList_append]
  rfl

theorem textOf_cons_char (c : Char) (quoted : Bool) (gs : List Glyph) :
    textOf (.char c quoted :: gs) = String.singleton c ++ textOf gs := by
  rw [← List.singleton_append, textOf_append]
  rfl

/-! ## Patterns -/

/-- A glyph without a meaning in a pattern. -/
def Glyph.IsLiteral : Glyph → Prop
  | .char c false => c ≠ '\\' ∧ c ≠ '*' ∧ c ≠ '?' ∧ c ≠ '['
  | _ => True

namespace Pattern

/-- A character without a meaning matches itself. -/
theorem ofChars_cons_of_isLiteral {c : Char} (hc : (Glyph.char c false).IsLiteral) (fuel : Nat)
    (cs : List Char) : ofChars (fuel + 1) (c :: cs) = .exactly c :: ofChars fuel cs := by
  obtain ⟨hquote, hmany, hone, hbracket⟩ := hc
  rw [ofChars]
  · rintro d rest h -
    exact hquote h
  · exact hmany
  · exact hone
  · exact hbracket

/-- Glyphs without a meaning are a pattern of the characters of their text. -/
theorem ofChars_patternChars {gs : List Glyph} (h : ∀ g ∈ gs, g.IsLiteral) {fuel : Nat}
    (hfuel : (patternChars gs).length ≤ fuel) :
    ofChars fuel (patternChars gs) = (textOf gs).toList.map .exactly := by
  induction gs generalizing fuel with
  | nil =>
      cases fuel with
      | zero => rfl
      | succ fuel => rfl
  | cons g gs ih =>
      obtain ⟨hg, hgs⟩ := List.forall_mem_cons.mp h
      cases g with
      | quote => exact ih hgs hfuel
      | char c quoted =>
          rw [textOf_cons_char, String.toList_append, String.toList_singleton, List.map_append]
          cases quoted with
          | true =>
              have hchars : patternChars (.char c true :: gs) = '\\' :: c :: patternChars gs := rfl
              rw [hchars] at hfuel ⊢
              obtain ⟨fuel, rfl⟩ := Nat.exists_eq_add_one_of_ne_zero (Nat.ne_zero_of_lt hfuel)
              simp only [List.length_cons] at hfuel
              have hfuel : (patternChars gs).length ≤ fuel := by omega
              exact congrArg (List.cons _) (ih hgs hfuel)
          | false =>
              have hchars : patternChars (.char c false :: gs) = c :: patternChars gs := rfl
              rw [hchars] at hfuel ⊢
              obtain ⟨fuel, rfl⟩ := Nat.exists_eq_add_one_of_ne_zero (Nat.ne_zero_of_lt hfuel)
              simp only [List.length_cons] at hfuel
              rw [ofChars_cons_of_isLiteral hg]
              have hfuel : (patternChars gs).length ≤ fuel := by omega
              exact congrArg (List.cons _) (ih hgs hfuel)

/-- Such a pattern matches one text only. -/
theorem accepts_exactly (cs ds : List Char) :
    accepts (cs.map .exactly) ds = true ↔ ds = cs := by
  induction cs generalizing ds with
  | nil => simp [accepts]
  | cons c cs ih =>
      cases ds with
      | nil => simp [accepts]
      | cons d ds => simp [accepts, Item.accepts, ih]

end Pattern

/-! ## Files -/

/-- Every place of a tree of files has one entry. -/
def Disk.Distinct (d : Disk) : Prop :=
  (d.entries.map (·.1)).Nodup

namespace Disk

theorem bare_distinct : bare.Distinct := by
  unfold Distinct
  decide +kernel

/-- No name is twice in a directory. -/
theorem Distinct.namesIn_nodup {d : Disk} (h : d.Distinct) (place : Path) :
    (d.namesIn place).Nodup := by
  let name? (p : Path) : Option String :=
    if p.dropLast == place && !p.isEmpty then p.getLast? else none
  have hnames : d.namesIn place = (d.entries.map (·.1)).filterMap name? := by
    rw [List.filterMap_map]
    rfl
  have hpath {p : Path} {name : String} (hname : name ∈ name? p) : p = place ++ [name] := by
    simp only [name?] at hname
    split at hname
    case isTrue hplace =>
      obtain ⟨hplace, -⟩ := Bool.and_eq_true_iff.mp hplace
      rw [← beq_iff_eq.mp hplace]
      exact (List.dropLast_append_getLast? name hname).symm
    case isFalse => cases hname
  rw [hnames]
  refine h.filterMap ?_
  intro p p' name hname hname'
  rw [hpath hname, hpath hname']

end Disk

namespace Glob

/-- Of a list without duplicates a condition that only one value meets leaves it or nothing. -/
theorem filter_cases {names : List String} (hnames : names.Nodup) {wanted : String}
    {p : String → Bool} (hp : ∀ name ∈ names, p name = true → name = wanted) :
    names.filter p = [] ∨ names.filter p = [wanted] := by
  have hall : ∀ name ∈ names.filter p, name = wanted := by
    intro name hname
    obtain ⟨hmem, hname⟩ := List.mem_filter.mp hname
    exact hp name hmem hname
  have hnodup : (names.filter p).Nodup := hnames.filter p
  match hfound : names.filter p with
  | [] => exact Or.inl rfl
  | [name] =>
      rw [hall name (by simp [hfound])]
      exact Or.inr rfl
  | first :: second :: rest =>
      have hsame : first = second := by
        rw [hall first (by simp [hfound]), hall second (by simp [hfound])]
      rw [hfound] at hnodup
      exact absurd (hsame ▸ List.mem_cons_self) (List.nodup_cons.mp hnodup).1

/-- The sign of a pattern is in the text of its part. -/
theorem exists_mem_textOf {part : List Glyph} (hspecial : part.any isSpecial = true) :
    ∃ c ∈ (textOf part).toList, c ≠ '.' := by
  obtain ⟨g, hg, hspecial⟩ := List.any_eq_true.mp hspecial
  cases g with
  | quote => cases hspecial
  | char c quoted =>
      refine ⟨c, ?_, ?_⟩
      · rw [textOf, String.toList_ofList]
        exact List.mem_filterMap.mpr ⟨_, hg, rfl⟩
      · rintro rfl
        cases hspecial

section

variable {d : Disk} (hd : d.Distinct)
include hd

/-- In a directory a name that looks like a pattern is there or is not. -/
theorem names_of_isLiteral {part : List Glyph} (h : ∀ g ∈ part, g.IsLiteral)
    (hspecial : part.any isSpecial = true) (place : Path) :
    names d place part = [] ∨ names d place part = [textOf part] := by
  have hown {dotted : Bool} {name : String}
      (hname : (dotted && Pattern.accepts (patternOf part) name.toList) = true) :
      name = textOf part := by
    rw [patternOf, Pattern.ofChars_patternChars h (Nat.le_refl _)] at hname
    obtain ⟨-, haccepts⟩ := Bool.and_eq_true_iff.mp hname
    exact String.toList_injective ((Pattern.accepts_exactly ..).mp haccepts)
  obtain ⟨c, hc, hdot⟩ := exists_mem_textOf hspecial
  have hdots : ∀ name ∈ [".", ".."], name ≠ textOf part := by
    intro name hname hsame
    rw [← hsame] at hc
    rcases List.mem_pair.mp hname with rfl | rfl
    · simp at hc
      exact hdot hc
    · simp at hc
      exact hdot hc
  have hnone (dotted : Bool) (p : String → Bool) (hp : ∀ name, p name = true → name = textOf part) :
      (if dotted = true then [".", ".."] else []).filter p = [] := by
    refine List.filter_eq_nil_iff.mpr ?_
    intro name hname hp'
    split at hname
    · exact hdots name hname (hp name hp')
    · cases hname
  unfold names
  simp only [List.filter_append]
  rw [hnone _ _ fun name => hown, List.append_nil]
  exact filter_cases (hd.namesIn_nodup place) fun name _ => hown

/-- Of literal parts there is at most one path. -/
theorem pathsFrom_of_isLiteral (directory : Path) {parts : List (List Glyph)} (hparts : parts ≠ [])
    (h : ∀ part ∈ parts, ∀ g ∈ part, g.IsLiteral) (soFar : String) :
    pathsFrom d directory soFar parts = [] ∨
      pathsFrom d directory soFar parts = [soFar ++ "/".intercalate (parts.map textOf)] := by
  induction parts generalizing soFar with
  | nil => exact absurd rfl hparts
  | cons part rest ih =>
      obtain ⟨hpart, hrest⟩ := List.forall_mem_cons.mp h
      cases rest with
      | nil =>
          rw [pathsFrom, List.map_singleton, String.intercalate_singleton]
          by_cases hspecial : part.any isSpecial = true
          · rw [if_pos hspecial]
            cases pathsFrom.placeOf d directory soFar with
            | none => exact Or.inl rfl
            | some place =>
                rcases names_of_isLiteral hd hpart hspecial place with hnames | hnames
                · exact Or.inl (congrArg (List.map _) hnames)
                · exact Or.inr (congrArg (List.map _) hnames)
          · rw [if_neg hspecial]
            dsimp only
            split
            · exact Or.inr rfl
            · exact Or.inl rfl
      | cons next rest =>
          have hnext := ih (List.cons_ne_nil _ _) hrest (soFar ++ textOf part ++ "/")
          have htext : soFar ++ "/".intercalate ((part :: next :: rest).map textOf) =
              soFar ++ textOf part ++ "/" ++ "/".intercalate ((next :: rest).map textOf) := by
            simp only [List.map_cons, String.intercalate_cons_cons, String.append_assoc]
          rw [htext]
          unfold pathsFrom
          by_cases hspecial : part.any isSpecial = true
          · simp only [if_pos hspecial]
            cases pathsFrom.placeOf d directory soFar with
            | none => exact Or.inl rfl
            | some place =>
                rcases names_of_isLiteral hd hpart hspecial place with hnames | hnames
                · exact Or.inl (congrArg (List.flatMap _) hnames)
                · simp only [hnames, List.flatMap_singleton]
                  split
                  · exact hnext
                  · exact Or.inl rfl
          · simp only [if_neg hspecial]
            exact hnext

end

theorem parts_ne_nil (gs : List Glyph) : parts gs ≠ [] :=
  List.splitOnP_ne_nil _ _

theorem parts_slash (quoted : Bool) (gs : List Glyph) :
    parts (.char '/' quoted :: gs) = [] :: parts gs :=
  List.splitOnP_cons_eq_if_modifyHead ..

/-- A glyph that is no slash belongs to the first part. -/
theorem parts_cons {g : Glyph} (hg : ∀ quoted, g ≠ .char '/' quoted) (gs : List Glyph) :
    parts (g :: gs) = (parts gs).modifyHead (g :: ·) := by
  rw [parts, List.splitOnP_cons_eq_if_modifyHead]
  split
  case h_1 quoted => exact absurd rfl (hg quoted)
  case h_2 => rfl

/-- A field is its parts with slashes between them. -/
theorem intercalate_parts (gs : List Glyph) :
    "/".intercalate ((parts gs).map textOf) = textOf gs := by
  induction gs with
  | nil => rfl
  | cons g gs ih =>
      by_cases hg : ∃ quoted, g = .char '/' quoted
      · obtain ⟨quoted, rfl⟩ := hg
        have hne : (parts gs).map textOf ≠ [] := mt List.map_eq_nil_iff.mp (parts_ne_nil gs)
        rw [parts_slash, List.map_cons, String.intercalate_cons_of_ne_nil hne, ih,
          textOf_cons_char]
        rfl
      · rw [parts_cons (fun quoted h => hg ⟨quoted, h⟩)]
        obtain ⟨part, rest, hparts⟩ := List.exists_cons_of_ne_nil (parts_ne_nil gs)
        have hhead : textOf (g :: part) = textOf [g] ++ textOf part := textOf_append [g] part
        have htext : textOf (g :: gs) = textOf [g] ++ textOf gs := textOf_append [g] gs
        rw [htext, ← ih, hparts]
        cases rest with
        | nil => simpa using hhead
        | cons next rest => simp [String.intercalate_cons_cons, hhead, String.append_assoc]

/-- What holds of all glyphs of a field holds of those of its parts. -/
theorem forall_mem_parts {P : Glyph → Prop} {gs : List Glyph} (h : ∀ g ∈ gs, P g) :
    ∀ part ∈ parts gs, ∀ g ∈ part, P g := by
  induction gs with
  | nil =>
      intro part hpart g hg
      obtain rfl := List.mem_singleton.mp hpart
      cases hg
  | cons g gs ih =>
      obtain ⟨hg, hgs⟩ := List.forall_mem_cons.mp h
      by_cases hslash : ∃ quoted, g = .char '/' quoted
      · obtain ⟨quoted, rfl⟩ := hslash
        rw [parts_slash]
        exact List.forall_mem_cons.mpr ⟨List.forall_mem_nil _, ih hgs⟩
      · rw [parts_cons (fun quoted h => hslash ⟨quoted, h⟩)]
        obtain ⟨part, rest, hparts⟩ := List.exists_cons_of_ne_nil (parts_ne_nil gs)
        have ih := ih hgs
        rw [hparts] at ih ⊢
        obtain ⟨hpart, hrest⟩ := List.forall_mem_cons.mp ih
        exact List.forall_mem_cons.mpr ⟨List.forall_mem_cons.mpr ⟨hg, hpart⟩, hrest⟩

/-- A literal field has at most one path, its own text. -/
theorem paths_of_isLiteral {d : Disk} (hd : d.Distinct) (directory : Path) {gs : List Glyph}
    (h : ∀ g ∈ gs, g.IsLiteral) :
    paths d directory gs = [] ∨ paths d directory gs = [textOf gs] := by
  unfold paths
  split
  · rcases pathsFrom_of_isLiteral hd directory (parts_ne_nil gs) (forall_mem_parts h) "" with
      hpaths | hpaths
    · rw [hpaths]
      exact Or.inl List.mergeSort_nil
    · rw [hpaths, intercalate_parts, String.empty_append]
      exact Or.inr (List.mergeSort_singleton _)
  · exact Or.inl rfl

end Glob

end RouteKeeper.Shell
