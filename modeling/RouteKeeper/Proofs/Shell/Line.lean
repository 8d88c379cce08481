import RouteKeeper.Proofs.Shell.Command
import RouteKeeper.Proofs.Shell.Expansion
import RouteKeeper.Shell.Process

/-!
# Carrying out a line of literal words

A shell that is given a line of literal words carries out one command and is at the end.
-/

namespace RouteKeeper.Shell

/-- At the end no line is carried out. -/
theorem runLines_end (go : Carry) (tested : Bool) (last : Nat) (fuel : Nat) (lastWord : Word)
    (status : Nat) (m : Machine) :
    runLines go tested last (fuel + 1) { rest := [], pushed := some .ending, lastWord } status m =
      (.ok status, m) := by
  obtain ⟨s, hend⟩ := readLine_end (t := { last, aliases := m.aliases }) lastWord
  rw [runLines]
  simp only [hend]

/-- A shell without aliases carries out a text as one command: it does nothing before and nothing
after, and the status is that of the command. -/
def RunsAs (text : String) (command : Command) : Prop :=
  ∀ (go : Carry) (tested : Bool) (m : Machine), m.aliases = [] →
    (runText go tested text).run m =
      let (result, after) := (go { tested } command).run
        { m with documents := [], reached := lineEnds text.toList + 1 }
      let after := { after with documents := m.documents }
      match result with
      | .error stop => (.error stop, after)
      | .ok () => (.ok after.status, after)

/-- **One line, one command.** A text of literal words is carried out as the simple command of these
words. -/
theorem runsAs_words {name : Literal} {ws : List Literal}
    (hname : ∀ t : Setting, t.aliases = [] → name.IsName t)
    (hws : ∀ t : Setting, t.aliases = [] → ∀ w ∈ ws, w.IsArgument t) :
    RunsAs (String.ofList (name.spelling ++ blanked ws))
      (.simple (lineEnds name.spelling + 1) [] ((name :: ws).map Literal.pieces) []) := by
  intro go tested m haliases
  let cs := name.spelling ++ blanked ws
  let t : Setting := { last := lineEnds cs + 1, aliases := m.aliases }
  have hline : t.lineOf (blanked ws) = lineEnds name.spelling + 1 := by
    simp only [t, cs, Setting.lineOf, lineEnds, List.count_append]
    omega
  obtain ⟨last, hread⟩ := readLine_words (hname t haliases) (hws t haliases)
  rw [hline] at hread
  have hrun : (runText go tested (String.ofList (name.spelling ++ blanked ws))).run m =
      runLines go tested (lineEnds cs + 1) (cs.length + 2) { rest := cs } 0 m := by
    rw [runText, String.toList_ofList]
    rfl
  rw [hrun, runLines]
  simp only [t, cs] at hread
  have hnothing : lineEnds [] = 0 := rfl
  simp only [cs, hread, Script.command, Script.documents, Command.isNothing, runLines_end,
    hnothing, Nat.sub_zero, String.toList_ofList]
  -- What is left to tell apart is how the command ends.
  rcases (go { tested } _).run _ with ⟨stop | _, after⟩
  · rfl
  · simp only [Bool.false_eq_true, if_false, ite_self]

/-- A text that every shell without aliases takes for one command of the same fields: it is read as
one simple command without assignments and redirections, it is carried out as this command, and
each of its words is made of characters and yields its field. -/
def IsCommandOf (text : String) (fields : List String) : Prop :=
  ∃ line words, script? text = some [.simple line [] words []] ∧
    RunsAs text (.simple line [] words []) ∧
    (∀ word ∈ words, ∀ piece ∈ word, piece.IsCharacters) ∧ List.Forall₂ Yields words fields

/-- Literal words are a command of their texts. -/
theorem isCommandOf_words {name : Literal} {ws : List Literal}
    (hname : ∀ t : Setting, t.aliases = [] → name.IsName t)
    (hws : ∀ t : Setting, t.aliases = [] → ∀ w ∈ ws, w.IsArgument t) :
    IsCommandOf (String.ofList (name.spelling ++ blanked ws))
      ((name :: ws).map fun w => String.ofList w.text) := by
  refine ⟨_, _, script?_words hname hws, runsAs_words hname hws, ?_, ?_⟩
  · intro word hword piece hpiece
    obtain ⟨w, -, rfl⟩ := List.mem_map.mp hword
    exact Literal.isCharacters_of_mem_pieces hpiece
  · rw [List.forall₂_map_left_iff, List.forall₂_map_right_iff, List.forall₂_same]
    intro w hw
    rcases List.mem_cons.mp hw with rfl | hw
    · exact Literal.yields (hname { last := 0 } rfl).spelling_ne_nil
    · exact Literal.yields (hws { last := 0 } rfl w hw).spelling_ne_nil

end RouteKeeper.Shell
