import RouteKeeper.Proofs.Shell.Calm
import RouteKeeper.Proofs.Shell.Handover
import RouteKeeper.Proofs.Shell.Line
import RouteKeeper.Shell.Host

/-!
# Quoting and the shell

The shell undoes the quoting of a text, except for newlines: a newline gets a backslash like the
other special characters, but between double quotes the shell passes over a backslash with a
newline. So a text comes through quoting and the shell as it is exactly if it has no newline.
-/

namespace RouteKeeper.Shell

open Act

/-! ## Printing -/

/-- The format for one text. -/
def oneText : String := "%s"

/-- The conversion of a text without flags, width and precision. -/
def plainText : Printf.Conversion :=
  { flags := [] }

/-- The plain conversion leaves a text as it is. -/
theorem convert_plainText (text : String) :
    (Printf.convert plainText 's').run { arguments := [text] } =
      (some false, { written := text.toList.reverse, arguments := [] }) := by
  have hsame : plainText.text text.toList = text.toList := by
    simp [plainText, Printf.Conversion.text, Printf.Conversion.pad, Printf.Conversion.has]
  have hrun : (Printf.convert plainText 's').run { arguments := [text] } =
      (some false, { written := (plainText.text text.toList).reverse ++ [], arguments := [] }) :=
    rfl
  rw [hrun, hsame, List.append_nil]

/-- One text in the format for it is the text itself. -/
theorem write_oneText (text : String) : Printf.write oneText [text] = (text, [], 0) := by
  have hformat : oneText.toList = ['%', 's'] := by decide
  have hflags : ['s'].span ("#-+ 0".toList.contains ·) = ([], ['s']) := by decide
  have hdigits : ['s'].span Char.isDigit = ([], ['s']) := by decide
  have hmeasure : Printf.measure ['s'] = pure (none, ['s']) := by
    rw [Printf.measure]
    · rw [hdigits]
      rfl
    · simp
  have hwidth : decide (Printf.greatestWidth < 0) = false := by decide
  have honce : (Printf.once 2 ['%', 's']).run { arguments := [text] } =
      (.complete, { written := text.toList.reverse, arguments := [] }) := by
    rw [Printf.once]
    · simp only [hflags, hmeasure, pure_bind, Option.getD_none, Int.natAbs_zero, Option.bind_none,
        Option.any_none, Bool.or_false, Int.lt_irrefl, if_false, hwidth, Bool.false_eq_true]
      refine (StateT.run_bind ..).trans ?_
      rw [← plainText, convert_plainText]
      rfl
    · simp
  have hagain : (Printf.again 2 ['%', 's']).run { arguments := [text] } =
      (.complete, { written := text.toList.reverse, arguments := [] }) := by
    simp only [Printf.again, StateT.run_bind, StateT.run_get, pure_bind, List.length_cons,
      List.length_nil, honce]
    rfl
  rw [Printf.write, hformat, List.length_singleton, hagain]
  simp

variable {m : Machine}

theorem takes_printf (text : String) :
    (Builtin.printf [oneText, text]).Takes m { output := text } m := by
  have hoptions : (Builtin.options "" [oneText, text]).Takes m ([], [oneText, text]) m := rfl
  refine .bind hoptions ?_
  simp only [write_oneText]
  exact .bind (takes_pure _ m) (takes_pure _ m)

/-- A shell that has written nothing and whose standard output is collected. -/
structure Machine.IsSilent (m : Machine) : Prop where
  channel : m.channel? 1 = some (.sink outputSink)
  sinks : m.world.sinks = [(outputSink, {}), (errorSink, {})]

/-- What is collected once a silent shell has written a text. -/
def Machine.sinksWith (m : Machine) (text : String) : List (Nat × Sink) :=
  if text.isEmpty then m.world.sinks
  else
    let s : Sink := { writes := [⟨m.clock, m.lineage, text⟩], size := text.length }
    [(outputSink, s), (errorSink, {})]

theorem takes_write (h : m.IsSilent) (text : String) :
    (write 1 text).Takes m none { m with world.sinks := m.sinksWith text } := by
  obtain ⟨number, hnumber, hchannel⟩ := Option.bind_eq_some_iff.mp h.channel
  by_cases htext : text.isEmpty = true
  · rw [write, if_pos htext, Machine.sinksWith, if_pos htext]
    exact takes_pure _ m
  · have hpour : m.pour outputSink text = (true, { m with world.sinks := m.sinksWith text }) := by
      simp [Machine.pour, Machine.sinksWith, h.sinks, htext, outputSink, errorSink]
    rw [write, if_neg htext]
    refine .bind (takes_get m) ?_
    simp only [hnumber, hchannel, hpour]
    exact .bind (takes_set _ _) (takes_pure _ _)

theorem takes_runBuiltin_printf (h : m.IsSilent) (go : Carry) (tested : Bool) (text : String) :
    (runBuiltin go tested false "printf" [oneText, text]).Takes m ()
      { m with world.sinks := m.sinksWith text, status := 0 } := by
  let during : Machine := { m with utility := some "printf" }
  have hduring : during.IsSilent := ⟨h.channel, h.sinks⟩
  have hprintf : builtin go tested "printf" = Builtin.printf := rfl
  have hreport : (builtin go tested "printf" [oneText, text]).Takes during { output := text }
      during := by
    rw [hprintf]
    exact takes_printf text
  exact takes_runBuiltin go hreport (takes_write hduring text)

/-- The text is what was written. -/
theorem written_sinksWith (h : m.IsSilent) (text : String) (w : World)
    (hw : w.sinks = m.sinksWith text) :
    w.written outputSink = text ∧ w.written errorSink = "" := by
  rw [World.written, World.written, hw, Machine.sinksWith, h.sinks]
  by_cases htext : text.isEmpty = true
  · have hnothing : text = "" := String.isEmpty_iff.mp htext
    rw [if_pos htext, hnothing]
    simp [List.lookup_cons, outputSink, errorSink, inOrder]
  · rw [if_neg htext]
    simp [List.lookup_cons, outputSink, errorSink, inOrder]

/-- A calm shell that has written one text and ends with success unless more is done. -/
structure Machine.HasPrinted (m : Machine) (text : String) : Prop where
  calm : m.IsCalm
  skip : m.skip = none
  status : m.status = 0
  output : m.world.written outputSink = text
  errors : m.world.written errorSink = ""

/-- A shell that is ready to print: it is calm and silent, and has no aliases. -/
structure Machine.IsReady (m : Machine) : Prop where
  calm : m.IsCalm
  silent : m.IsSilent
  skip : m.skip = none
  aliases : m.aliases = []
  distinct : m.world.disk.Distinct

theorem isOrdinary_printf : IsOrdinary "printf" := by
  rw [IsOrdinary]
  decide

/-- A command whose fields are the utility, its format and a text prints the text. -/
theorem takes_evaluate_printf (h : m.IsReady) (go : Carry) (tested : Bool) {words : List Word}
    {text : String} (hwords : List.Forall₂ Yields words ["printf", oneText, text]) (line : Nat) :
    ∃ after, (evaluate go { tested } (.simple line [] words [])).Takes m () after ∧
      after.HasPrinted text := by
  obtain ⟨calm, silent, skip, -, distinct⟩ := h
  let m₁ : Machine := { m with line }.prepared
  let m₂ : Machine := { m₁ with world.sinks := m₁.sinksWith text, status := 0 }
  have hsilent : m₁.IsSilent := ⟨silent.channel, silent.sinks⟩
  have hcalm : (m₂.concluded m).IsCalm := calm.of_watched rfl
  obtain ⟨houtput, herrors⟩ := written_sinksWith hsilent text (m₂.concluded m).world rfl
  refine ⟨m₂.concluded m, ?_, ⟨hcalm, skip, rfl, houtput, herrors⟩⟩
  exact takes_evaluate go calm distinct isOrdinary_printf hwords
    (takes_runBuiltin_printf hsilent go tested text) rfl hcalm

/-- So does a text that is this command. -/
theorem takes_runText_printf (h : m.IsReady) (fuel : Nat) (tested : Bool) {command text : String}
    (hcommand : IsCommandOf command ["printf", oneText, text]) :
    ∃ after, (runText (carryOut (fuel + 1)) tested command).Takes m 0 after ∧
      after.HasPrinted text := by
  obtain ⟨calm, silent, skip, aliases, distinct⟩ := h
  obtain ⟨line, words, -, hrunsAs, -, hyields⟩ := hcommand
  let m₁ : Machine := { m with documents := [], reached := lineEnds command.toList + 1 }
  have h₁ : m₁.IsReady :=
    ⟨calm.of_watched rfl, ⟨silent.channel, silent.sinks⟩, skip, aliases, distinct⟩
  obtain ⟨after, hafter, hprinted⟩ :=
    takes_evaluate_printf h₁ (carryOut fuel) tested hyields line
  obtain ⟨calm, skip, status, output, errors⟩ := hprinted
  have hrun := hrunsAs.takes (carryOut (fuel + 1)) aliases hafter
  rw [status] at hrun
  exact ⟨_, hrun, calm.of_watched rfl, skip, rfl, output, errors⟩

/-! ## The command -/

/-- The command that prints a text. -/
def printCommand (s : String) : String :=
  "printf %s " ++ quote s

/-- The word that names the utility. -/
def printfWord : Literal :=
  [.bare "printf".toList (by decide)]

/-- The word that is the format. -/
def formatWord : Literal :=
  [.bare oneText.toList (by decide)]

/-- The word that is a quoted text. -/
def quotedWord (s : String) : Literal :=
  [.quoted (handed s).toList]

/-- The command is handed over as its three words with blanks between them. -/
theorem handed_printCommand (s : String) :
    handed (printCommand s) =
      String.ofList (printfWord.spelling ++ blanked [formatWord, quotedWord s]) := by
  have hfront : handed "printf %s " = "printf %s " := handed_of_lt (by decide)
  rw [printCommand, handed_append, hfront]
  apply String.toList_injective
  simp [toList_handed_quote, printfWord, formatWord, oneText, quotedWord, blanked, Literal.spelling,
    Part.spelling]

theorem spelling_quotedWord (s : String) :
    (quotedWord s).spelling = (handed (quote s)).toList := by
  simp [quotedWord, Literal.spelling, Part.spelling, toList_handed_quote]

/-- The text of a quoted word is the quoted text without newlines. -/
theorem text_quotedWord (s : String) :
    String.ofList (quotedWord s).text = handed (withoutNewlines s) := by
  apply String.toList_injective
  simp [quotedWord, Literal.text, Part.text, unbroken_handed]

/-- A quoted text yields itself without newlines. -/
theorem yields_quotedWord (s : String) :
    Yields (quotedWord s).pieces (handed (withoutNewlines s)) := by
  rw [← text_quotedWord]
  exact Literal.yields (List.cons_ne_nil _ _)

/-- The command is one of three fields: the utility, its format, and the text without newlines. -/
theorem isCommandOf_printCommand (s : String) :
    IsCommandOf (handed (printCommand s)) ["printf", oneText, handed (withoutNewlines s)] := by
  rw [handed_printCommand, ← text_quotedWord]
  refine isCommandOf_words (fun t ht => ?_) fun t ht => ?_
  · exact { toIsArgument := Literal.isArgument ht (by decide) (by decide),
            assignment?_eq_none := by decide }
  · simp only [List.forall_mem_cons]
    exact ⟨Literal.isArgument ht (by decide) (by decide),
      Literal.isArgument ht (List.cons_ne_nil _ _) nofun, nofun⟩

/-- What is known of a command that a shell ends successfully after it has written a text. -/
theorem interpret_of_takes {command t : String} {m : Machine}
    (hrun : (runShell (carryOut patience) "/bin/sh" ["-c", handed command]).Takes
      { bindings := hostVariables } (.exited 0) m)
    (houtput : m.world.written outputSink = handed t) (herrors : m.world.written errorSink = "") :
    interpret command = { output := Text.utf8 t } := by
  have hinterpret : interpret command = finished (.ok (.exited 0)) m := by
    rw [Takes] at hrun
    rw [handed] at hrun
    rw [interpret, hrun]
  have hbytes : Text.toBytes (handed t) = Text.utf8 t := Text.toBytes_ofBytes _
  rw [hinterpret, finished, houtput, herrors, hbytes]
  rfl

/-- A shell that is given the command writes the text without newlines, and ends with success. -/
theorem interpret_printCommand (s : String) :
    interpret (printCommand s) = { output := Text.utf8 (withoutNewlines s) } := by
  let m : Machine := Machine.renewed { bindings := hostVariables } "/bin/sh"
  have hready : { m with arguments := [] }.IsReady :=
    ⟨⟨rfl, rfl, rfl, rfl, rfl⟩, ⟨rfl, rfl⟩, rfl, rfl, Disk.bare_distinct⟩
  have hcalm : m.IsCalm := ⟨rfl, rfl, rfl, rfl, rfl⟩
  obtain ⟨after, hafter, hprinted⟩ := takes_runText_printf hready 99999 false
    (isCommandOf_printCommand s)
  obtain ⟨cs, hcs⟩ : ∃ cs, (handed (printCommand s)).toList = 'p' :: cs := by
    rw [handed_printCommand, String.toList_ofList]
    exact ⟨_, rfl⟩
  have hobey := takes_obey (carryOut patience) hcalm hcs (by decide) (by decide) hafter
  have hend := takes_untilEnd (carryOut patience) hobey hprinted.calm hprinted.skip
  rw [hprinted.status] at hend
  exact interpret_of_takes (.bind (takes_modify _ _) hend) hprinted.output hprinted.errors

/-- Escaping adds nothing but backslashes. -/
theorem mem_or_eq_of_mem_escape {c : Char} {s : List Char} (h : c ∈ escape s) :
    c ∈ s ∨ c = '\\' := by
  induction s with
  | nil => exact Or.inl h
  | cons d s ih =>
      rw [escape] at h
      split at h
      · simp only [List.mem_cons] at h ⊢
        rcases h with h | h | h
        · exact Or.inr h
        · exact Or.inl (Or.inl h)
        · exact (ih h).imp_left Or.inr
      · simp only [List.mem_cons] at h ⊢
        rcases h with h | h
        · exact Or.inl (Or.inl h)
        · exact (ih h).imp_left Or.inr

/-- A host can be handed the command for any text that it can be handed. -/
theorem nul_notMem_printCommand {s : String} (h : '\x00' ∉ s.toList) :
    '\x00' ∉ (printCommand s).toList := by
  have hescape : '\x00' ∉ escape s.toList := by
    intro hmem
    rcases mem_or_eq_of_mem_escape hmem with hmem | hmem
    · exact h hmem
    · exact absurd hmem (by decide)
  simp [printCommand, quote, quoteChars, hescape]

/-- A host prints a quoted text without its newlines. -/
theorem host_printCommand {s : String} (h : '\x00' ∉ s.toList) :
    (host (printCommand s) ()).1 = .ok { output := Text.utf8 (withoutNewlines s) } := by
  have hnul : (printCommand s).contains '\x00' = false := by
    rw [String.contains_char_eq]
    exact decide_eq_false (nul_notMem_printCommand h)
  rw [host, hnul, interpret_printCommand]
  rfl

/-! ## Words -/

/-- A text is a word of one field: wherever words end after it, the shell reads it up to there, and
what it has read yields the field. -/
def Denotes (text field : String) : Prop :=
  ∃ word, Yields word field ∧ ∀ (scope : Scope) (rest : List Char) (fuel : Nat), EndsAt rest →
    text.length < fuel → readWord scope fuel (text.toList ++ rest) = .ok (word, rest)

/-- A word yields one field only. -/
theorem Yields.unique {word : Word} {x y : String} (hx : Yields word x) (hy : Yields word y) :
    x = y := by
  have hx := hx (fun _ => pure "") {} Disk.bare_distinct
  have hy := hy (fun _ => pure "") {} Disk.bare_distinct
  have hfields : [x] = [y] := Except.ok.inj (Prod.mk.inj (hx.symm.trans hy)).1
  exact (List.cons.inj hfields).1

theorem Denotes.unique {text x y : String} (hx : Denotes text x) (hy : Denotes text y) : x = y := by
  obtain ⟨word, hyields, hread⟩ := hx
  obtain ⟨word', hyields', hread'⟩ := hy
  let scope : Scope := { last := 0, script := fun _ cs => .ok (.mk .nothing [], cs) }
  have hends : EndsAt [] := nofun
  have hx := hread scope [] _ hends (Nat.lt_succ_self _)
  have hy := hread' scope [] _ hends (Nat.lt_succ_self _)
  obtain rfl : word = word' := (Prod.mk.inj (Except.ok.inj (hx.symm.trans hy))).1
  exact hyields.unique hyields'

/-- A quoted text is a word of the text without its newlines. -/
theorem denotes_quote (s : String) : Denotes (handed (quote s)) (handed (withoutNewlines s)) := by
  refine ⟨(quotedWord s).pieces, yields_quotedWord s, fun scope rest fuel hrest hfuel => ?_⟩
  rw [← spelling_quotedWord]
  refine readWord_spelling scope (quotedWord s) hrest ?_
  rwa [spelling_quotedWord, String.length_toList]

/-! ## Newlines -/

/-- **Quoting and newlines.** What the shell makes of a quoted text, as a word and in the command
that prints it, is the text itself if and only if the text has no newline. -/
theorem quote_undone_iff (s : String) (h : '\x00' ∉ s.toList) :
    (Denotes (handed (quote s)) (handed s) ↔ '\n' ∉ s.toList) ∧
      ((host (printCommand s) ()).1 = .ok { output := Text.utf8 s } ↔ '\n' ∉ s.toList) := by
  rw [← withoutNewlines_eq_iff, host_printCommand h]
  constructor
  · constructor
    · intro hword
      exact handed_injective ((denotes_quote s).unique hword)
    · intro hsame
      simpa [hsame] using denotes_quote s
  · constructor
    · intro hprinted
      have houtput := congrArg Finished.output (Except.ok.inj hprinted)
      exact Text.utf8_injective houtput
    · intro hsame
      rw [hsame]

/-- Other special characters come through. -/
theorem quote_undone_of_special :
    '\x00' ∉ "$HOME \"\\".toList ∧
      Denotes (handed (quote "$HOME \"\\")) (handed "$HOME \"\\") ∧
      (host (printCommand "$HOME \"\\") ()).1 = .ok { output := Text.utf8 "$HOME \"\\" } := by
  obtain ⟨hword, hprinted⟩ := quote_undone_iff "$HOME \"\\" (by decide)
  exact ⟨by decide, hword.mpr (by decide), hprinted.mpr (by decide)⟩

/-- Two lines come through as one. -/
theorem quote_not_undone_of_lines :
    '\x00' ∉ "a\nb".toList ∧ Denotes (handed (quote "a\nb")) (handed "ab") ∧
      ¬Denotes (handed (quote "a\nb")) (handed "a\nb") ∧
      (host (printCommand "a\nb") ()).1 = .ok { output := Text.utf8 "ab" } := by
  have hjoined : withoutNewlines "a\nb" = "ab" := by decide
  have hword : Denotes (handed (quote "a\nb")) (handed "ab") := hjoined ▸ denotes_quote "a\nb"
  refine ⟨by decide, hword, fun hlines => ?_, hjoined ▸ host_printCommand (by decide)⟩
  exact absurd (handed_injective (hword.unique hlines)) (by decide)

end RouteKeeper.Shell
