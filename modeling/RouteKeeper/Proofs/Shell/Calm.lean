import RouteKeeper.Proofs.Shell.Line
import RouteKeeper.Shell.Evaluation

/-!
# Utilities in a calm shell

A shell is calm if nothing but the next command decides what it does. There a command whose words
each are one field, the first of them the name of a utility of the shell, comes to what the utility
does with the others.
-/

namespace RouteKeeper.Shell

/-- An action takes one shell to another one with a value. -/
def Act.Takes {α : Type} (act : Act α) (m : Machine) (a : α) (after : Machine) : Prop :=
  act.run m = (.ok a, after)

namespace Act

theorem Takes.bind {α β : Type} {act : Act α} {next : α → Act β} {m m' m'' : Machine} {a : α}
    {b : β} (hact : act.Takes m a m') (hnext : (next a).Takes m' b m'') :
    (act >>= next).Takes m b m'' := by
  calc (act >>= next).run m
      = (ExceptT.bindCont next (act.run m).1).run (act.run m).2 := rfl
    _ = (next a).run m' := by
      rw [hact]
      rfl
    _ = (.ok b, m'') := hnext

theorem takes_pure {α : Type} (a : α) (m : Machine) : (pure a : Act α).Takes m a m := rfl

theorem takes_get (m : Machine) : (get : Act Machine).Takes m m m := rfl

theorem takes_set (m m' : Machine) : (set m' : Act PUnit).Takes m ⟨⟩ m' := rfl

theorem takes_modify (f : Machine → Machine) (m : Machine) :
    (modify f : Act PUnit).Takes m ⟨⟩ (f m) := rfl

end Act

open Act

/-- A shell in which nothing but the next command decides what is done: no option is set, no name
stands for a function, and no signal is waited for, has come, or is on its way. -/
structure Machine.IsCalm (m : Machine) : Prop where
  letters : m.options.letters = []
  functions : m.functions = []
  traps : m.traps = []
  caught : m.caught = []
  sent : m.world.sent = []

/-- What decides whether a shell is calm. -/
def Machine.watched (m : Machine) :
    Options × List (String × Function) × List (Nat × String) × List Nat × List Sent :=
  (m.options, m.functions, m.traps, m.caught, m.world.sent)

variable {m : Machine}

/-- A shell is calm if it watches nothing else than a calm one. -/
theorem Machine.IsCalm.of_watched (h : m.IsCalm) {m' : Machine} (hsame : m'.watched = m.watched) :
    m'.IsCalm := by
  simp only [watched, Prod.mk.injEq] at hsame
  obtain ⟨hoptions, hfunctions, htraps, hcaught, hsent⟩ := hsame
  constructor
  · rw [hoptions]
    exact h.letters
  · rw [hfunctions]
    exact h.functions
  · rw [htraps]
    exact h.traps
  · rw [hcaught]
    exact h.caught
  · rw [hsent]
    exact h.sent

theorem Machine.IsCalm.hasOption (h : m.IsCalm) (letter : Char) : m.hasOption letter = false := by
  rw [Machine.hasOption, h.letters]
  rfl

theorem takes_receiveAll (h : m.IsCalm) : receiveAll.Takes m () m := by
  refine .bind (takes_get m) ?_
  simp only [h.sent]
  exact takes_pure () m

/-- In a calm shell there is nothing to do on signals. -/
theorem takes_runTraps (h : m.IsCalm) (go : Carry) : (runTraps go).Takes m () m := by
  refine .bind (takes_receiveAll h) (.bind (takes_get m) ?_)
  rw [h.caught]
  exact takes_pure () m

/-- No trace is written. -/
theorem takes_trace (h : m.IsCalm) (output : Script → Act String) (before : Machine)
    (items : List String) : (trace output before items).Takes m () m := by
  refine .bind (takes_get m) ?_
  rw [h.hasOption]
  exact takes_pure () m

/-- Without redirections, all of them can be applied. -/
theorem takes_applyAll_nil (output : Script → Act String) (m : Machine) :
    (applyAll output []).Takes m true m := rfl

/-- Without redirections, only channels that were opened meanwhile are forgotten. -/
theorem takes_redirecting_nothing {act : Act Unit} (before : Machine) {m after : Machine}
    (h : act.Takes m () after) :
    (redirecting false before [] act).Takes m () (after.forgetChannels before.world.fresh) := by
  rw [Takes] at h
  change redirecting false before [] act m = _
  unfold redirecting
  rw [h]
  rfl

/-! ## The fields of a command -/

/-- The utilities of the shell that are carried out as they are: they are not special ones, take no
assignments, and have no other command carried out. -/
def IsOrdinary (name : String) : Prop :=
  name ∈ otherBuiltins ∧ name ∉ declarers ∧ name ≠ "command"

/-- What is known of a command of an ordinary utility. -/
def Head.ordinary (name : String) (fields : List String) : Head :=
  { fields := { all := name :: fields, rest := [] }, special := some false }

/-- In a calm shell the name of an ordinary utility stands for it. -/
theorem meaning_of_isOrdinary (h : m.IsCalm) {name : String} (hname : IsOrdinary name)
    (path : String) : m.meaning true path name = .builtin := by
  rw [Machine.meaning, h.functions]
  simp [isBuiltin, hname.1]

section

variable (output : Script → Act String) (hdisk : m.world.disk.Distinct)
include hdisk

/-- A word that yields a field comes to it. -/
theorem takes_expandFields {word : Word} {field : String} (h : Yields word field) :
    (expandFields output word).Takes m [field] m :=
  h output m hdisk

/-- Words that each yield a field come to these fields. -/
theorem takes_expandRest {words : List Word} {fields : List String}
    (h : List.Forall₂ Yields words fields) :
    (expandRest output false words).Takes m fields m := by
  induction h with
  | nil => exact takes_pure [] m
  | cons hword hwords ih =>
      rw [expandRest]
      exact .bind (takes_expandFields output hdisk hword) (.bind ih (takes_pure _ m))

theorem takes_fill (all : List String) (passed : Nat) {word : Word} {field : String}
    (h : Yields word field) (rest : List Word) :
    (Fields.fill output all passed (word :: rest)).Takes m
      { all := all ++ [field], rest, passed } m := by
  rw [Fields.fill]
  exact .bind (takes_expandFields output hdisk h) (takes_pure _ m)

/-- The head of a command of an ordinary utility. -/
theorem takes_headOf (h : m.IsCalm) {name : String} (hname : IsOrdinary name) {word : Word}
    (hword : Yields word name) {words : List Word} {fields : List String}
    (hwords : List.Forall₂ Yields words fields) :
    (headOf output (word :: words)).Takes m (some (.ordinary name fields)) m := by
  have hapart : ∀ x ∈ otherBuiltins, specials.contains x = false ∧ x ≠ "exec" := by decide
  have hmeaning := meaning_of_isOrdinary h hname m.path
  obtain ⟨hother, hdeclares, hcommand⟩ := hname
  obtain ⟨hspecial, hexec⟩ := hapart name hother
  rw [headOf]
  refine .bind (takes_fill output hdisk [] 0 hword words) ?_
  have hsettle : (Head.settle output manyFields
      { fields := { all := [name], rest := words } }).Takes m
      { fields := { all := [name], rest := words }, special := some false } m := by
    have hfuel : manyFields = 16777215 + 1 := by decide
    rw [hfuel, Head.settle]
    refine .bind (takes_get m) ?_
    have hdeclares : declarers.contains name = false := by simpa using hdeclares
    simp only [List.getD_cons_zero, Bool.not_false, hmeaning, hspecial, hdeclares,
      beq_eq_false_iff_ne.mpr hexec, bne_iff_ne.mpr hcommand, if_true]
    exact takes_pure _ m
  exact .bind hsettle (.bind (takes_expandRest output hdisk hwords) (takes_pure _ m))

end

/-! ## Commands -/

/-- Only while something is done is its utility known. -/
theorem takes_withUtility (name : String) {α : Type} {act : Act α} {a : α} (after : Machine)
    (h : act.Takes { m with utility := some name } a after) :
    (withUtility name act).Takes m a { after with utility := m.utility } := by
  rw [Takes] at h
  change withUtility name act m = _
  rw [withUtility, h]

/-- A utility whose output can be written ends with the status that it reports. -/
theorem takes_runBuiltin (go : Carry) {tested special : Bool} {name : String}
    {arguments : List String} {report : Report} {during after : Machine}
    (hreport : (builtin go tested name arguments).Takes { m with utility := some name } report
      during)
    (hwrite : (write 1 report.output).Takes during none after) :
    (runBuiltin go tested special name arguments).Takes m ()
      { after with status := report.status, utility := m.utility } := by
  change runBuiltin go tested special name arguments m = _
  unfold runBuiltin
  extract_lets act
  have hact : act.Takes m () { after with status := report.status, utility := m.utility } :=
    takes_withUtility name { after with status := report.status }
      (.bind hreport (.bind hwrite (takes_modify _ after)))
  rw [Takes] at hact
  rw [hact]

/-- In a calm shell a command of an ordinary utility is carried out by it. -/
theorem takes_carryOutFields (h : m.IsCalm) {name : String} (hname : IsOrdinary name) {go : Carry}
    {tested : Bool} {fields : List String} {after : Machine}
    (hrun : (runBuiltin go tested false name fields).Takes m () after) :
    (carryOutFields go { tested } (.ordinary name fields)).Takes m () after := by
  have hmeaning : m.meaning true m.path name = .builtin := meaning_of_isOrdinary h hname _
  rw [carryOutFields]
  refine .bind (takes_get m) ?_
  simp only [Head.ordinary, List.drop_zero, List.headD_cons, List.tail_cons, Bool.not_false,
    Bool.false_eq_true, if_false, hmeaning]
  exact hrun

/-- A shell when it has prepared a command of an ordinary utility. -/
def Machine.prepared (m : Machine) : Machine :=
  { m with substituted := 0, clock := m.clock + 1, locals := [] :: m.locals }

/-- A shell when it is done with a command that it began as another one. -/
def Machine.concluded (after m : Machine) : Machine :=
  { after.forgetChannels m.world.fresh with locals := m.locals }

/-- A command that made nothing its own has nothing restored. -/
theorem restoreTo_of_locals {outer : List (List Local)} (h : m.locals = [] :: outer) :
    Act.Machine.restoreTo m outer.length = { m with locals := outer } := by
  have hdepth : outer.length + 1 - outer.length = 1 := by omega
  rw [Act.Machine.restoreTo, h, List.length_cons, hdepth]
  rfl

section

variable (go : Carry) (h : m.IsCalm) (hdisk : m.world.disk.Distinct) {name : String}
  (hname : IsOrdinary name) {words : List Word} {fields : List String}
  (hwords : List.Forall₂ Yields words (name :: fields)) {tested : Bool} {after : Machine}
include h hdisk hname hwords

/-- A command of an ordinary utility is what the utility does with the other fields. -/
theorem takes_simpleCommand
    (hrun : (runBuiltin go tested false name fields).Takes m.prepared () after)
    (hlocals : after.locals = [] :: m.locals) :
    (simpleCommand go { tested } [] words []).Takes m () (after.concluded m) := by
  obtain ⟨word, words, rfl⟩ : ∃ word rest, words = word :: rest := by
    cases hwords
    exact ⟨_, _, rfl⟩
  obtain ⟨hword, hwords⟩ := List.forall₂_cons.mp hwords
  let m₁ : Machine := { m with substituted := 0, clock := m.clock + 1 }
  have h₁ : m₁.IsCalm := h.of_watched rfl
  have hdisk₁ : m₁.world.disk.Distinct := hdisk
  have hprepared : m.prepared.IsCalm := h.of_watched rfl
  have hbody : (redirecting false m.prepared [] do
      if ← applyAll (outputOf go) [] then do
        let assigned ← assignAll (outputOf go) true false []
        trace (outputOf go) m.prepared (assigned ++ (name :: fields))
        carryOutFields go { tested } (.ordinary name fields)
      else do
        setStatus 2).Takes m.prepared () (after.forgetChannels m.world.fresh) := by
    refine takes_redirecting_nothing m.prepared (.bind (takes_applyAll_nil _ _) ?_)
    refine .bind (takes_pure [] _) (.bind (takes_trace hprepared _ _ _) ?_)
    exact takes_carryOutFields hprepared hname hrun
  refine .bind (takes_modify _ m) (.bind (takes_modify _ _) ?_)
  refine .bind (takes_headOf (outputOf go) hdisk₁ h₁ hname hword hwords) ?_
  refine .bind (takes_get _) (.bind (takes_modify _ _) ?_)
  refine .bind (takes_pure [] _) (.bind (takes_get _) ?_)
  rw [Machine.concluded, ← restoreTo_of_locals (m := after.forgetChannels m.world.fresh) hlocals]
  exact .bind hbody (takes_modify _ _)

/-- The shell goes on after it. -/
theorem takes_evaluate {line : Nat}
    (hrun : (runBuiltin go tested false name fields).Takes { m with line }.prepared () after)
    (hlocals : after.locals = [] :: m.locals) (hafter : (after.concluded m).IsCalm) :
    (evaluate go { tested } (.simple line [] words [])).Takes m () (after.concluded m) := by
  have hline : { m with line }.IsCalm := h.of_watched rfl
  have hperform : (perform go { tested } (.simple line [] words [])).Takes m ()
      (after.concluded m) :=
    .bind (takes_modify _ m) (takes_simpleCommand go hline hdisk hname hwords hrun hlocals)
  refine .bind (takes_get m) ?_
  simp only [h.hasOption, Command.isNothing, Bool.or_false, Bool.not_false, if_true]
  refine .bind (takes_runTraps h go) (.bind hperform ?_)
  refine .bind (takes_runTraps hafter go) (.bind (takes_get _) ?_)
  simp only [hafter.hasOption, Bool.and_false, Bool.false_and, Bool.or_false, Bool.false_eq_true,
    if_false]
  exact takes_pure () _

end

/-! ## Shells -/

/-- A text that is one command does what the command does. -/
theorem RunsAs.takes (go : Carry) {tested : Bool} {m after : Machine} {text : String}
    {command : Command} (h : RunsAs text command) (haliases : m.aliases = [])
    (hcommand : (go { tested } command).Takes
      { m with documents := [], reached := lineEnds text.toList + 1 } () after) :
    (runText go tested text).Takes m after.status { after with documents := m.documents } := by
  rw [Takes] at hcommand
  rw [Takes, h go tested m haliases, hcommand]

/-- A shell that has come to the end of what it carries out. -/
def Machine.settled (m : Machine) : Machine :=
  { m with saved := none, skip := none, loops := 0, tracing := false, utility := none }

/-- A calm shell ends with the status of what it did. -/
theorem takes_untilEnd (go : Carry) {act : Act Unit} {m after : Machine} (h : act.Takes m () after)
    (hafter : after.IsCalm) (hskip : after.skip = none) :
    (untilEnd go act).Takes m (.exited (after.status % 256)) after.settled := by
  let finish : Act Outcome := do
    settle false
    runEnding go
    return .exited ((← get).status % 256)
  have hrun : (untilEnd go act).run m = finish.run after := by
    rw [Takes] at h
    change untilEnd go act m = _
    rw [untilEnd, h]
  have hsettle : (settle false).Takes after () after.settled := by
    rw [Takes, settle]
    change (_, _) = _
    simp [hskip, Machine.settled]
  have hending : (runEnding go).Takes after.settled () after.settled := by
    have htraps : after.settled.traps = [] := hafter.traps
    refine .bind (takes_get _) ?_
    rw [htraps]
    exact takes_pure () _
  have hfinish : finish.Takes after (.exited (after.status % 256)) after.settled :=
    .bind hsettle (.bind hending (.bind (takes_get _) (takes_pure _ _)))
  exact hrun.trans hfinish

/-- A shell that is given a command carries it out. -/
theorem takes_obey (go : Carry) {m after : Machine} (h : m.IsCalm) {text : String}
    {c : Char} {cs : List Char} (htext : text.toList = c :: cs) (hminus : c ≠ '-') (hplus : c ≠ '+')
    {status : Nat}
    (hrun : (runText go false text).Takes { m with arguments := [] } status after) :
    (obey go ["-c", text]).Takes m () after := by
  have hletters : (shellLetters true ['c'] [text]).Takes m (true, [text]) m := rfl
  have hsign : (c == '-' || c == '+') = false := by simp [hminus, hplus]
  have hrest : (shellOptions 2 [text] true).Takes m (true, [text]) m := by
    rw [shellOptions, htext]
    split
    case h_1 h => exact absurd (List.cons.inj h).1 hminus
    case h_2 h => exact absurd (List.cons.inj h).1 hminus
    case h_3 h =>
      obtain ⟨rfl, rfl⟩ := List.cons.inj h
      rw [hsign]
      exact takes_pure _ m
    case h_4 h => cases h
  have hoptions : (shellOptions 3 ["-c", text] false).Takes m (true, [text]) m := by
    have hflag : "-c".toList = ['-', 'c'] := by decide
    rw [shellOptions, hflag]
    exact .bind hletters hrest
  refine .bind hoptions (.bind (takes_get m) ?_)
  refine .bind (takes_modify _ m) (.bind hrun ?_)
  rw [h.hasOption]
  exact takes_pure () _

end RouteKeeper.Shell
