import RouteKeeper.Proofs.Shell.Handover
import RouteKeeper.Proofs.Shell.Line

/-!
# Setting a kernel parameter

The command that sets a kernel parameter is three literal words, whatever its key and its value
are: their quotes are where one part of the last word ends and the next one begins.
-/

namespace RouteKeeper.Shell

/-- The word that names the program. -/
def sysctlWord : Literal :=
  [.bare sysctl.toList (by decide)]

/-- The word that asks for a parameter to be written. -/
def writeFlag : Literal :=
  [.bare ['-', 'w'] (by decide)]

/-- The word that holds a key and a value. -/
def parameterWord (key value : String) : Literal :=
  [.quoted (handed key).toList, .bare ['='] (by decide), .quoted (handed value).toList]

/-- The command is handed over as its three words with blanks between them. -/
theorem handed_setParameter (key value : String) :
    handed (setParameter key value) =
      String.ofList (sysctlWord.spelling ++ blanked [writeFlag, parameterWord key value]) := by
  have hfront : handed (sysctl ++ " -w ") = sysctl ++ " -w " := handed_of_lt (by decide)
  have hequals : handed "=" = "=" := handed_of_lt (by decide)
  rw [setParameter, handed_append, handed_append, handed_append, hfront, hequals]
  apply String.toList_injective
  simp [toList_handed_quote, sysctlWord, writeFlag, parameterWord, blanked, Literal.spelling,
    Part.spelling]

section

variable {t : Setting} (ht : t.aliases = [])
include ht

theorem isName_sysctlWord : sysctlWord.IsName t where
  toIsArgument := Literal.isArgument ht (by decide) (by decide)
  assignment?_eq_none := by decide

theorem isArgument_writeFlag : writeFlag.IsArgument t :=
  Literal.isArgument ht (by decide) (by decide)

/-- The last word begins with a quote, so it is never reserved. -/
theorem isArgument_parameterWord (key value : String) : (parameterWord key value).IsArgument t :=
  Literal.isArgument ht (List.cons_ne_nil _ _) nofun

end

/-- The text of the last word is the key, an equals sign and the value, all without newlines. -/
theorem text_parameterWord (key value : String) :
    String.ofList (parameterWord key value).text =
      handed (withoutNewlines key ++ "=" ++ withoutNewlines value) := by
  have hequals : handed "=" = "=" := handed_of_lt (by decide)
  rw [handed_append, handed_append, hequals]
  apply String.toList_injective
  simp [parameterWord, Literal.text, Part.text, unbroken_handed]

/-- **No way out of the command.** Whatever the key and the value hold, the shell takes the command
that sets a parameter for a single one of three fields: the program, its flag, and the key and the
value with an equals sign between them, of which only newlines are lost. -/
theorem isCommandOf_setParameter (key value : String) :
    IsCommandOf (handed (setParameter key value))
      ["/sbin/sysctl", "-w", handed (withoutNewlines key ++ "=" ++ withoutNewlines value)] := by
  rw [handed_setParameter, ← text_parameterWord]
  refine isCommandOf_words (fun _ => isName_sysctlWord) fun t ht => ?_
  simp only [List.forall_mem_cons]
  exact ⟨isArgument_writeFlag ht, isArgument_parameterWord ht key value, nofun⟩

end RouteKeeper.Shell
