import ServiceCharter.Command.Run
import ServiceCharter.Proofs.Command.Extras

/-!
# The default command

The words of a command line are read twice: as they are and, if that fails, with `convert` in front.
A first word that is neither an option nor a command is refused by the first reading, whatever
stands behind it (`matchWords_of_first`), so the second decides, and it is the first reading of the
command line that names the command. Extra parameters are taken out before, and a word that names
none does not change what is taken out of the others (`splitExtras_cons`).

Leaving the command out therefore makes no difference to a run (`script_default_eq`): neither if it
ends well, nor if the command line is refused, nor if it asks for help.
-/

namespace ServiceCharter.Command

/-! ### The first word -/

/-- A word that begins with no hyphen is neither an option nor the mark behind which there are none.
-/
private theorem ofWord_of_not_isDashed {word : String} (h : isDashed word = false) :
    Form.ofWord word = .plain := by
  have hhead : ∀ t, word.toList ≠ '-' :: t := by
    intro t heq
    rw [isDashed, heq] at h
    cases h
  unfold Form.ofWord
  split
  · next heq => exact absurd heq (hhead _)
  · next heq => exact absurd heq (hhead _)
  · rfl
  · next heq => exact absurd heq (hhead _)
  · rfl

private theorem isCommandWord_eq_false_iff {word : String} :
    isCommandWord word = false ↔ word ∉ ["convert", "export", "sections", "help"] := by
  simp only [isCommandWord, Name.ofWord?, Option.isSome_eq_false_iff, Bool.or_eq_false_iff,
    Option.isNone_iff_eq_none, List.find?_eq_none, List.mem_cons, List.not_mem_nil, or_false,
    forall_eq_or_imp, forall_eq, beq_iff_eq, Name.word, helpWord, beq_eq_false_iff_ne, not_or]
  constructor
  · rintro ⟨⟨hconvert, hexport, hsections⟩, hhelp⟩
    exact ⟨Ne.symm hconvert, Ne.symm hexport, Ne.symm hsections, hhelp⟩
  · rintro ⟨hconvert, hexport, hsections, hhelp⟩
    exact ⟨⟨Ne.symm hconvert, Ne.symm hexport, Ne.symm hsections⟩, hhelp⟩

variable {first : String}

/-- **A first word that is neither an option nor a command is refused**, whatever follows it. -/
theorem matchWords_of_first (hdash : isDashed first = false)
    (hcommand : isCommandWord first = false) (rest : List String) :
    matchWords (first :: rest) = .error .invalidCommand := by
  obtain ⟨hname, hhelp⟩ := Bool.or_eq_false_iff.1 hcommand
  have hnone : Name.ofWord? first = none := by simpa using hname
  have hstart : Progress.start.wantsValue = false := rfl
  simp [matchWords, takeOuter, hstart, hnone, hhelp, ofWord_of_not_isDashed hdash, strayWord]

/-- A command line that begins with the name of a command is read once. -/
theorem matchWithDefault_command (name : Name) (rest : List String) :
    matchWithDefault (name.word :: rest) = matchWords (name.word :: rest) := by
  have hnone : injectConvert? (name.word :: rest) = none := by
    have hcommand : isCommandWord name.word = true := by cases name <;> decide
    simp [injectConvert?, hcommand]
  unfold matchWithDefault
  cases matchWords (name.word :: rest) with
  | ok m => rfl
  | error e => simp only [hnone]

/-- A command line without the name of a command is read as a conversion. -/
theorem matchWithDefault_of_first (hdash : isDashed first = false)
    (hcommand : isCommandWord first = false) (rest : List String) :
    matchWithDefault (first :: rest) = matchWords (Name.convert.word :: first :: rest) := by
  have hinject : injectConvert? (first :: rest) = some (Name.convert.word :: first :: rest) := by
    simp [injectConvert?, hdash, hcommand]
  simp only [matchWithDefault, matchWords_of_first hdash hcommand rest, hinject]

/-! ### Runs -/

/-- **Leaving the command out is asking for a conversion.** If, without the extra parameters, the
first word of a command line neither begins with a hyphen nor is a command, then the words as they
are do not make a command line, and the run is on every disk what it is with `convert` in front of
all words: it has the same exit code, prints and reports the same, and leaves the same files. -/
theorem script_default_eq {words : List String}
    (hfirst : (splitExtras words).1.head? = some first) (hdash : isDashed first = false)
    (hcommand : first ∉ ["convert", "export", "sections", "help"]) :
    matchWords (splitExtras words).1 = .error .invalidCommand ∧
      ∀ d : Disk, (script words).runOn d = (script ("convert" :: words)).runOn d := by
  obtain ⟨rest, hrest⟩ := List.head?_eq_some_iff.1 hfirst
  have hword : isCommandWord first = false := isCommandWord_eq_false_iff.2 hcommand
  have hsplit : splitExtras ("convert" :: words) =
      ("convert" :: first :: rest, (splitExtras words).2) := by
    rw [splitExtras_cons (by decide), hrest]
  -- Both command lines are read as the words with the command, once and the second time.
  have hwith : matchWithDefault ("convert" :: first :: rest) =
      matchWords ("convert" :: first :: rest) := matchWithDefault_command .convert (first :: rest)
  have hwithout : matchWithDefault (first :: rest) = matchWords ("convert" :: first :: rest) :=
    matchWithDefault_of_first hdash hword rest
  refine ⟨by rw [hrest, matchWords_of_first hdash hword], fun d => ?_⟩
  simp only [script, hsplit, hrest, hwith, hwithout]

/-- A command line without command, with an extra parameter in front of its first word, and with an
option that does not exist. -/
theorem script_default_eq_of_unknown_option :
    ((splitExtras ["--extra-title", "A", "r.json", "--verbose"]).1.head? = some "r.json" ∧
      isDashed "r.json" = false ∧ "r.json" ∉ ["convert", "export", "sections", "help"]) ∧
    matchWords (splitExtras ["--extra-title", "A", "r.json", "--verbose"]).1 =
      .error .invalidCommand ∧
    ∀ d : Disk, (script ["--extra-title", "A", "r.json", "--verbose"]).runOn d =
      (script ["convert", "--extra-title", "A", "r.json", "--verbose"]).runOn d := by
  have hfirst : (splitExtras ["--extra-title", "A", "r.json", "--verbose"]).1.head? =
      some "r.json" := by decide
  have hdash : isDashed "r.json" = false := by decide
  have hcommand : "r.json" ∉ ["convert", "export", "sections", "help"] := by decide
  exact ⟨⟨hfirst, hdash, hcommand⟩, script_default_eq hfirst hdash hcommand⟩

end ServiceCharter.Command
