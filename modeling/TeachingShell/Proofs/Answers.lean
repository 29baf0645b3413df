import TeachingShell.Proofs.Atomicity

/-!
What a command can answer: a text and nothing else, or a failure that says which command it comes
from. A word that names no tool has a code of its own.
-/

namespace TeachingShell

def Begins (lead text : String) : Prop := lead.toList <+: text.toList

instance (lead text : String) : Decidable (Begins lead text) :=
  inferInstanceAs (Decidable (lead.toList <+: text.toList))

theorem Begins.append {lead text : String} (begins : Begins lead text) (more : String) :
    Begins lead (text ++ more) := by
  rw [Begins, String.toList_append]
  exact begins.trans (List.prefix_append _ _)

theorem begins_append (lead rest : String) : Begins lead (lead ++ rest) :=
  Begins.append (List.prefix_refl _) rest

theorem Begins.ne_empty {lead text : String} (begins : Begins lead text) (nonempty : lead ≠ "") :
    text ≠ "" := by
  rintro rfl
  have none : lead.toList = [] := List.prefix_nil.mp begins
  exact nonempty (String.toList_eq_nil_iff.mp none)

def Verb.lead : Verb → String
  | .cd => "bash: cd: "
  | verb => verb.name ++ ": "

namespace Outcome

inductive Answers (lead : String) : Outcome → Prop
  | success (text : String) : Answers lead (.success text)
  | failed {text : String} : Begins lead text → Answers lead (.failed text)

end Outcome

namespace Command

theorem begins_complaint {lead opening : String} (begins : Begins lead opening) (failure : Failure) :
    Begins lead (complaint opening failure) := by
  unfold complaint
  exact (((begins.append _).append _).append _).append _

variable (context : Context) {lead : String} {report : Failure → String}

theorem answers_commit (reports : ∀ failure, Begins lead (report failure))
    (result : Except Failure Tree) : (commit context report result).1.Answers lead := by
  cases result with
  | error failure => exact .failed (reports failure)
  | ok tree => exact .success ""

theorem answers_keep (reports : ∀ failure, Begins lead (report failure))
    (result : Except Failure Unit × Tree) : (keep context report result).1.Answers lead := by
  obtain ⟨answer, tree⟩ := result
  cases answer with
  | error failure => exact .failed (reports failure)
  | ok => exact .success ""

theorem begins_refusal {missing opening : String} (first : Begins lead missing)
    (second : Begins lead opening) (failure : Failure) :
    Begins lead (refusal missing opening failure) := by
  unfold refusal
  split
  · exact first
  · exact begins_complaint second _

theorem begins_moveReport (newline : String) (failure : Failure) :
    Begins "mv: " (moveReport newline failure) := by
  unfold moveReport
  split
  · exact ((show Begins "mv: " "mv: missing file operand" by decide).append _).append _
  · exact begins_complaint (by decide) _
  · exact begins_complaint (by decide) _

theorem begins_copyReport (newline : String) (failure : Failure) :
    Begins "cp: " (copyReport newline failure) := by
  unfold copyReport
  split
  · exact ((show Begins "cp: " "cp: missing file operand" by decide).append _).append _
  · exact begins_complaint (by decide) _
  · exact ((show Begins "cp: " "cp: -r not specified; omitting directory '" by decide).append
      _).append _
  · exact begins_complaint (by decide) _

theorem answers_list (arguments : Arguments) : (list arguments context).Answers "ls: " := by
  unfold list
  split
  · exact .failed (begins_append _ _)
  · simp only
    split
    · exact .success _
    · exact .failed (begins_complaint (by decide) _)

theorem answers_changeDirectory (arguments : Arguments) :
    (changeDirectory arguments context).1.Answers "bash: cd: " := by
  unfold changeDirectory
  split
  · exact .failed (by decide)
  · split
    · exact .failed (((begins_append _ _).append _).append _)
    · exact .success _

theorem begins_contentReport (failure : Failure) : Begins "cat: " (contentReport failure) := by
  unfold contentReport
  split
  · decide
  · exact ((begins_append _ _).append _).append _

theorem answers_concatenate (arguments : Arguments) :
    (concatenate arguments context).Answers "cat: " := by
  unfold concatenate
  split
  · exact .success _
  next failure _ => exact .failed (begins_contentReport failure)

theorem answers_help (arguments : Arguments) : (help arguments context).Answers "help: " := by
  unfold help
  split
  · exact .success _
  · split
    · exact .success _
    · exact .failed (((show Begins "help: " "help: no help topics match '" by decide).append
        _).append _)

theorem answers_history (arguments : Arguments) :
    (history arguments context).1.Answers "history: " := by
  unfold history
  split
  · exact .success _
  next count _ =>
    unfold showHistory
    simp only
    split
    · exact .success _
    · exact .success _
  · exact .failed (begins_append _ _)

end Command

theorem Verb.run_answers (verb : Verb) (arguments : Arguments) (context : Context) :
    (verb.run arguments context).1.Answers verb.lead := by
  cases verb with
  | ls => exact Command.answers_list context arguments
  | cd => exact Command.answers_changeDirectory context arguments
  | cat => exact Command.answers_concatenate context arguments
  | mkdir | rmdir | touch | rm =>
      exact Command.answers_commit context (Command.begins_refusal (by decide) (by decide)) _
  | mv => exact Command.answers_keep context (Command.begins_moveReport _) _
  | cp => exact Command.answers_commit context (Command.begins_copyReport _) _
  | help => exact Command.answers_help context arguments
  | history => exact Command.answers_history context arguments
  | pwd | whoami | date | clear | echo => exact .success _

theorem Verb.lead_ne_empty (verb : Verb) : verb.lead ≠ "" := by
  cases verb <;> decide

/-- A success with nothing to complain of, or a failure with a complaint and nothing else. -/
structure Outcome.Shaped (outcome : Outcome) : Prop where
  code : outcome.code = 0 ∨ outcome.code = 1 ∨ outcome.code = 127
  success : outcome.code = 0 → outcome.err = ""
  failure : outcome.code ≠ 0 → outcome.out = "" ∧ outcome.err ≠ ""

namespace Outcome

theorem shaped_success (text : String) : (success text).Shaped :=
  ⟨Or.inl rfl, fun _ => rfl, fun failed => absurd rfl failed⟩

theorem shaped_failed {text : String} (told : text ≠ "") : (failed text).Shaped :=
  ⟨Or.inr (Or.inl rfl), nofun, fun _ => ⟨rfl, told⟩⟩

theorem shaped_unknown {text : String} (told : text ≠ "") : (unknown text).Shaped :=
  ⟨Or.inr (Or.inr rfl), nofun, fun _ => ⟨rfl, told⟩⟩

theorem Answers.shaped {lead : String} {outcome : Outcome} (answers : outcome.Answers lead)
    (nonempty : lead ≠ "") : outcome.Shaped := by
  cases answers with
  | success text => exact shaped_success text
  | failed begins => exact shaped_failed (begins.ne_empty nonempty)

theorem Answers.code_ne {lead : String} {outcome : Outcome} (answers : outcome.Answers lead) :
    outcome.code ≠ 127 := by
  cases answers with
  | success text => nofun
  | failed begins => nofun

end Outcome

namespace Shell

theorem shaped_dispatch (shell : Shell) (word : String) (arguments : Arguments) :
    (shell.dispatch word arguments).1.Shaped ∧
      ((shell.dispatch word arguments).1.code = 127 ↔ word ∉ Registry.builtins.names) := by
  rcases shell.dispatch_word word arguments with ⟨foreign, unknown⟩ | ⟨verb, rfl, ran⟩
  · rw [unknown]
    refine ⟨Outcome.shaped_unknown ?_, fun _ => foreign, fun _ => rfl⟩
    have begins : Begins "bash: " ("bash: " ++ word) := begins_append _ _
    exact ((begins.append _).append _).ne_empty (by decide)
  · rw [ran]
    have answers := verb.run_answers arguments shell.context
    refine ⟨answers.shaped verb.lead_ne_empty, fun unknown => ?_, fun foreign => ?_⟩
    · exact absurd unknown answers.code_ne
    · exact absurd (Registry.mem_names_builtins.mpr ⟨verb, rfl⟩) foreign

/-- Every line gets a text or a complaint and never both. The code says which, and a third one is for
lines that open with a word no tool has for its name. A blank line gets nothing and does nothing. -/
theorem execute_shape (shell : Shell) (line : String) :
    (shell.execute line).1.Shaped ∧
      ((∃ c ∈ line.toList, ¬ Text.isBlank c) → ∃ word rest, Text.words line = word :: rest ∧
        ((shell.execute line).1.code = 127 ↔ word ∉ Registry.builtins.names)) ∧
      ((∀ c ∈ line.toList, Text.isBlank c) → shell.execute line = (⟨0, "", ""⟩, shell)) := by
  rcases shell.execute_cases line with ⟨blank, silent⟩ | ⟨verb, arguments, split, dispatched⟩
  · have allBlank := Text.words_eq_nil_iff.mp blank
    rw [silent]
    refine ⟨Outcome.shaped_success "", fun ⟨c, member, visible⟩ => ?_, fun _ => rfl⟩
    exact absurd (allBlank c member) visible
  · rw [dispatched]
    obtain ⟨shaped, unknown⟩ :=
      ((shell.record (Text.trim line)).settle).shaped_dispatch verb arguments
    refine ⟨shaped, fun _ => ⟨verb, arguments, split, unknown⟩, fun allBlank => ?_⟩
    rw [Text.words_eq_nil_iff.mpr allBlank] at split
    cases split

theorem execute_shape_stranded :
    stranded.context.directory.toOption = none ∧
      stranded.execute " \t" = (⟨0, "", ""⟩, stranded) ∧
      (stranded.execute " nope x").1.Shaped ∧ (stranded.execute " nope x").1.code = 127 := by
  obtain ⟨-, -, blank⟩ := execute_shape stranded " \t"
  obtain ⟨shaped, opening, -⟩ := execute_shape stranded " nope x"
  obtain ⟨word, rest, split, unknown⟩ := opening ⟨'n', by decide, by decide⟩
  have words : Text.words " nope x" = ["nope", "x"] := by decide
  obtain ⟨rfl, -⟩ := List.cons_eq_cons.mp (words.symm.trans split)
  exact ⟨by decide, blank (Text.words_eq_nil_iff.mp (by decide)), shaped, unknown.mpr (by decide)⟩

end Shell

end TeachingShell
