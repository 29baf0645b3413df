import TeachingShell.Proofs.Answers
import TeachingShell.Shell.Reply

/-!
A line of a conversation is of one of four sorts: it opens with a slash, it leaves, it is blank, or it
is for the shell. Only the last sort reaches the shell, and then it is executed as it was typed.
-/

namespace TeachingShell

theorem begins_slash_iff {text : String} : Begins "/" text ↔ text.toList.head? = some '/' := by
  rw [Begins, show "/".toList = ['/'] from rfl]
  cases text.toList with
  | nil => simp
  | cons first rest => simp [List.cons_prefix_cons, eq_comm]

theorem Text.words_of_slash {text : String} (slash : Begins "/" text) :
    ∃ word rest, words text = word :: rest ∧ Begins "/" word := by
  obtain ⟨rest, split⟩ := List.head?_eq_some_iff.mp (begins_slash_iff.mp slash)
  have first : fields isBlank text.toList =
      ('/' :: (scan isBlank rest).1) :: (scan isBlank rest).2 := by
    rw [split, fields, scan]
    rfl
  refine ⟨String.ofList ('/' :: (scan isBlank rest).1), _, by rw [words, first, List.map_cons], ?_⟩
  rw [begins_slash_iff, String.toList_ofList, List.head?_cons]

namespace Reply

theorem toSlash_eq_leave_iff {shell : Shell} {word : String} :
    toSlash shell word = .leave ↔ word ∈ ["/quit", "/q", "/exit"] := by
  unfold toSlash
  split <;> simp_all

theorem toSlash_cases (shell : Shell) (word : String) :
    toSlash shell word = .leave ∨ ∃ text, toSlash shell word = .proceed (some text) := by
  unfold toSlash
  split <;> simp

theorem ofOutcome_eq (outcome : Outcome) :
    ofOutcome outcome = .proceed (if outcome.text = "" then none else some outcome.text) := by
  simp only [ofOutcome, String.isEmpty_iff]

end Reply

structure ForShell (line : String) : Prop where
  visible : Text.trim line ≠ ""
  notSlash : ¬ Begins "/" (Text.trim line)
  notQuit : Text.trim line ≠ "quit"
  notExit : Text.trim line ≠ "exit"

theorem forShell_or (line : String) :
    Begins "/" (Text.trim line) ∨ (Text.trim line = "quit" ∨ Text.trim line = "exit") ∨
      Text.trim line = "" ∨ ForShell line := by
  by_cases slash : Begins "/" (Text.trim line)
  · exact Or.inl slash
  · by_cases leaving : Text.trim line = "quit" ∨ Text.trim line = "exit"
    · exact Or.inr (Or.inl leaving)
    · by_cases blank : Text.trim line = ""
      · exact Or.inr (Or.inr (Or.inl blank))
      · obtain ⟨notQuit, notExit⟩ := not_or.mp leaving
        exact Or.inr (Or.inr (Or.inr ⟨blank, slash, notQuit, notExit⟩))

namespace Shell

variable (shell : Shell) {line : String}

theorem execute_trim (line : String) : shell.execute (Text.trim line) = shell.execute line := by
  rw [execute, execute, Text.words_trim, Text.trim_trim]

theorem reply_of_slash (slash : Begins "/" (Text.trim line)) :
    ∃ word rest, Text.words (Text.trim line) = word :: rest ∧ Begins "/" word ∧
      shell.reply line = (.toSlash shell word, shell) := by
  obtain ⟨word, rest, split, opening⟩ := Text.words_of_slash slash
  refine ⟨word, rest, split, opening, ?_⟩
  rw [reply, if_pos (begins_slash_iff.mp slash), split]
  rfl

theorem reply_of_leaving (leaving : Text.trim line = "quit" ∨ Text.trim line = "exit") :
    shell.reply line = (.leave, shell) := by
  have notSlash : ¬ (Text.trim line).toList.head? = some '/' := by
    rcases leaving with same | same
    · rw [same]
      decide
    · rw [same]
      decide
  rw [reply, if_neg notSlash, if_pos leaving]

theorem reply_of_blank (blank : Text.trim line = "") : shell.reply line = (.proceed none, shell) := by
  rw [reply, blank]
  rfl

theorem reply_of_forShell (forShell : ForShell line) :
    shell.reply line = (.ofOutcome (shell.execute line).1, (shell.execute line).2) := by
  have notSlash := mt begins_slash_iff.mpr forShell.notSlash
  have notLeaving : ¬ (Text.trim line = "quit" ∨ Text.trim line = "exit") := by
    rintro (same | same)
    · exact forShell.notQuit same
    · exact forShell.notExit same
  have notEmpty := mt String.isEmpty_iff.mp forShell.visible
  rw [reply, if_neg notSlash, if_neg notLeaving, if_neg notEmpty, execute_trim]

theorem reply_of_not_forShell (notForShell : ¬ ForShell line) : (shell.reply line).2 = shell := by
  rcases forShell_or line with slash | leaving | blank | forShell
  · obtain ⟨word, rest, -, -, replied⟩ := shell.reply_of_slash slash
    rw [replied]
  · rw [shell.reply_of_leaving leaving]
  · rw [shell.reply_of_blank blank]
  · exact absurd forShell notForShell

/-- A line with a slash leaves or tells something, and `quit` and `exit` leave; neither touches the
shell, and a blank line does nothing at all. Every other line does to the shell what its execution
does, as it was typed, and the reply shows the text of the outcome if there is any. -/
theorem reply_refines (line : String) :
    (Begins "/" (Text.trim line) →
      (shell.reply line).2 = shell ∧ ∃ word rest, Text.words (Text.trim line) = word :: rest ∧
        ((shell.reply line).1 = .leave ↔ word ∈ ["/quit", "/q", "/exit"]) ∧
        (word ∉ ["/quit", "/q", "/exit"] → ∃ text, (shell.reply line).1 = .proceed (some text))) ∧
      (Text.trim line = "quit" ∨ Text.trim line = "exit" → shell.reply line = (.leave, shell)) ∧
      (Text.trim line = "" → shell.reply line = (.proceed none, shell)) ∧
      (ForShell line → (shell.reply line).2 = (shell.execute line).2 ∧
        (shell.reply line).1 = .proceed
          (if (shell.execute line).1.text = "" then none else some (shell.execute line).1.text)) := by
  refine ⟨fun slash => ?_, shell.reply_of_leaving, shell.reply_of_blank, fun forShell => ?_⟩
  · obtain ⟨word, rest, split, -, replied⟩ := shell.reply_of_slash slash
    rw [replied]
    refine ⟨rfl, word, rest, split, Reply.toSlash_eq_leave_iff, fun stays => ?_⟩
    exact (Reply.toSlash_cases shell word).resolve_left (mt Reply.toSlash_eq_leave_iff.mp stays)
  · rw [shell.reply_of_forShell forShell]
    exact ⟨rfl, Reply.ofOutcome_eq _⟩

theorem reply_refines_stranded :
    (stranded.reply " /exit now").1 = .leave ∧ (stranded.reply " /exit now").2 = stranded ∧
      stranded.reply "\texit " = (.leave, stranded) ∧
      stranded.reply " \t" = (.proceed none, stranded) ∧
      (stranded.reply " pwd  ").2 = (stranded.execute " pwd  ").2 ∧
      (stranded.reply " pwd  ").1 = .proceed (some "/") := by
  obtain ⟨slash, -⟩ := reply_refines stranded " /exit now"
  obtain ⟨-, leaving, -⟩ := reply_refines stranded "\texit "
  obtain ⟨-, -, blank, -⟩ := reply_refines stranded " \t"
  obtain ⟨-, -, -, executed⟩ := reply_refines stranded " pwd  "
  obtain ⟨kept, word, rest, split, leaves, -⟩ := slash (by decide)
  have words : Text.words (Text.trim " /exit now") = ["/exit", "now"] := by decide
  obtain ⟨rfl, -⟩ := List.cons_eq_cons.mp (words.symm.trans split)
  obtain ⟨same, shown⟩ := executed ⟨by decide, by decide, by decide, by decide⟩
  exact ⟨leaves.mpr (by decide), kept, leaving (by decide), blank (by decide), same,
    shown.trans (by decide)⟩

end Shell

end TeachingShell
