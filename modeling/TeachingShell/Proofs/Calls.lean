import TeachingShell.Proofs.Replies
import TeachingShell.Terminal.CommandLine

/-!
One command on the command line. It prints what a conversation would show for the same line, on the
stream that belongs to its outcome, and its exit status is the code of the outcome.
-/

namespace TeachingShell

theorem Shell.shaped_execute (shell : Shell) (line : String) : (shell.execute line).1.Shaped := by
  rcases shell.execute_cases line with ⟨_, silent⟩ | ⟨word, arguments, _, dispatched⟩
  · rw [silent]
    exact Outcome.shaped_success ""
  · rw [dispatched]
    exact (Shell.shaped_dispatch _ word arguments).1

namespace Terminal

theorem statusOf_of_shaped {outcome : Outcome} (shaped : outcome.Shaped) :
    (0 ≤ outcome.code.toInt ∧ outcome.code.toInt ≤ 255) ∧
      ((statusOf outcome.code).toNat : Int) = outcome.code.toInt := by
  rcases shaped.code with code | code | code
  all_goals
    rw [code]
    decide

theorem statusOf_eq_zero_iff {outcome : Outcome} (shaped : outcome.Shaped) :
    statusOf outcome.code = 0 ↔ outcome.ok := by
  unfold Outcome.ok
  rcases shaped.code with code | code | code
  all_goals
    rw [code]
    decide

theorem transcript_of_shaped {outcome : Outcome} (shaped : outcome.Shaped) :
    (⟨asLine outcome.out, asLine outcome.err⟩ : Transcript) =
      if outcome.ok then .out (asLine outcome.text) else .err (asLine outcome.text) := by
  by_cases ok : outcome.ok = true
  · have silent := shaped.success (by simpa [Outcome.ok] using ok)
    simp only [Outcome.text, ok, if_true, silent]
    rfl
  · obtain ⟨silent, -⟩ := shaped.failure (by simpa [Outcome.ok] using ok)
    simp only [Outcome.text, ok, Bool.false_eq_true, if_false, silent]
    rfl

theorem reply_of_notSlash (shell : Shell) {line : String}
    (notSlash : ¬ Begins "/" (Text.trim line)) (notQuit : Text.trim line ≠ "quit")
    (notExit : Text.trim line ≠ "exit") :
    (shell.reply line).1 = .ofOutcome (shell.execute line).1 := by
  by_cases blank : Text.trim line = ""
  · have nothing : Text.words line = [] := by
      rw [← Text.words_trim, blank]
      rfl
    rw [shell.reply_of_blank blank, Shell.execute, nothing]
    rfl
  · rw [shell.reply_of_forShell ⟨blank, notSlash, notQuit, notExit⟩]

theorem printed_of_shaped {outcome : Outcome} (shaped : outcome.Shaped) :
    (⟨asLine outcome.out, asLine outcome.err⟩ : Transcript) =
      match (if outcome.text = "" then none else some outcome.text : Option String) with
      | none => {}
      | some text =>
          if statusOf outcome.code = 0 then .out (text ++ "\n") else .err (text ++ "\n") := by
  rw [transcript_of_shaped shaped]
  simp only [statusOf_eq_zero_iff shaped, asLine, String.isEmpty_iff]
  by_cases silent : outcome.text = ""
  · simp only [silent, if_true]
    exact ite_self _
  · simp only [silent, if_false]

theorem run_execute (line : String) (more : List String) (input : List UInt8) (now : Instant) :
    run (.ofArguments ("-c" :: line :: more)) input now = executeOnce (.boot .terminal now) line := by
  have told : (Shell.boot .terminal now).setClock now = .boot .terminal now := rfl
  simp only [run, runTimed, Call.ofArguments, told]

/-- One command on the command line exits with the code of its outcome. It prints nothing if a fresh
conversation would show nothing for that line, and else just what it would show: on the standard
output if the status is zero, and on the standard error if not. -/
theorem command_agrees_with_conversation (line : String) (more : List String)
    (input : List UInt8) (now : Instant) :
    let exit := run (.ofArguments ("-c" :: line :: more)) input now
    ∃ shell, Shell.start .terminal now = .ok shell ∧
      (0 ≤ (shell.execute line).1.code.toInt ∧ (shell.execute line).1.code.toInt ≤ 255) ∧
      (exit.status.toNat : Int) = (shell.execute line).1.code.toInt ∧
      (¬ Begins "/" (Text.trim line) → Text.trim line ≠ "quit" → Text.trim line ≠ "exit" →
        ∃ shown, (shell.reply line).1 = .proceed shown ∧
          exit.transcript = match shown with
            | none => {}
            | some text =>
                if exit.status = 0 then .out (text ++ "\n") else .err (text ++ "\n")) := by
  have shaped := (Shell.boot .terminal now).shaped_execute line
  simp only [run_execute, executeOnce]
  obtain ⟨bounds, same⟩ := statusOf_of_shaped shaped
  refine ⟨_, Shell.start_terminal now, bounds, same, ?_⟩
  intro notSlash notQuit notExit
  have replied := reply_of_notSlash (.boot .terminal now) notSlash notQuit notExit
  exact ⟨_, replied.trans (Reply.ofOutcome_eq _), printed_of_shaped shaped⟩

theorem command_agrees_with_conversation_missing :
    ¬ Begins "/" (Text.trim " cat x ") ∧ Text.trim " cat x " ≠ "quit" ∧
      Text.trim " cat x " ≠ "exit" ∧
      (run (.ofArguments ["-c", " cat x ", "y"]) [10] .epoch).status = 1 ∧
      (run (.ofArguments ["-c", " cat x ", "y"]) [10] .epoch).transcript =
        .err "cat: x: No such file or directory\n" := by
  have notSlash : ¬ Begins "/" (Text.trim " cat x ") := by decide
  have notQuit : Text.trim " cat x " ≠ "quit" := by decide
  have notExit : Text.trim " cat x " ≠ "exit" := by decide
  obtain ⟨shell, started, -, status, agrees⟩ :=
    command_agrees_with_conversation " cat x " ["y"] [10] .epoch
  obtain rfl := Except.ok.inj ((Shell.start_terminal .epoch).symm.trans started)
  have code : ((Shell.boot .terminal .epoch).execute " cat x ").1.code.toInt = 1 := by decide
  have failed : (run (.ofArguments ["-c", " cat x ", "y"]) [10] .epoch).status = 1 :=
    UInt8.toNat_inj.mp (by exact_mod_cast status.trans code)
  obtain ⟨shown, replied, printed⟩ := agrees notSlash notQuit notExit
  have told : ((Shell.boot .terminal .epoch).reply " cat x ").1 =
      .proceed (some "cat: x: No such file or directory") := by decide
  obtain rfl := Reply.proceed.inj (told.symm.trans replied)
  refine ⟨notSlash, notQuit, notExit, failed, printed.trans ?_⟩
  simp only [failed]
  decide

end Terminal

end TeachingShell
