import TeachingShell.Proofs.Runs

/-!
Failures leave no traces: not in the tree, not in the session, not on the screen. What a failing
line leaves behind was done before its verb was looked at.
-/

namespace TeachingShell

namespace Shell

theorem dispatch_of_failure {shell : Shell} {word : String} {arguments : Arguments}
    (failed : (shell.dispatch word arguments).1.code ≠ 0) :
    (shell.dispatch word arguments).2 = shell := by
  rcases shell.dispatch_cases word arguments with
    ⟨text, unknown⟩ | ⟨verb, outcome, context, _, ran, effect⟩
  · rw [unknown]
  · rw [ran] at failed ⊢
    rw [effect.context_of_failure failed]

/-- A line that fails is recorded, and settles a location that is lost. That is all. -/
theorem execute_of_failure {shell : Shell} {line : String}
    (failed : (shell.execute line).1.code ≠ 0) :
    (shell.execute line).2 = (shell.record (Text.trim line)).settle := by
  rcases shell.execute_cases line with ⟨_, blank⟩ | ⟨verb, arguments, _, dispatched⟩
  · rw [blank] at failed
    exact absurd rfl failed
  · rw [dispatched] at failed ⊢
    exact dispatch_of_failure failed

theorem session_settle_record (shell : Shell) (line : String) :
    ((shell.record line).settle).session =
      { shell.session.record line with cwd := shell.context.settled } := by
  have sameCwd : (shell.record line).context.cwd = shell.context.cwd :=
    shell.context.session.cwd_record line
  have sameSettled : (shell.record line).context.settled = shell.context.settled := by
    rw [Context.settled, sameCwd]
    rfl
  rw [← sameSettled]
  rfl

theorem failure_leaves_no_trace (shell : Shell) (word : String) (arguments : Arguments)
    (line : String) :
    ((shell.dispatch word arguments).1.code ≠ 0 → (shell.dispatch word arguments).2 = shell) ∧
      ((shell.execute line).1.code ≠ 0 →
        (shell.execute line).2.tree = shell.tree ∧
        (shell.execute line).2.session =
          { shell.session.record (Text.trim line) with cwd := shell.context.settled } ∧
        shell.tree.Nearest shell.cwd shell.context.settled ∧
        (shell.execute line).2.context.clears = shell.context.clears) := by
  constructor
  · exact dispatch_of_failure
  · intro failed
    rw [execute_of_failure failed]
    refine ⟨rfl, ?_, ?_, rfl⟩
    · exact session_settle_record shell (Text.trim line)
    · exact shell.context.nearest_settled

def stranded : Shell where
  name := "stranded"
  context := {
    tree := .new "Jan 01 00:00"
    session := { cwd := ⟨["gone"]⟩ }
    clock := .epoch }

theorem failure_leaves_no_trace_stranded :
    (stranded.dispatch "mv" ["a", "b"]).1.code ≠ 0 ∧
      (stranded.dispatch "mv" ["a", "b"]).2 = stranded ∧
      (stranded.execute " rmdir x ").1.code ≠ 0 ∧
      (stranded.execute " rmdir x ").2.tree = stranded.tree ∧
      (stranded.execute " rmdir x ").2.session =
        { stranded.session.record (Text.trim " rmdir x ") with cwd := stranded.context.settled } ∧
      stranded.tree.Nearest stranded.cwd stranded.context.settled ∧
      (stranded.execute " rmdir x ").2.context.clears = stranded.context.clears := by
  have moveFails : (stranded.dispatch "mv" ["a", "b"]).1.code ≠ 0 := by decide
  have lineFails : (stranded.execute " rmdir x ").1.code ≠ 0 := by decide
  obtain ⟨moved, executed⟩ := failure_leaves_no_trace stranded "mv" ["a", "b"] " rmdir x "
  exact ⟨moveFails, moved moveFails, lineFails, executed lineFails⟩

end Shell

end TeachingShell
