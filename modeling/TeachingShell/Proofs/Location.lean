import TeachingShell.Proofs.Locality
import TeachingShell.Proofs.Runs

/-!
The current location. No command can take it away, and the next line finds its way back if a host
did.
-/

namespace TeachingShell

theorem Effect.isDirectory_cwd {context after : Context} {verb : Verb} {arguments : Arguments}
    {outcome : Outcome} (effect : Effect context verb arguments outcome after)
    (here : context.tree.IsDirectory context.cwd) : after.tree.IsDirectory after.cwd := by
  cases effect with
  | refused text => exact here
  | told text tells => exact here
  | altered alters => exact alters.confined.isDirectory (Path.startsWith_self _) here
  | entered text verb directory => exact directory
  | forgotten text verb => exact here
  | cleared verb => exact here

namespace Shell

def Located (shell : Shell) : Prop := shell.tree.IsDirectory shell.cwd

theorem located_of_start {config : Config} {now : Instant} {shell : Shell}
    (started : start config now = .ok shell) : shell.Located := by
  obtain ⟨-, -, directory, rfl⟩ := start_eq_ok_iff.mp started
  exact directory

theorem Located.dispatch {shell : Shell} (located : shell.Located) (word : String)
    (arguments : Arguments) : (shell.dispatch word arguments).2.Located := by
  rcases shell.dispatch_cases word arguments with
    ⟨text, unknown⟩ | ⟨verb, outcome, context, _, ran, effect⟩
  · rw [unknown]
    exact located
  · rw [ran]
    exact effect.isDirectory_cwd located

theorem located_settle (shell : Shell) : shell.settle.Located :=
  shell.context.isDirectory_settle

theorem located_execute (shell : Shell) {line : String}
    (notBlank : ∃ c ∈ line.toList, ¬ Text.isBlank c) : (shell.execute line).2.Located := by
  rcases shell.execute_cases line with ⟨blank, _⟩ | ⟨verb, arguments, _, dispatched⟩
  · obtain ⟨c, member, visible⟩ := notBlank
    exact absurd (Text.words_eq_nil_iff.mp blank c member) visible
  · rw [dispatched]
    exact (located_settle _).dispatch verb arguments

theorem Located.record {shell : Shell} (located : shell.Located) (line : String) :
    (shell.record line).Located := by
  have sameCwd : (shell.record line).cwd = shell.cwd := shell.context.session.cwd_record line
  rw [Located, sameCwd]
  exact located

theorem Located.settle {shell : Shell} (located : shell.Located) : shell.settle = shell := by
  rw [Shell.settle, Context.settle_of_isDirectory located]

theorem Located.after {shell : Shell} (located : shell.Located) {step : Step}
    (notDirect : step.isDirect = false) : (shell.after step).Located := by
  cases step with
  | execute line =>
      rcases shell.execute_cases line with ⟨_, blank⟩ | ⟨verb, arguments, _, dispatched⟩
      · rw [Shell.after, blank]
        exact located
      · rw [Shell.after, dispatched]
        exact (located_settle _).dispatch verb arguments
  | dispatch word arguments => exact located.dispatch word arguments
  | change change => cases notDirect
  | wait now => exact located

theorem Located.acceptAll {shell : Shell} (located : shell.Located) (lines : List Typed) :
    (shell.acceptAll lines).Located := by
  rw [acceptAll_eq_run]
  refine run_preserves (fun _ _ notDirect here => here.after notDirect) located ?_
  intro step member
  obtain ⟨typed, _, own⟩ := List.mem_flatMap.mp member
  rcases List.mem_cons.mp own with rfl | own
  · rfl
  · rw [List.mem_singleton.mp own]
    rfl

theorem Reached.located {shell : Shell} (reached : shell.Reached) : shell.Located := by
  obtain ⟨config, now, first, lines, started, rfl⟩ := reached
  exact (located_of_start started).acceptAll lines

theorem Located.hear {shell : Shell} (located : shell.Located) (typed : Typed) :
    (shell.hear typed).Located := Located.record located (Text.trim typed.line)

theorem Located.accept_eq_dispatch {shell : Shell} (located : shell.Located) {typed : Typed}
    {word : String} {arguments : Arguments} (spoken : Text.words typed.line = word :: arguments) :
    shell.accept typed = (shell.hear typed).dispatch word arguments := by
  rw [shell.accept_of_words spoken, (located.hear typed).settle]

theorem Located.accept {shell : Shell} (located : shell.Located) {typed : Typed} {verb : Verb}
    {arguments : Arguments} (spoken : Text.words typed.line = verb.name :: arguments) :
    shell.accept typed =
      ((verb.run arguments (shell.hear typed).context).1,
        { shell.hear typed with context := (verb.run arguments (shell.hear typed).context).2 }) := by
  rw [located.accept_eq_dispatch spoken, dispatch_verb]

theorem Located.accept_writer {shell : Shell} (located : shell.Located) {typed : Typed}
    {verb : Verb} {arguments : Arguments} (writes : verb ∈ Verb.writers)
    (spoken : Text.words typed.line = verb.name :: arguments) (done : (shell.accept typed).1.ok) :
    Alters (shell.hear typed).context verb arguments (shell.accept typed).2.tree ∧
      (shell.accept typed).2 = (shell.hear typed).withTree (shell.accept typed).2.tree := by
  rw [located.accept spoken] at done ⊢
  rcases Verb.run_cases writes arguments (shell.hear typed).context with
    ⟨text, refused⟩ | ⟨tree, alters, ran⟩
  · rw [refused] at done
    cases done
  · rw [ran]
    exact ⟨alters, rfl⟩

/-- In every run, the root stays a directory and a line that is not blank ends in a directory. A
command never leads out of one, so that without a host there is never anything to settle. -/
theorem location_invariant {config : Config} {now : Instant} {shell : Shell}
    (started : start config now = .ok shell) (steps : List Step) :
    (shell.run steps).tree.IsDirectory .root ∧
      (∀ line, (∃ c ∈ line.toList, ¬ Text.isBlank c) →
        ((shell.run steps).execute line).2.Located) ∧
      (∀ word arguments, (shell.run steps).Located →
        ((shell.run steps).dispatch word arguments).2.Located) ∧
      ((∀ step ∈ steps, step.isDirect = false) →
        (shell.run steps).Located ∧
          ∀ line, ((shell.run steps).record line).settle = (shell.run steps).record line) := by
  refine ⟨?_, ?_, ?_, ?_⟩
  · exact (shell.run steps).tree.isDirectory_root
  · intro line notBlank
    exact located_execute _ notBlank
  · intro word arguments located
    exact located.dispatch word arguments
  · intro noneDirect
    have located : (shell.run steps).Located :=
      run_preserves (fun _ _ notDirect here => here.after notDirect) (located_of_start started)
        noneDirect
    refine ⟨located, fun line => ?_⟩
    exact (located.record line).settle

theorem location_invariant_terminal :
    start .terminal .epoch = .ok (boot .terminal .epoch) ∧
      (((boot .terminal .epoch).run [.change (.remove ⟨["home"]⟩ "user")]).execute
        "ls").2.Located ∧
      ((boot .terminal .epoch).run [.execute "cd documents", .dispatch "rm" ["notes.md"]]).Located := by
  have started := start_terminal .epoch
  refine ⟨started, ?_, ?_⟩
  · obtain ⟨-, settles, -, -⟩ :=
      location_invariant started [.change (.remove ⟨["home"]⟩ "user")]
    exact settles "ls" ⟨'l', by decide, by decide⟩
  · obtain ⟨-, -, -, stays⟩ :=
      location_invariant started [.execute "cd documents", .dispatch "rm" ["notes.md"]]
    have noneDirect : ∀ step ∈ [Step.execute "cd documents", .dispatch "rm" ["notes.md"]],
        step.isDirect = false := by
      simp [Step.isDirect]
    exact (stays noneDirect).1

end Shell

end TeachingShell
