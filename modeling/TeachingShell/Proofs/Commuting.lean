import TeachingShell.Proofs.Agreement
import TeachingShell.Proofs.Locality

/-!
Commands on different names do not get into each other's way: their order makes no difference to
what they answer nor to what they leave.
-/

namespace TeachingShell

theorem Alters.isDirectory {context : Context} {verb : Verb} {arguments : Arguments} {tree : Tree}
    (alters : Alters context verb arguments tree) : context.tree.IsDirectory context.cwd := by
  cases alters with
  | makeDirectory vacant => exact vacant.directory
  | makeFile vacant => exact vacant.directory
  | stampFile found file => exact Tree.isDirectory_of_lookup?_join found
  | removeFile found file => exact Tree.isDirectory_of_lookup?_join found
  | removeDirectory found empty => exact Tree.isDirectory_of_lookup?_join found
  | rename found vacant => exact vacant.directory
  | copyFile found file vacant => exact vacant.directory

theorem Confined.mono {location : Path} {names more : List String} {before after : Tree}
    (confined : Confined location names before after) (included : names ⊆ more) :
    Confined location more before after := by
  refine ⟨fun path notAbove notBelow => ?_, confined.above, confined.strictlyAbove⟩
  exact confined.beside path notAbove fun name member => notBelow name (included member)

theorem Confined.agree {location : Path} {names others : List String} {before after : Tree}
    (confined : Confined location names before after) (apart : ∀ name ∈ others, name ∉ names) :
    Tree.Agree location others before after :=
  ⟨confined.kind.symm, fun name member => (confined.child (apart name member)).symm⟩

namespace Verb

variable {verb first second : Verb} {words others : Arguments}

theorem run_writes (writes : verb ∈ writers) (arguments : Arguments) (context : Context) :
    (verb.run arguments context).2 =
      { context with tree := (verb.run arguments context).2.tree } := by
  rcases run_cases writes arguments context with ⟨text, ran⟩ | ⟨tree, _, ran⟩
  · rw [ran]
  · rw [ran]

theorem cwd_run (writes : verb ∈ writers) (arguments : Arguments) (context : Context) :
    (verb.run arguments context).2.cwd = context.cwd := by
  rw [run_writes writes]
  rfl

theorem run_of_not_isDirectory (writes : verb ∈ writers) (arguments : Arguments) {context : Context}
    (nowhere : ¬ context.tree.IsDirectory context.cwd) :
    (verb.run arguments context).2 = context := by
  rcases run_cases writes arguments context with ⟨text, ran⟩ | ⟨tree, alters, _⟩
  · rw [ran]
  · exact absurd alters.isDirectory nowhere

theorem run_confined (verb : Verb) (arguments : Arguments) (context : Context) :
    Confined context.cwd arguments context.tree (verb.run arguments context).2.tree :=
  (verb.run_effect arguments context).confined.mono (List.take_subset _ _)

theorem runs_write (firstWrites : first ∈ writers) (secondWrites : second ∈ writers)
    (words others : Arguments) (context : Context) :
    (second.run others (first.run words context).2).2 =
      { context with tree := (second.run others (first.run words context).2).2.tree } := by
  refine (run_writes secondWrites _ _).trans ?_
  generalize (second.run others (first.run words context).2).2.tree = tree
  rw [run_writes firstWrites]

theorem runs_confined (firstWrites : first ∈ writers) (second : Verb) (context : Context)
    {names : List String} (wordsIncluded : words ⊆ names) (othersIncluded : others ⊆ names) :
    Confined context.cwd names context.tree
      (second.run others (first.run words context).2).2.tree := by
  have once := (first.run_confined words context).mono wordsIncluded
  have twice := (second.run_confined others (first.run words context).2).mono othersIncluded
  rw [cwd_run firstWrites] at twice
  exact once.trans twice

/-- After a command on other names, a command answers as before and makes the same of its own. -/
theorem run_after_foreign (firstWrites : first ∈ writers) (secondWrites : second ∈ writers)
    (apart : ∀ word ∈ words, word ∉ others) (context : Context) :
    (second.run others (first.run words context).2).1 = (second.run others context).1 ∧
      Tree.Agree context.cwd others (second.run others context).2.tree
        (second.run others (first.run words context).2).2.tree := by
  rw [run_writes firstWrites]
  refine run_agree secondWrites ((first.run_confined words context).agree ?_)
  intro name member own
  exact apart name own member

theorem child_runs (firstWrites : first ∈ writers) (secondWrites : second ∈ writers)
    (apart : ∀ word ∈ words, word ∉ others) (context : Context) {name : String}
    (own : name ∈ words) :
    (second.run others (first.run words context).2).2.tree.lookup? (context.cwd.join name) =
      (first.run words (second.run others context).2).2.tree.lookup? (context.cwd.join name) := by
  have kept := (second.run_confined others (first.run words context).2).child (apart name own)
  rw [cwd_run firstWrites] at kept
  have foreign : ∀ word ∈ others, word ∉ words := fun word member also => apart word also member
  have remade := (run_after_foreign secondWrites firstWrites foreign context).2
  exact kept.trans (remade.child name own)

theorem runs_commute (firstWrites : first ∈ writers) (secondWrites : second ∈ writers)
    (apart : ∀ word ∈ words, word ∉ others) (context : Context) :
    (second.run others (first.run words context).2).2 =
      (first.run words (second.run others context).2).2 := by
  by_cases here : context.tree.IsDirectory context.cwd
  · -- Neither order changes anything but the operands, so the trees are equal if those are.
    have left : words ⊆ words ++ others := List.subset_append_left words others
    have right : others ⊆ words ++ others := List.subset_append_right words others
    have foreign : ∀ word ∈ others, word ∉ words := fun word member also => apart word also member
    have sameTree := (runs_confined firstWrites second context left right).eq_of_child
      (runs_confined secondWrites first context right left) here fun name member => by
        rcases List.mem_append.mp member with own | own
        · exact child_runs firstWrites secondWrites apart context own
        · exact (child_runs secondWrites firstWrites foreign context own).symm
    rw [runs_write firstWrites secondWrites, runs_write secondWrites firstWrites, sameTree]
  · -- Without a directory to write to, neither command does anything.
    rw [run_of_not_isDirectory firstWrites words here,
      run_of_not_isDirectory secondWrites others here, run_of_not_isDirectory firstWrites words here]

end Verb

/-- Two commands that write and share no word may run in either order. -/
theorem Shell.dispatch_commutes (shell : Shell) {first second : Verb}
    (firstWrites : first ∈ Verb.writers) (secondWrites : second ∈ Verb.writers)
    {words others : Arguments} (apart : ∀ word ∈ words, word ∉ others) :
    ((shell.dispatch first.name words).2.dispatch second.name others).2 =
        ((shell.dispatch second.name others).2.dispatch first.name words).2 ∧
      ((shell.dispatch second.name others).2.dispatch first.name words).1 =
        (shell.dispatch first.name words).1 ∧
      ((shell.dispatch first.name words).2.dispatch second.name others).1 =
        (shell.dispatch second.name others).1 := by
  have foreign : ∀ word ∈ others, word ∉ words := fun word member also => apart word also member
  simp only [dispatch_verb]
  refine ⟨?_, ?_, ?_⟩
  · rw [Verb.runs_commute firstWrites secondWrites apart]
  · exact (Verb.run_after_foreign secondWrites firstWrites foreign shell.context).1
  · exact (Verb.run_after_foreign firstWrites secondWrites apart shell.context).1

theorem Shell.dispatch_commutes_terminal :
    Verb.mv ∈ Verb.writers ∧ Verb.rmdir ∈ Verb.writers ∧
      (∀ word ∈ ["README.txt", "notes"], word ∉ ["downloads", "--"]) ∧
      (((boot .terminal .epoch).dispatch "mv" ["README.txt", "notes"]).2.dispatch "rmdir"
          ["downloads", "--"]).2 =
        (((boot .terminal .epoch).dispatch "rmdir" ["downloads", "--"]).2.dispatch "mv"
          ["README.txt", "notes"]).2 ∧
      (((boot .terminal .epoch).dispatch "rmdir" ["downloads", "--"]).2.dispatch "mv"
          ["README.txt", "notes"]).1 =
        ((boot .terminal .epoch).dispatch "mv" ["README.txt", "notes"]).1 ∧
      (((boot .terminal .epoch).dispatch "mv" ["README.txt", "notes"]).2.dispatch "rmdir"
          ["downloads", "--"]).1 =
        ((boot .terminal .epoch).dispatch "rmdir" ["downloads", "--"]).1 := by
  have moves : Verb.mv ∈ Verb.writers := by decide
  have removes : Verb.rmdir ∈ Verb.writers := by decide
  have apart : ∀ word ∈ ["README.txt", "notes"], word ∉ ["downloads", "--"] := by decide
  exact ⟨moves, removes, apart, (boot .terminal .epoch).dispatch_commutes moves removes apart⟩

end TeachingShell
