import TeachingShell.Proofs.Location

/-!
What each command may leave behind, whatever its words and however it ends. The tree, the location,
the history and the screen each belong to a few commands; all else belongs to none.
-/

namespace TeachingShell

structure Footprint (word : String) (before after : Context) : Prop where
  tree : word ∉ Verb.writers.map Verb.name → after.tree = before.tree
  cwd : word ≠ "cd" → after.cwd = before.cwd
  previous : word ≠ "cd" → after.session.previous = before.session.previous
  history : after.session.history = before.session.history ∨
    (word = "history" ∧ after.session.history = [])
  clears : after.clears = before.clears + if word = "clear" then 1 else 0
  home : after.session.home = before.session.home
  user : after.session.user = before.session.user
  host : after.session.host = before.session.host
  newline : after.newline = before.newline
  schemas : after.schemas = before.schemas

theorem Footprint.refl {word : String} (silent : word ≠ "clear") (context : Context) :
    Footprint word context context := by
  refine ⟨fun _ => rfl, fun _ => rfl, fun _ => rfl, Or.inl rfl, ?_, rfl, rfl, rfl, rfl, rfl⟩
  rw [if_neg silent, Nat.add_zero]

theorem Alters.writes {context : Context} {verb : Verb} {arguments : Arguments} {tree : Tree}
    (alters : Alters context verb arguments tree) : verb ∈ Verb.writers := by
  cases alters with
  | makeDirectory | makeFile | stampFile | removeFile | removeDirectory | rename | copyFile => decide

theorem Verb.name_eq_clear_iff {verb : Verb} : verb.name = "clear" ↔ verb = .clear := by
  constructor
  · intro same
    exact name_injective (show verb.name = Verb.clear.name from same)
  · rintro rfl
    rfl

namespace Effect

variable {context after : Context} {verb : Verb} {arguments : Arguments} {outcome : Outcome}

theorem footprint (effect : Effect context verb arguments outcome after) (silent : verb ≠ .clear) :
    Footprint verb.name context after := by
  have unchanged : Footprint verb.name context context :=
    Footprint.refl (fun same => silent (Verb.name_eq_clear_iff.mp same)) context
  cases effect with
  | refused text => exact unchanged
  | told text tells => exact unchanged
  | altered alters =>
      have own : verb.name ∈ Verb.writers.map Verb.name := List.mem_map_of_mem alters.writes
      exact ⟨fun foreign => absurd own foreign, fun _ => rfl, fun _ => rfl, Or.inl rfl,
        unchanged.clears, rfl, rfl, rfl, rfl, rfl⟩
  | entered text own directory =>
      subst own
      exact ⟨fun _ => rfl, fun foreign => absurd rfl foreign, fun foreign => absurd rfl foreign,
        Or.inl rfl, unchanged.clears, rfl, rfl, rfl, rfl, rfl⟩
  | forgotten text own =>
      subst own
      exact ⟨fun _ => rfl, fun _ => rfl, fun _ => rfl, Or.inr ⟨rfl, rfl⟩, unchanged.clears, rfl, rfl,
        rfl, rfl, rfl⟩
  | cleared own => exact absurd own silent

theorem of_cd (effect : Effect context .cd arguments outcome after) (done : outcome.ok) :
    after.session.previous = some context.cwd ∧ after.tree.IsDirectory after.cwd := by
  cases effect with
  | refused text => cases done
  | told text tells => cases tells
  | altered alters => exact absurd alters.writes (by decide)
  | entered text own directory => exact ⟨rfl, directory⟩
  | forgotten text own => cases own
  | cleared own => cases own

end Effect

theorem Verb.footprint_run (verb : Verb) (arguments : Arguments) (context : Context) :
    Footprint verb.name context (verb.run arguments context).2 := by
  by_cases clears : verb = .clear
  · subst clears
    exact ⟨fun _ => rfl, fun _ => rfl, fun _ => rfl, Or.inl rfl, rfl, rfl, rfl, rfl, rfl, rfl⟩
  · exact (verb.run_effect arguments context).footprint clears

namespace Shell

/-- Only the commands that write change the tree, only `cd` changes the location, only `history`
forgets, and `clear` alone clears the screen, once. A `cd` that succeeds remembers where it was and
ends in a directory. -/
theorem dispatch_footprint (shell : Shell) (word : String) (arguments : Arguments) :
    Footprint word shell.context (shell.dispatch word arguments).2.context ∧
      (word = "cd" → (shell.dispatch word arguments).1.ok →
        (shell.dispatch word arguments).2.session.previous = some shell.cwd ∧
          (shell.dispatch word arguments).2.Located) := by
  rcases shell.dispatch_word word arguments with ⟨foreign, unknown⟩ | ⟨verb, rfl, ran⟩
  · rw [unknown]
    refine ⟨Footprint.refl ?_ shell.context, fun _ done => ?_⟩
    · rintro rfl
      exact absurd foreign (by decide)
    · cases done
  · rw [ran]
    refine ⟨verb.footprint_run arguments shell.context, fun own done => ?_⟩
    have cd : verb = .cd := Verb.name_injective own
    subst cd
    exact (Verb.cd.run_effect arguments shell.context).of_cd done

theorem dispatch_footprint_terminal :
    ((boot .terminal .epoch).dispatch "cd" ["documents", "-l"]).1.ok ∧
      ((boot .terminal .epoch).dispatch "cd" ["documents", "-l"]).2.session.previous =
        some (boot .terminal .epoch).cwd ∧
      ((boot .terminal .epoch).dispatch "cd" ["documents", "-l"]).2.Located := by
  have done : ((boot .terminal .epoch).dispatch "cd" ["documents", "-l"]).1.ok := by decide
  obtain ⟨-, moved⟩ := dispatch_footprint (boot .terminal .epoch) "cd" ["documents", "-l"]
  exact ⟨done, moved rfl done⟩

end Shell

end TeachingShell
