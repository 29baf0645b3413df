import TeachingShell.Proofs.Undoing

/-!
Going back. A shell that moves remembers where it was, so `cd -` takes a move back, and a second one
takes back the first. If there is nothing to go back to, the shell stays where it is.
-/

namespace TeachingShell

theorem Session.enter_enter {session : Session} {path : Path} (left : session.previous = some path) :
    (session.enter path).enter session.cwd = session := by
  cases session
  cases left
  rfl

namespace Shell

variable {shell : Shell} {path : Path}

theorem entered_of_cd {arguments : Arguments} (done : (shell.dispatch "cd" arguments).1.ok) :
    ∃ path, shell.tree.IsDirectory path ∧ (shell.dispatch "cd" arguments).2 = shell.enter path := by
  rcases Command.changeDirectory_cases arguments shell.context with
    ⟨text, refused⟩ | ⟨destination, -, directory, entered⟩
  · have kept : shell.dispatch "cd" arguments = (.failed text, shell) :=
      dispatch_of_run .cd refused
    rw [kept] at done
    cases done
  · have moved : shell.dispatch "cd" arguments = (_, shell.enter destination.path) :=
      dispatch_of_run .cd entered
    rw [moved]
    exact ⟨destination.path, directory, rfl⟩

theorem destination_back (shell : Shell) :
    Command.destination? ["-"].head? shell.context.session =
      shell.session.previous.map fun path => ⟨path, "-", true⟩ := rfl

theorem dispatch_back (left : shell.session.previous = some path)
    (directory : shell.tree.IsDirectory path) :
    shell.dispatch "cd" ["-"] = (.success path.display, shell.enter path) := by
  have back := shell.destination_back
  rw [left, Option.map_some] at back
  exact dispatch_of_run .cd (Command.changeDirectory_of_directory back directory)

theorem dispatch_back_unset (unset : shell.session.previous = none) :
    shell.dispatch "cd" ["-"] = (.failed "bash: cd: OLDPWD not set", shell) := by
  have back := shell.destination_back
  rw [unset, Option.map_none] at back
  refine dispatch_of_run .cd ?_
  simp only [Verb.run, Command.changeDirectory, back]

theorem dispatch_back_gone (left : shell.session.previous = some path)
    (gone : ¬ shell.tree.IsDirectory path) :
    ∃ text, shell.dispatch "cd" ["-"] = (.failed text, shell) := by
  have back := shell.destination_back
  rw [left, Option.map_some] at back
  rcases Command.changeDirectory_cases ["-"] shell.context with
    ⟨text, refused⟩ | ⟨destination, known, directory, -⟩
  · exact ⟨text, dispatch_of_run .cd refused⟩
  · obtain rfl := Option.some.inj (back.symm.trans known)
    exact absurd directory gone

/-- From a directory, every change of directory that succeeds is undone by `cd -`, which prints where
it leads. With directories on both sides, two of them bring the whole shell back. With nothing behind
that is a directory, `cd -` fails, and the shell is still the same. -/
theorem back_undoes_cd (shell : Shell) :
    (shell.Located → ∀ arguments,
      let moved := shell.dispatch "cd" arguments
      let back := moved.2.dispatch "cd" ["-"]
      moved.1.ok →
        back.1 = .success shell.cwd.display ∧ back.2.cwd = shell.cwd ∧
          back.2.session.previous = some moved.2.cwd ∧ back.2.tree = shell.tree) ∧
      (shell.Located → ∀ path, shell.session.previous = some path → shell.tree.IsDirectory path →
        let back := shell.dispatch "cd" ["-"]
        back.1 = .success path.display ∧ back.2.cwd = path ∧
          back.2.dispatch "cd" ["-"] = (.success shell.cwd.display, shell)) ∧
      ((∀ path, shell.session.previous = some path → ¬ shell.tree.IsDirectory path) →
        ∃ text, shell.dispatch "cd" ["-"] = (.failed text, shell)) ∧
      (shell.session.previous = none →
        shell.dispatch "cd" ["-"] = (.failed "bash: cd: OLDPWD not set", shell)) := by
  refine ⟨?_, ?_, ?_, dispatch_back_unset⟩
  · intro located arguments moved back done
    obtain ⟨path, -, entered⟩ := entered_of_cd done
    have returned : back = (.success shell.cwd.display, (shell.enter path).enter shell.cwd) :=
      calc
        back = (shell.enter path).dispatch "cd" ["-"] := congrArg (dispatch · "cd" ["-"]) entered
        _ = _ := dispatch_back rfl located
    have there : moved.2.cwd = path := congrArg Shell.cwd entered
    rw [returned, there]
    exact ⟨rfl, rfl, rfl, rfl⟩
  · intro located path left directory back
    have first : back = (.success path.display, shell.enter path) := dispatch_back left directory
    have second : (shell.enter path).dispatch "cd" ["-"] =
        (.success shell.cwd.display, (shell.enter path).enter shell.cwd) :=
      dispatch_back rfl located
    have restored : (shell.enter path).enter shell.cwd = shell :=
      congrArg (fun session => { shell with context := { shell.context with session := session } })
        (Session.enter_enter left)
    rw [first]
    exact ⟨rfl, rfl, second.trans (congrArg _ restored)⟩
  · intro nothing
    cases left : shell.session.previous with
    | none => exact ⟨_, dispatch_back_unset left⟩
    | some path => exact dispatch_back_gone left (nothing path left)

theorem back_undoes_cd_terminal :
    let shell := boot .terminal .epoch
    let moved := (shell.dispatch "cd" ["documents"]).2
    let visited := ((shell.dispatch "cd" ["downloads"]).2.dispatch "cd" [".."]).2
    let lost := (visited.dispatch "rmdir" ["downloads"]).2
    (moved.dispatch "cd" ["-"]).1 = .success "/home/user" ∧
      (moved.dispatch "cd" ["-"]).2.dispatch "cd" ["-"] =
        (.success "/home/user/documents", moved) ∧
      shell.dispatch "cd" ["-"] = (.failed "bash: cd: OLDPWD not set", shell) ∧
      lost.session.previous = some ⟨["home", "user", "downloads"]⟩ ∧
      ∃ text, lost.dispatch "cd" ["-"] = (.failed text, lost) := by
  intro shell moved visited lost
  have located : shell.Located := located_of_start (start_terminal .epoch)
  obtain ⟨undone, -, -, unset⟩ := back_undoes_cd shell
  obtain ⟨-, twice, -, -⟩ := back_undoes_cd moved
  obtain ⟨-, -, refused, -⟩ := back_undoes_cd lost
  have left : lost.session.previous = some ⟨["home", "user", "downloads"]⟩ := rfl
  refine ⟨(undone located ["documents"] rfl).1, ?_, unset rfl, left, ?_⟩
  · exact (twice (located.dispatch "cd" ["documents"]) ⟨["home", "user"]⟩ rfl located).2.2
  · refine refused fun path known => ?_
    obtain rfl := Option.some.inj (left.symm.trans known)
    have gone : lost.tree.lookup? ⟨["home", "user", "downloads"]⟩ = none := rfl
    rintro ⟨node, found, -⟩
    cases gone.symm.trans found

end Shell

end TeachingShell
