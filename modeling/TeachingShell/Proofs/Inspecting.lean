import TeachingShell.Proofs.Answers
import TeachingShell.Proofs.Listings
import TeachingShell.Proofs.Undoing

/-!
What a word leads to, as `cat`, `cd` and `ls` see it. One prints a file, one enters a directory and
one shows either, each by a look-up of its own; they never disagree on which it is.
-/

namespace TeachingShell

theorem Node.descend?_of_file {node : Node} (file : node.isFile) {way : List String}
    (below : way ≠ []) : node.descend? way = none := by
  obtain ⟨name, rest, rfl⟩ := List.exists_cons_of_ne_nil below
  rw [descend?_cons, child?_eq_none_of_file file]
  rfl

theorem Tree.lookup?_below_file {tree : Tree} {path above : Path} {node : Node}
    (found : tree.lookup? above = some node) (file : node.isFile) (below : path.startsWith above)
    (apart : path ≠ above) : tree.lookup? path = none := by
  obtain ⟨way, rfl⟩ := Path.startsWith_iff_extend.mp below
  have onward : way ≠ [] := by
    rintro rfl
    exact apart (Path.extend_nil above)
  rw [lookup?_extend, found]
  exact Node.descend?_of_file file onward

theorem Arguments.lettersOf?_eq_none {word : String} (notDash : ¬ Begins "-" word) :
    lettersOf? word = none := by
  unfold lettersOf?
  split
  next letter letters spelled =>
    refine absurd ?_ notDash
    rw [Begins, spelled]
    exact List.prefix_append ['-'] (letter :: letters)
  next => rfl

namespace Command

variable {word : String}

theorem ne_dash (notDash : ¬ Begins "-" word) : word ≠ "-" := by
  rintro rfl
  exact notDash (List.prefix_refl _)

theorem changeDirectory_plain (notBack : word ≠ "-") (context : Context) :
    changeDirectory [word] context =
      match context.tree.lookup? (context.resolve word) with
      | none => (.failed ("bash: cd: " ++ word ++ ": " ++ "No such file or directory"), context)
      | some (.file ..) =>
          (.failed ("bash: cd: " ++ word ++ ": " ++ "Not a directory"), context)
      | some (.directory ..) =>
          (.silent, { context with session := context.session.enter (context.resolve word) }) := by
  have known : destination? [word].head? context.session =
      some ⟨context.resolve word, word, false⟩ := destination?_word notBack context.session
  simp only [changeDirectory, known, Tree.directory, Tree.stat_bind]
  cases context.tree.lookup? (context.resolve word) with
  | none => rfl
  | some node =>
      cases node with
      | file attributes content => rfl
      | directory attributes names child => rfl

theorem list_plain (notDash : ¬ Begins "-" word) (context : Context) :
    list [word] context =
      match context.tree.lookup? (context.resolve word) with
      | none => .failed ("ls: cannot access '" ++ word ++ "': " ++ "No such file or directory")
      | some node =>
          .success (if node.isFile then word else (Listing.directory node.entries).short) := by
  have letters := Arguments.lettersOf?_eq_none notDash
  have flags : Arguments.flags [word] = [] := by simp [Arguments.flags, letters]
  have operands : Arguments.operands [word] = [word] := by
    simp [Arguments.operands, Arguments.isFlag, letters]
  have noStray : strayFlag? 'l' [word] = none := by
    rw [strayFlag?_eq_none_iff, flags]
    exact List.forall_mem_nil _
  simp only [list, noStray, operands, flags, List.head?_cons, listing_word]
  cases context.tree.lookup? (context.resolve word) with
  | none => rfl
  | some node =>
      cases node with
      | file attributes content => rfl
      | directory attributes names child => rfl

end Command

namespace Shell

variable {shell : Shell} {word : String}

structure Misses (shell : Shell) (word : String) : Prop where
  cat : shell.dispatch "cat" [word] =
    (.failed ("cat: " ++ word ++ ": " ++ "No such file or directory"), shell)
  cd : shell.dispatch "cd" [word] =
    (.failed ("bash: cd: " ++ word ++ ": " ++ "No such file or directory"), shell)
  ls : shell.dispatch "ls" [word] =
    (.failed ("ls: cannot access '" ++ word ++ "': " ++ "No such file or directory"), shell)

structure MeetsFile (shell : Shell) (word content : String) : Prop where
  cat : shell.dispatch "cat" [word] = (.success content, shell)
  cd : shell.dispatch "cd" [word] =
    (.failed ("bash: cd: " ++ word ++ ": " ++ "Not a directory"), shell)
  ls : shell.dispatch "ls" [word] = (.success word, shell)

structure MeetsDirectory (shell : Shell) (word : String) (directory : Node) : Prop where
  cat : shell.dispatch "cat" [word] =
    (.failed ("cat: " ++ word ++ ": " ++ "Is a directory"), shell)
  cd : shell.dispatch "cd" [word] = (.silent, shell.enter (shell.context.resolve word))
  ls : shell.dispatch "ls" [word] =
    (.success (Command.Listing.directory directory.entries).short, shell)

section

variable (notDash : ¬ Begins "-" word)

include notDash

theorem misses (missing : shell.tree.lookup? (shell.context.resolve word) = none) :
    shell.Misses word := by
  have absent : shell.context.tree.lookup? (shell.context.resolve word) = none := missing
  refine ⟨dispatch_of_run .cat ?_, dispatch_of_run .cd ?_, dispatch_of_run .ls ?_⟩
  · rw [Verb.run, Command.concatenate_word, absent]
  · rw [Verb.run, Command.changeDirectory_plain (Command.ne_dash notDash), absent]
  · rw [Verb.run, Command.list_plain notDash, absent]

theorem meetsFile {attributes : Attributes} {content : String}
    (found : shell.tree.lookup? (shell.context.resolve word) = some (.file attributes content)) :
    shell.MeetsFile word content := by
  have there : shell.context.tree.lookup? (shell.context.resolve word) =
      some (.file attributes content) := found
  refine ⟨dispatch_of_run .cat ?_, dispatch_of_run .cd ?_, dispatch_of_run .ls ?_⟩
  · rw [Verb.run, Command.concatenate_word, there]
  · rw [Verb.run, Command.changeDirectory_plain (Command.ne_dash notDash), there]
  · rw [Verb.run, Command.list_plain notDash, there]
    rfl

theorem meetsDirectory {directory : Node}
    (found : shell.tree.lookup? (shell.context.resolve word) = some directory)
    (holds : directory.isDirectory) : shell.MeetsDirectory word directory := by
  have there : shell.context.tree.lookup? (shell.context.resolve word) = some directory := found
  cases directory with
  | file => cases holds
  | directory attributes names child =>
      refine ⟨dispatch_of_run .cat ?_, dispatch_of_run .cd ?_, dispatch_of_run .ls ?_⟩
      · rw [Verb.run, Command.concatenate_word, there]
      · rw [Verb.run, Command.changeDirectory_plain (Command.ne_dash notDash), there]
        rfl
      · rw [Verb.run, Command.list_plain notDash, there]
        rfl

theorem inspections_succeed :
    ((shell.dispatch "cat" [word]).1.ok ↔
      ∃ node, shell.tree.lookup? (shell.context.resolve word) = some node ∧ node.isFile) ∧
      ((shell.dispatch "cd" [word]).1.ok ↔
        ∃ node, shell.tree.lookup? (shell.context.resolve word) = some node ∧ node.isDirectory) ∧
      ((shell.dispatch "ls" [word]).1.ok ↔
        ∃ node, shell.tree.lookup? (shell.context.resolve word) = some node) := by
  cases found : shell.tree.lookup? (shell.context.resolve word) with
  | none =>
      obtain ⟨cat, cd, ls⟩ := misses notDash found
      simp [cat, cd, ls]
  | some node =>
      cases node with
      | file attributes content =>
          obtain ⟨cat, cd, ls⟩ := meetsFile notDash found
          simp [cat, cd, ls, Node.isFile, Node.isDirectory, Node.kind]
      | directory attributes names child =>
          obtain ⟨cat, cd, ls⟩ := meetsDirectory notDash found rfl
          simp [cat, cd, ls, Outcome.silent, Node.isFile, Node.isDirectory, Node.kind]

end

/-- A word that does not begin with a dash is told by `cat`, `cd` and `ls` to lead to a file, to a
directory or nowhere, and by all three to the same. A way through a file leads nowhere. -/
theorem inspections_agree (shell : Shell) {word : String} (notDash : ¬ Begins "-" word) :
    let found := shell.tree.lookup? (shell.context.resolve word)
    ((shell.dispatch "cat" [word]).1.ok ↔ ∃ node, found = some node ∧ node.isFile) ∧
      ((shell.dispatch "cd" [word]).1.ok ↔ ∃ node, found = some node ∧ node.isDirectory) ∧
      ((shell.dispatch "ls" [word]).1.ok ↔ ∃ node, found = some node) ∧
      (found = none → shell.Misses word) ∧
      (∀ above node, shell.tree.lookup? above = some node → node.isFile →
        (shell.context.resolve word).startsWith above → shell.context.resolve word ≠ above →
          shell.Misses word) ∧
      (∀ attributes content, found = some (.file attributes content) →
        shell.MeetsFile word content) ∧
      ∀ directory, found = some directory → directory.isDirectory →
        shell.MeetsDirectory word directory := by
  intro found
  obtain ⟨cat, cd, ls⟩ := inspections_succeed notDash
  refine ⟨cat, cd, ls, misses notDash, ?_, fun attributes content => meetsFile notDash,
    fun directory => meetsDirectory notDash⟩
  intro above node stands file below apart
  exact misses notDash (Tree.lookup?_below_file stands file below apart)

theorem inspections_agree_terminal :
    let shell := boot .terminal .epoch
    shell.Misses "README.txt/../documents/nowhere" ∧
      shell.dispatch "ls" ["README.txt/below"] =
        (.failed "ls: cannot access 'README.txt/below': No such file or directory", shell) ∧
      shell.MeetsFile "documents/notes.md" "# My Notes\n\n- Idea 1\n- Idea 2\n- Idea 3" ∧
      shell.dispatch "cd" ["README.txt"] =
        (.failed "bash: cd: README.txt: Not a directory", shell) ∧
      shell.dispatch "cat" ["~"] = (.failed "cat: ~: Is a directory", shell) ∧
      (shell.dispatch "cd" ["~"]).1.ok := by
  intro shell
  have noDash : ¬ Begins "-" "README.txt/../documents/nowhere" ∧ ¬ Begins "-" "README.txt/below" ∧
      ¬ Begins "-" "documents/notes.md" ∧ ¬ Begins "-" "README.txt" ∧ ¬ Begins "-" "~" := by decide
  obtain ⟨-, -, -, nowhere, -, -, -⟩ := inspections_agree shell noDash.1
  obtain ⟨-, -, -, -, through, -, -⟩ := inspections_agree shell noDash.2.1
  obtain ⟨-, -, -, -, -, notes, -⟩ := inspections_agree shell noDash.2.2.1
  obtain ⟨-, -, -, -, -, readme, -⟩ := inspections_agree shell noDash.2.2.2.1
  obtain ⟨-, enterable, -, -, -, -, directory⟩ := inspections_agree shell noDash.2.2.2.2
  have below : shell.Misses "README.txt/below" :=
    through ⟨["home", "user", "README.txt"]⟩ _ rfl rfl (by decide) (by decide)
  refine ⟨nowhere rfl, below.ls, notes _ _ rfl, (readme _ _ rfl).cd, ?_, enterable.mpr ?_⟩
  · exact (directory (Tutorial.home Instant.epoch.stamp) rfl rfl).cat
  · exact ⟨Tutorial.home Instant.epoch.stamp, rfl, rfl⟩

end Shell

end TeachingShell
