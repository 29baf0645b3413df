import TeachingShell.Proofs.Naming

/-!
Reading back what was written. A command that writes takes its words for names, and the one that
prints a file takes its word for a path; the two agree on every name but the tilde.
-/

namespace TeachingShell

def Tree.read? (tree : Tree) (path : Path) : Option String :=
  (tree.lookup? path).bind Node.content?

namespace Command

variable {context : Context} {word : String}

theorem concatenate_word (word : String) (context : Context) :
    concatenate [word] context =
      match context.tree.lookup? (context.resolve word) with
      | none => .failed ("cat: " ++ word ++ ": " ++ "No such file or directory")
      | some (.file _ content) => .success content
      | some (.directory ..) => .failed ("cat: " ++ word ++ ": " ++ "Is a directory") := by
  cases found : context.tree.lookup? (context.resolve word) with
  | none =>
      have absent : context.tree.stat (context.resolve word) =
          .error (.on .notFound (context.resolve word).display) := by
        rw [Tree.stat, found]
      have read : Command.content [word] context = .error (.on .notFound word) := by
        simp only [Command.content, one, Bind.bind, Except.bind, absent]
        rfl
      rw [concatenate, read]
      rfl
  | some node =>
      have answered : context.tree.stat (context.resolve word) = .ok node :=
        Tree.stat_eq_ok_iff.mpr found
      cases node with
      | file attributes content =>
          have read : Command.content [word] context = .ok content := by
            simp only [Command.content, one, Bind.bind, Except.bind, answered]
            rfl
          rw [concatenate, read]
      | directory attributes names child =>
          have read : Command.content [word] context = .error (.on .isDirectory word) := by
            simp only [Command.content, one, Bind.bind, Except.bind, answered]
            rfl
          rw [concatenate, read]
          rfl

theorem concatenate_eq_success_iff {content : String} :
    concatenate [word] context = .success content ↔
      context.tree.read? (context.resolve word) = some content := by
  rw [concatenate_word, Tree.read?]
  cases context.tree.lookup? (context.resolve word) with
  | none => simp [Outcome.failed, Outcome.success, Outcome.failure]
  | some node =>
      cases node with
      | file attributes shown => simp [Outcome.success, Node.content?]
      | directory => simp [Outcome.failed, Outcome.success, Outcome.failure, Node.content?]

theorem concatenate_eq_missing_iff :
    concatenate [word] context = .failed ("cat: " ++ word ++ ": " ++ "No such file or directory") ↔
      context.tree.lookup? (context.resolve word) = none := by
  rw [concatenate_word]
  cases context.tree.lookup? (context.resolve word) with
  | none => simp
  | some node =>
      cases node with
      | file attributes shown => simp [Outcome.failed, Outcome.success, Outcome.failure]
      | directory =>
          simp [Outcome.failed, Outcome.failure]

end Command

namespace Alters

variable {context : Context} {source target : String} {tree : Tree}

theorem of_move (alters : Alters context .mv [source, target] tree) :
    Tree.isName target ∧ tree.lookup? (context.cwd.join source) = none ∧
      tree.lookup? (context.cwd.join target) = context.tree.lookup? (context.cwd.join source) := by
  cases alters with
  | rename found vacant =>
      have apart : source ≠ target := by
        rintro rfl
        rw [vacant.free] at found
        cases found
      have here := (Command.movable_siblings found vacant).isDirectory_unbind
      refine ⟨vacant.valid, ?_, ?_⟩
      · rw [Tree.lookup?_bind_join here, if_neg apart, Tree.lookup?_unbind_join, if_pos rfl]
      · rw [Tree.lookup?_bind_join here, if_pos rfl, found]

theorem of_copy (alters : Alters context .cp [source, target] tree) :
    Tree.isName target ∧ ∃ content, context.tree.read? (context.cwd.join source) = some content ∧
      tree.read? (context.cwd.join target) = some content := by
  cases alters with
  | copyFile found file vacant =>
      rename_i node
      obtain ⟨content, held⟩ := Node.exists_content file
      refine ⟨vacant.valid, content, ?_, ?_⟩
      · rw [Tree.read?, found, Option.bind_some, held]
      · rw [Tree.read?, Tree.lookup?_bind_join vacant.directory, if_pos rfl, Option.bind_some,
          Node.restamp, Node.content?_edit, held]

theorem of_touch (alters : Alters context .touch [target] tree) :
    ((∃ node, context.tree.lookup? (context.cwd.join target) = some node) ∨ Tree.isName target) ∧
      tree.read? (context.cwd.join target) =
        some ((context.tree.read? (context.cwd.join target)).getD "") := by
  cases alters with
  | makeFile vacant =>
      refine ⟨Or.inr vacant.valid, ?_⟩
      rw [Tree.read?, Tree.read?, Tree.lookup?_bind_join vacant.directory, if_pos rfl, vacant.free]
      rfl
  | stampFile found file =>
      rename_i node
      obtain ⟨content, held⟩ := Node.exists_content file
      refine ⟨Or.inl ⟨node, found⟩, ?_⟩
      rw [Tree.read?, Tree.read?, Tree.restamp, Tree.lookup?_edit_join, if_pos rfl, found,
        Option.map_some, Option.bind_some, Option.bind_some, Node.content?_edit, held,
        Option.getD_some]

end Alters

namespace Shell

theorem Located.accept_cat {shell : Shell} (located : shell.Located) {typed : Typed} {word : String}
    (spoken : Text.words typed.line = ["cat", word]) :
    (shell.accept typed).1 = Command.concatenate [word] (shell.hear typed).context := by
  rw [located.accept (show Text.words typed.line = Verb.cat.name :: [word] from spoken)]
  rfl

theorem Located.cat_eq_success_iff {shell : Shell} (located : shell.Located) {typed : Typed}
    {word content : String} (spoken : Text.words typed.line = ["cat", word]) :
    (shell.accept typed).1 = .success content ↔
      shell.tree.read? (shell.context.resolve word) = some content := by
  rw [located.accept_cat spoken, Command.concatenate_eq_success_iff, resolve_hear]
  rfl

theorem Located.cat_eq_missing_iff {shell : Shell} (located : shell.Located) {typed : Typed}
    {word : String} (spoken : Text.words typed.line = ["cat", word]) :
    (shell.accept typed).1 = .failed ("cat: " ++ word ++ ": " ++ "No such file or directory") ↔
      shell.tree.lookup? (shell.context.resolve word) = none := by
  rw [located.accept_cat spoken, Command.concatenate_eq_missing_iff, resolve_hear]
  rfl

/-- Whether a name is read as the child that it is given to. A tilde is if that child is home. -/
def Reads (shell : Shell) (name : String) : Prop :=
  name = "~" → shell.session.home = shell.cwd.join "~"

theorem resolve_iff (shell : Shell) {name : String} (valid : Tree.isName name)
    (holds : Path → Prop) (child : holds (shell.cwd.join name)) :
    holds (shell.context.resolve name) ↔ shell.Reads name ∨ holds shell.session.home := by
  have resolved : shell.context.resolve name =
      if name = "~" then shell.session.home else shell.cwd.join name :=
    Path.resolve_of_isName valid shell.cwd shell.session.home
  rw [resolved]
  by_cases tilde : name = "~"
  · rw [if_pos tilde]
    constructor
    · exact Or.inr
    · rintro (reads | atHome)
      · rw [reads tilde, ← tilde]
        exact child
      · exact atHome
  · rw [if_neg tilde]
    exact ⟨fun _ => Or.inl fun same => absurd same tilde, fun _ => child⟩

section

variable {here : Shell} (reached : here.Reached) {first second : Typed} {source target : String}

include reached

theorem Reached.cat_after {verb : Verb} {arguments : Arguments} (writes : verb ∈ Verb.writers)
    (spoken : Text.words first.line = verb.name :: arguments) (done : (here.accept first).1.ok)
    {word : String} (valid : Tree.isName word) (reads : Text.words second.line = ["cat", word]) :
    (∀ content, (here.accept first).2.tree.read? (here.cwd.join word) = some content →
        (((here.accept first).2.accept second).1 = .success content ↔
          here.Reads word ∨ (here.accept first).2.tree.read? here.session.home = some content)) ∧
      ((here.accept first).2.tree.lookup? (here.cwd.join word) = none →
        (((here.accept first).2.accept second).1 =
            .failed ("cat: " ++ word ++ ": " ++ "No such file or directory") ↔
          here.Reads word ∨ (here.accept first).2.tree.lookup? here.session.home = none)) := by
  have located : (here.accept first).2.Located := reached.located.acceptAll [first]
  obtain ⟨-, after⟩ := reached.located.accept_writer writes spoken done
  have same : (here.accept first).2.context.resolve word = here.context.resolve word := by
    rw [after]
    exact here.resolve_hear first word
  rw [located.cat_eq_missing_iff reads, same]
  refine ⟨fun content held => ?_, fun gone => ?_⟩
  · rw [located.cat_eq_success_iff reads, same]
    exact here.resolve_iff valid
      (fun path => (here.accept first).2.tree.read? path = some content) held
  · exact here.resolve_iff valid
      (fun path => (here.accept first).2.tree.lookup? path = none) gone

theorem Reached.read_moved (moves : Text.words first.line = ["mv", source, target])
    (done : (here.accept first).1.ok) {content : String}
    (prior : here.tree.read? (here.cwd.join source) = some content) :
    (∀ second, Text.words second.line = ["cat", target] →
        (((here.accept first).2.accept second).1 = .success content ↔
          here.Reads target ∨
            (here.accept first).2.tree.read? here.session.home = some content)) ∧
      ∀ second, Text.words second.line = ["cat", source] →
        (((here.accept first).2.accept second).1 =
            .failed ("cat: " ++ source ++ ": " ++ "No such file or directory") ↔
          here.Reads source ∨ (here.accept first).2.tree.lookup? here.session.home = none) := by
  have writes : Verb.mv ∈ Verb.writers := by decide
  obtain ⟨alters, -⟩ := reached.located.accept_writer writes moves done
  obtain ⟨valid, gone, moved⟩ := alters.of_move
  rw [context_cwd_hear] at gone moved
  obtain ⟨node, found, -⟩ := Option.bind_eq_some_iff.mp prior
  constructor
  · intro second reads
    have held := (congrArg (·.bind Node.content?) moved).trans prior
    exact (reached.cat_after writes moves done valid reads).1 content held
  · intro second reads
    exact (reached.cat_after writes moves done (reached.isName found) reads).2 gone

theorem Reached.read_copied (copies : Text.words first.line = ["cp", source, target])
    (done : (here.accept first).1.ok) (reads : Text.words second.line = ["cat", target]) :
    ∃ content, here.tree.read? (here.cwd.join source) = some content ∧
      (((here.accept first).2.accept second).1 = .success content ↔
        here.Reads target ∨
          (here.accept first).2.tree.read? here.session.home = some content) := by
  have writes : Verb.cp ∈ Verb.writers := by decide
  obtain ⟨alters, -⟩ := reached.located.accept_writer writes copies done
  obtain ⟨valid, content, prior, held⟩ := alters.of_copy
  rw [context_cwd_hear] at prior held
  exact ⟨content, prior, (reached.cat_after writes copies done valid reads).1 content held⟩

theorem Reached.read_touched (touches : Text.words first.line = ["touch", target])
    (done : (here.accept first).1.ok) (reads : Text.words second.line = ["cat", target]) :
    ((here.accept first).2.accept second).1 =
        .success ((here.tree.read? (here.cwd.join target)).getD "") ↔
      here.Reads target ∨ (here.accept first).2.tree.read? here.session.home =
        some ((here.tree.read? (here.cwd.join target)).getD "") := by
  have writes : Verb.touch ∈ Verb.writers := by decide
  obtain ⟨alters, -⟩ := reached.located.accept_writer writes touches done
  obtain ⟨known, held⟩ := alters.of_touch
  rw [context_cwd_hear] at known held
  have valid : Tree.isName target := by
    rcases known with ⟨node, found⟩ | valid
    · exact reached.isName found
    · exact valid
  exact (reached.cat_after writes touches done valid reads).1 _ held

end

/-- A name given by a command is read back by path as what it was given to. The one valid name that
a path reads otherwise is the tilde, wherever it would not be home itself; it is then read back if
what is at home happens to be the same. -/
theorem names_read_back {here : Shell} (reached : here.Reached) {source target : String}
    (sourceWord : Text.IsWord source) (targetWord : Text.IsWord target) (first second : Instant) :
    (∀ name location home, Tree.isName name →
        (Path.resolve name location home = location.join name ↔
          (name = "~" → home = location.join name))) ∧
      (∀ content, here.tree.read? (here.cwd.join source) = some content →
        (here.tell first ["mv", source, target]).1.ok →
          (((here.tell first ["mv", source, target]).2.tell second ["cat", target]).1 =
              .success content ↔
            here.Reads target ∨ (here.tell first ["mv", source, target]).2.tree.read?
              here.session.home = some content) ∧
          (((here.tell first ["mv", source, target]).2.tell second ["cat", source]).1 =
              .failed ("cat: " ++ source ++ ": " ++ "No such file or directory") ↔
            here.Reads source ∨ (here.tell first ["mv", source, target]).2.tree.lookup?
              here.session.home = none)) ∧
      ((here.tell first ["cp", source, target]).1.ok →
        ∃ content, here.tree.read? (here.cwd.join source) = some content ∧
          (((here.tell first ["cp", source, target]).2.tell second ["cat", target]).1 =
              .success content ↔
            here.Reads target ∨ (here.tell first ["cp", source, target]).2.tree.read?
              here.session.home = some content)) ∧
      ((here.tell first ["touch", target]).1.ok →
        (((here.tell first ["touch", target]).2.tell second ["cat", target]).1 =
            .success ((here.tree.read? (here.cwd.join target)).getD "") ↔
          here.Reads target ∨ (here.tell first ["touch", target]).2.tree.read?
            here.session.home = some ((here.tree.read? (here.cwd.join target)).getD ""))) := by
  have moves : Text.words (Typed.spoken first ["mv", source, target]).line = ["mv", source, target] :=
    Typed.words_spoken (by simp [sourceWord, targetWord, show Text.IsWord "mv" by decide]) first
  have copies : Text.words (Typed.spoken first ["cp", source, target]).line = ["cp", source, target] :=
    Typed.words_spoken (by simp [sourceWord, targetWord, show Text.IsWord "cp" by decide]) first
  have touches : Text.words (Typed.spoken first ["touch", target]).line = ["touch", target] :=
    Typed.words_spoken (by simp [targetWord, show Text.IsWord "touch" by decide]) first
  have reads {file : String} (isWord : Text.IsWord file) :
      Text.words (Typed.spoken second ["cat", file]).line = ["cat", file] :=
    Typed.words_spoken (by simp [isWord, show Text.IsWord "cat" by decide]) second
  refine ⟨fun name location home valid => Path.resolve_eq_join_iff valid location home, ?_, ?_, ?_⟩
  · intro content prior done
    obtain ⟨there, gone⟩ := reached.read_moved moves done prior
    exact ⟨there _ (reads targetWord), gone _ (reads sourceWord)⟩
  · intro done
    exact reached.read_copied copies done (reads targetWord)
  · intro done
    exact reached.read_touched touches done (reads targetWord)

theorem names_read_back_terminal :
    (boot .terminal .epoch).Reached ∧ Text.IsWord "README.txt" ∧ Text.IsWord "notes" ∧
      ∃ content,
        ((boot .terminal .epoch).tell .epoch ["mv", "README.txt", "notes"]).1.ok ∧
          (((boot .terminal .epoch).tell .epoch ["mv", "README.txt", "notes"]).2.tell .epoch
            ["cat", "notes"]).1 = .success content ∧
          (((boot .terminal .epoch).tell .epoch ["touch", "notes"]).2.tell .epoch
            ["cat", "notes"]).1 = .success "" := by
  have reached : (boot .terminal .epoch).Reached :=
    ⟨.terminal, .epoch, _, [], start_terminal .epoch, rfl⟩
  have source : Text.IsWord "README.txt" := by decide
  have target : Text.IsWord "notes" := by decide
  have child : (boot .terminal .epoch).Reads "notes" := fun tilde => absurd tilde (by decide)
  obtain ⟨-, moved, copied, touched⟩ := names_read_back reached source target .epoch .epoch
  obtain ⟨content, prior, -⟩ := copied (by decide +kernel)
  have done : ((boot .terminal .epoch).tell .epoch ["mv", "README.txt", "notes"]).1.ok := by
    decide +kernel
  refine ⟨reached, source, target, content, done, ?_, ?_⟩
  · exact (moved content prior done).1.mpr (Or.inl child)
  · exact (touched (by decide +kernel)).mpr (Or.inl child)

/-- A file can be called by the tilde, and what is read under that name is still home. -/
theorem tilde_is_not_read_back :
    start .isolated .epoch = .ok (boot .isolated .epoch) ∧ Tree.isName "~" ∧ Text.IsWord "~" ∧
      Path.resolve "~" (boot .isolated .epoch).cwd (boot .isolated .epoch).session.home ≠
        (boot .isolated .epoch).cwd.join "~" ∧
      ((boot .isolated .epoch).tell .epoch ["touch", "~"]).1.ok ∧
      (((boot .isolated .epoch).tell .epoch ["touch", "~"]).2.tell .epoch ["cat", "~"]).1 =
        .failed "cat: ~: Is a directory" := by
  refine ⟨rfl, ?_⟩
  decide +kernel

end Shell

end TeachingShell
