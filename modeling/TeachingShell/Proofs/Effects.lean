import TeachingShell.Proofs.Alterations
import TeachingShell.Proofs.Registration
import TeachingShell.Shell.Basic

/-!
All that a command can do to its context. Whatever is proved of each effect holds of every command
with every list of words.
-/

namespace TeachingShell

def Verb.tells : Verb → Bool
  | .ls | .pwd | .cat | .whoami | .date | .help | .echo | .history => true
  | .cd | .mkdir | .rmdir | .touch | .rm | .mv | .cp | .clear => false

inductive Effect (context : Context) (verb : Verb) (arguments : Arguments) :
    Outcome → Context → Prop
  | refused (text : String) : Effect context verb arguments (.failed text) context
  | told (text : String) : verb.tells → Effect context verb arguments (.success text) context
  | altered {tree : Tree} : Alters context verb arguments tree →
      Effect context verb arguments .silent { context with tree := tree }
  | entered {path : Path} (text : String) : verb = .cd → context.tree.IsDirectory path →
      Effect context verb arguments (.success text)
        { context with session := context.session.enter path }
  | forgotten (text : String) : verb = .history →
      Effect context verb arguments (.success text)
        { context with session := context.session.clearHistory }
  | cleared : verb = .clear →
      Effect context verb arguments .silent { context with clears := context.clears + 1 }

theorem Effect.context_of_failure {context after : Context} {verb : Verb} {arguments : Arguments}
    {outcome : Outcome} (effect : Effect context verb arguments outcome after)
    (failed : outcome.code ≠ 0) : after = context := by
  cases effect with
  | refused text => rfl
  | told text tells => rfl
  | altered alters => exact absurd rfl failed
  | entered text verb directory => exact absurd rfl failed
  | forgotten text verb => exact absurd rfl failed
  | cleared verb => exact absurd rfl failed

def Outcome.Plain (outcome : Outcome) : Prop :=
  (∃ text, outcome = .success text) ∨ ∃ text, outcome = .failed text

namespace Command

variable {context : Context} {verb : Verb} {arguments : Arguments}

theorem effect_of_plain {outcome : Outcome} (tells : verb.tells) (plain : outcome.Plain) :
    Effect context verb arguments outcome context := by
  rcases plain with ⟨text, rfl⟩ | ⟨text, rfl⟩
  · exact .told text tells
  · exact .refused text

theorem effect_commit {report : Failure → String} {result : Except Failure Tree}
    (sound : ∀ tree, result = .ok tree → Alters context verb arguments tree) :
    Effect context verb arguments (commit context report result).1
      (commit context report result).2 := by
  cases result with
  | error failure => exact .refused (report failure)
  | ok tree => exact .altered (sound tree rfl)

theorem plain_list (arguments : Arguments) (context : Context) : (list arguments context).Plain := by
  unfold list
  split
  · exact Or.inr ⟨_, rfl⟩
  · simp only
    split
    · exact Or.inl ⟨_, rfl⟩
    · exact Or.inr ⟨_, rfl⟩

theorem plain_concatenate (arguments : Arguments) (context : Context) :
    (concatenate arguments context).Plain := by
  unfold concatenate
  split
  · exact Or.inl ⟨_, rfl⟩
  · exact Or.inr ⟨_, rfl⟩

theorem plain_help (arguments : Arguments) (context : Context) : (help arguments context).Plain := by
  unfold help
  split
  · exact Or.inl ⟨_, rfl⟩
  · split
    · exact Or.inl ⟨_, rfl⟩
    · exact Or.inr ⟨_, rfl⟩

theorem plain_showHistory (count : Nat) (context : Context) : (showHistory count context).Plain := by
  unfold showHistory
  simp only
  split
  · exact Or.inl ⟨_, rfl⟩
  · exact Or.inl ⟨_, rfl⟩

theorem effect_history :
    Effect context .history arguments (history arguments context).1 (history arguments context).2 := by
  unfold history
  split
  · exact .forgotten _ rfl
  next count _ => exact effect_of_plain rfl (plain_showHistory count context)
  · exact .refused _

theorem changeDirectory_of_directory {destination : Destination}
    (known : destination? arguments.head? context.session = some destination)
    (directory : context.tree.IsDirectory destination.path) :
    changeDirectory arguments context =
      (.success (if destination.announced then destination.path.display else ""),
        { context with session := context.session.enter destination.path }) := by
  obtain ⟨node, answered⟩ := Tree.isDirectory_iff.mp directory
  simp only [changeDirectory, known, answered]

theorem changeDirectory_cases (arguments : Arguments) (context : Context) :
    (∃ text, changeDirectory arguments context = (.failed text, context)) ∨
      ∃ destination, destination? arguments.head? context.session = some destination ∧
        context.tree.IsDirectory destination.path ∧
        changeDirectory arguments context =
          (.success (if destination.announced then destination.path.display else ""),
            { context with session := context.session.enter destination.path }) := by
  cases known : destination? arguments.head? context.session with
  | none => exact Or.inl ⟨_, by simp only [changeDirectory, known]; rfl⟩
  | some destination =>
      cases answered : context.tree.directory destination.path with
      | error failure => exact Or.inl ⟨_, by simp only [changeDirectory, known, answered]; rfl⟩
      | ok node =>
          have directory := Tree.isDirectory_iff.mpr ⟨node, answered⟩
          exact Or.inr ⟨destination, rfl, directory, changeDirectory_of_directory known directory⟩

theorem effect_changeDirectory :
    Effect context .cd arguments (changeDirectory arguments context).1
      (changeDirectory arguments context).2 := by
  rcases changeDirectory_cases arguments context with
    ⟨text, refused⟩ | ⟨destination, -, directory, entered⟩
  · rw [refused]
    exact .refused text
  · rw [entered]
    exact .entered _ rfl directory

theorem effect_move {report : Failure → String} :
    Effect context .mv arguments (keep context report (move arguments context)).1
      (keep context report (move arguments context)).2 := by
  rcases move_cases arguments context with ⟨failure, kept⟩ | ⟨tree, moved, altered⟩
  · rw [kept]
    exact .refused (report failure)
  · rw [moved]
    exact .altered altered

end Command

theorem Verb.run_effect (verb : Verb) (arguments : Arguments) (context : Context) :
    Effect context verb arguments (verb.run arguments context).1 (verb.run arguments context).2 := by
  cases verb with
  | ls => exact Command.effect_of_plain rfl (Command.plain_list arguments context)
  | cd => exact Command.effect_changeDirectory
  | pwd => exact .told _ rfl
  | cat => exact Command.effect_of_plain rfl (Command.plain_concatenate arguments context)
  | mkdir => exact Command.effect_commit fun _ => Command.makeDirectory_eq_ok_iff.mp
  | rmdir => exact Command.effect_commit fun _ => Command.removeDirectory_eq_ok_iff.mp
  | touch => exact Command.effect_commit fun _ => Command.touch_eq_ok_iff.mp
  | rm => exact Command.effect_commit fun _ => Command.removeFile_eq_ok_iff.mp
  | mv => exact Command.effect_move
  | cp => exact Command.effect_commit fun _ => Command.copy_eq_ok_iff.mp
  | whoami => exact .told _ rfl
  | date => exact .told _ rfl
  | clear => exact .cleared rfl
  | help => exact Command.effect_of_plain rfl (Command.plain_help arguments context)
  | echo => exact .told _ rfl
  | history => exact Command.effect_history

def Verb.writers : List Verb := [.mkdir, .rmdir, .touch, .rm, .mv, .cp]

theorem Effect.cases_of_writes {context after : Context} {verb : Verb} {arguments : Arguments}
    {outcome : Outcome} (effect : Effect context verb arguments outcome after)
    (writes : verb ∈ Verb.writers) :
    (∃ text, outcome = .failed text ∧ after = context) ∨
      ∃ tree, Alters context verb arguments tree ∧ outcome = .silent ∧
        after = { context with tree := tree } := by
  cases effect with
  | refused text => exact Or.inl ⟨text, rfl, rfl⟩
  | altered alters => exact Or.inr ⟨_, alters, rfl, rfl⟩
  | told text tells => cases verb <;> simp [Verb.writers, Verb.tells] at writes tells
  | entered text own directory => simp [own, Verb.writers] at writes
  | forgotten text own => simp [own, Verb.writers] at writes
  | cleared own => simp [own, Verb.writers] at writes

theorem Verb.run_cases {verb : Verb} (writes : verb ∈ writers) (arguments : Arguments)
    (context : Context) :
    (∃ text, verb.run arguments context = (.failed text, context)) ∨
      ∃ tree, Alters context verb arguments tree ∧
        verb.run arguments context = (.silent, { context with tree := tree }) := by
  rcases (verb.run_effect arguments context).cases_of_writes writes with
    ⟨text, failed, kept⟩ | ⟨tree, alters, silent, altered⟩
  · exact Or.inl ⟨text, Prod.ext failed kept⟩
  · exact Or.inr ⟨tree, alters, Prod.ext silent altered⟩

theorem Alters.run {context : Context} {verb : Verb} {arguments : Arguments} {tree : Tree}
    (alters : Alters context verb arguments tree) :
    verb.run arguments context = (.silent, { context with tree := tree }) := by
  cases alters with
  | makeDirectory vacant =>
      rw [Verb.run, Command.makeDirectory_eq_ok_iff.mpr (.makeDirectory vacant), Command.commit]
  | makeFile vacant => rw [Verb.run, Command.touch_eq_ok_iff.mpr (.makeFile vacant), Command.commit]
  | stampFile found file =>
      rw [Verb.run, Command.touch_eq_ok_iff.mpr (.stampFile found file), Command.commit]
  | removeFile found file =>
      rw [Verb.run, Command.removeFile_eq_ok_iff.mpr (.removeFile found file), Command.commit]
  | removeDirectory found empty =>
      rw [Verb.run, Command.removeDirectory_eq_ok_iff.mpr (.removeDirectory found empty),
        Command.commit]
  | rename found vacant =>
      rw [Verb.run, Command.move_eq_ok_iff.mpr (.rename found vacant), Command.keep]
  | copyFile found file vacant =>
      rw [Verb.run, Command.copy_eq_ok_iff.mpr (.copyFile found file vacant), Command.commit]

theorem Shell.dispatch_cases (shell : Shell) (word : String) (arguments : Arguments) :
    (∃ text, shell.dispatch word arguments = (.unknown text, shell)) ∨
      ∃ verb outcome context, verb.name = word ∧
        shell.dispatch word arguments = (outcome, { shell with context := context }) ∧
        Effect shell.context verb arguments outcome context := by
  cases found : Registry.builtins.get? word with
  | none =>
      left
      exact ⟨_, by simp only [dispatch, found]; rfl⟩
  | some tool =>
      right
      obtain ⟨verb, named, rfl⟩ := Registry.verb_of_get?_builtins found
      refine ⟨verb, (verb.run arguments shell.context).1, (verb.run arguments shell.context).2,
        named, ?_, verb.run_effect arguments shell.context⟩
      simp only [dispatch, found]
      rfl

theorem Shell.dispatch_verb (shell : Shell) (verb : Verb) (arguments : Arguments) :
    shell.dispatch verb.name arguments =
      ((verb.run arguments shell.context).1,
        { shell with context := (verb.run arguments shell.context).2 }) := by
  simp only [dispatch, Registry.get?_builtins]
  rfl

theorem Shell.dispatch_of_run {shell : Shell} {arguments : Arguments} {outcome : Outcome}
    {context : Context} (verb : Verb)
    (ran : verb.run arguments shell.context = (outcome, context)) :
    shell.dispatch verb.name arguments = (outcome, { shell with context := context }) := by
  rw [dispatch_verb, ran]

theorem Shell.dispatch_word (shell : Shell) (word : String) (arguments : Arguments) :
    (word ∉ Registry.builtins.names ∧ shell.dispatch word arguments =
      (.unknown ("bash: " ++ word ++ ": " ++ Fault.unknownCommand.phrase), shell)) ∨
    ∃ verb : Verb, verb.name = word ∧ shell.dispatch word arguments =
      ((verb.run arguments shell.context).1,
        { shell with context := (verb.run arguments shell.context).2 }) := by
  by_cases known : word ∈ Registry.builtins.names
  · right
    obtain ⟨verb, rfl⟩ := Registry.mem_names_builtins.mp known
    exact ⟨verb, rfl, shell.dispatch_verb verb arguments⟩
  · left
    refine ⟨known, ?_⟩
    cases found : Registry.builtins.get? word with
    | none => simp only [dispatch, found]
    | some tool =>
        obtain ⟨verb, named, _⟩ := Registry.verb_of_get?_builtins found
        exact absurd (Registry.mem_names_builtins.mpr ⟨verb, named⟩) known

end TeachingShell
