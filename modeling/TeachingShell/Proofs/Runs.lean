import TeachingShell.Proofs.Effects
import TeachingShell.Proofs.Settling

/-!
What can happen to a shell, in any order and for as long as it runs: lines and commands, time, and
changes that its host makes to the tree past the commands.
-/

namespace TeachingShell

inductive Change where
  | insert (parent : Path) (name : String) (node : Node)
  | remove (parent : Path) (name : String)
  | replace (parent : Path) (name : String) (node : Node)
  | move (source destination : Path)
  | edit (path : Path) (change : Attributes → Attributes)

def Change.apply (tree : Tree) : Change → Tree
  | insert parent name node =>
      match tree.insert parent name node with
      | .ok after => after
      | .error _ => tree
  | remove parent name =>
      match tree.remove parent name with
      | .ok (_, after) => after
      | .error _ => tree
  | replace parent name node =>
      match tree.replace parent name node with
      | .ok (_, after) => after
      | .error _ => tree
  | move source destination => (tree.relocate source destination).2
  | edit path change => (tree.edit? path change).getD tree

inductive Step where
  | execute (line : String)
  | dispatch (word : String) (arguments : Arguments)
  | change (change : Change)
  | wait (now : Instant)

def Step.isDirect : Step → Bool
  | change _ => true
  | _ => false

structure Typed where
  now : Instant
  line : String

def Typed.spoken (now : Instant) (words : List String) : Typed := ⟨now, " ".intercalate words⟩

theorem Typed.words_spoken {words : List String} (isWord : ∀ word ∈ words, Text.IsWord word)
    (now : Instant) : Text.words (spoken now words).line = words := Text.words_intercalate isWord

def Typed.steps (typed : Typed) : List Step := [.wait typed.now, .execute typed.line]

namespace Shell

def after (shell : Shell) : Step → Shell
  | .execute line => (shell.execute line).2
  | .dispatch word arguments => (shell.dispatch word arguments).2
  | .change change => shell.withTree (change.apply shell.tree)
  | .wait now => shell.setClock now

def run (shell : Shell) (steps : List Step) : Shell := steps.foldl after shell

theorem run_preserves {Holds : Shell → Prop} {Allowed : Step → Prop}
    (preserved : ∀ shell step, Allowed step → Holds shell → Holds (shell.after step))
    {shell : Shell} (holds : Holds shell) {steps : List Step}
    (allowed : ∀ step ∈ steps, Allowed step) : Holds (shell.run steps) := by
  induction steps generalizing shell with
  | nil => exact holds
  | cons step rest ih =>
      have first := preserved shell step (allowed step List.mem_cons_self) holds
      exact ih first fun other member => allowed other (List.mem_cons_of_mem _ member)

def accept (shell : Shell) (typed : Typed) : Outcome × Shell :=
  (shell.setClock typed.now).execute typed.line

def acceptAll (shell : Shell) (lines : List Typed) : Shell :=
  lines.foldl (fun shell typed => (shell.accept typed).2) shell

def Reached (shell : Shell) : Prop :=
  ∃ config now first lines, start config now = .ok first ∧ shell = first.acceptAll lines

def tell (shell : Shell) (now : Instant) (words : List String) : Outcome × Shell :=
  shell.accept (.spoken now words)

def hear (shell : Shell) (typed : Typed) : Shell :=
  (shell.setClock typed.now).record (Text.trim typed.line)

@[simp] theorem context_cwd_hear (shell : Shell) (typed : Typed) :
    (shell.hear typed).context.cwd = shell.cwd := shell.session.cwd_record _

@[simp] theorem resolve_hear (shell : Shell) (typed : Typed) (word : String) :
    (shell.hear typed).context.resolve word = shell.context.resolve word := by
  have same : (shell.session.record (Text.trim typed.line)).resolve word =
      shell.session.resolve word := by
    rw [Session.resolve, Session.resolve, Session.cwd_record, Session.home_record]
  exact same

theorem accept_of_words (shell : Shell) {typed : Typed} {word : String} {arguments : Arguments}
    (spoken : Text.words typed.line = word :: arguments) :
    shell.accept typed = ((shell.hear typed).settle).dispatch word arguments := by
  rw [accept, execute, spoken]
  rfl

theorem acceptAll_concat (shell : Shell) (lines : List Typed) (last : Typed) :
    shell.acceptAll (lines ++ [last]) = ((shell.acceptAll lines).accept last).2 := by
  rw [acceptAll, acceptAll, List.foldl_append, List.foldl_cons, List.foldl_nil]

theorem acceptAll_eq_run (shell : Shell) (lines : List Typed) :
    shell.acceptAll lines = shell.run (lines.flatMap Typed.steps) := by
  induction lines generalizing shell with
  | nil => rfl
  | cons first rest ih => exact ih (shell.accept first).2

theorem start_eq_ok_iff {config : Config} {now : Instant} {shell : Shell} :
    start config now = .ok shell ↔
      Path.isAbsolute config.cwd ∧ Path.isAbsolute config.home ∧
        (boot config now).tree.IsDirectory (boot config now).cwd ∧ shell = boot config now := by
  have place : (boot config now).tree.directory (boot config now).cwd =
      (boot config now).context.directory := rfl
  rw [start, Tree.isDirectory_iff, place]
  cases Path.isAbsolute config.cwd with
  | false => simp
  | true =>
      cases Path.isAbsolute config.home with
      | false => simp
      | true =>
          cases answered : (boot config now).context.directory with
          | error failure => simp [answered]
          | ok node => simp [answered, eq_comm]

theorem tree_boot (config : Config) (now : Instant) :
    (boot config now).tree =
      if config.seed then Tutorial.tree now.stamp else Tree.new now.stamp := rfl

/-- A line is recorded and its location settled before its first word is dispatched. -/
theorem execute_cases (shell : Shell) (line : String) :
    (Text.words line = [] ∧ shell.execute line = (.silent, shell)) ∨
      ∃ verb arguments, Text.words line = verb :: arguments ∧
        shell.execute line = ((shell.record (Text.trim line)).settle).dispatch verb arguments := by
  unfold execute
  cases Text.words line with
  | nil => exact Or.inl ⟨rfl, rfl⟩
  | cons verb arguments => exact Or.inr ⟨verb, arguments, rfl, rfl⟩

end Shell

end TeachingShell
