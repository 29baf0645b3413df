import TeachingShell.Proofs.ReadBack
import TeachingShell.Proofs.Transfer

/-!
Commands that undo each other. What one command makes under a free name the other one takes away
again, and the tree is then the one from before: no stamp and no order of names tells the two apart.
-/

namespace TeachingShell

theorem Path.resolve_up (location home : Path) : resolve ".." location home = location.pop := rfl

theorem Command.destination?_word {word : String} (notBack : word ≠ "-") (session : Session) :
    destination? (some word) session = some ⟨session.resolve word, word, false⟩ := by
  unfold destination?
  split
  next absent => cases absent
  next back =>
    cases back
    exact absurd rfl notBack
  next other _ same =>
    cases same
    rfl

theorem Command.changeDirectory_word {context : Context} {word : String} (notBack : word ≠ "-")
    (directory : context.tree.IsDirectory (context.resolve word)) :
    changeDirectory [word] context =
      (.silent, { context with session := context.session.enter (context.resolve word) }) := by
  have known : destination? [word].head? context.session =
      some ⟨context.session.resolve word, word, false⟩ := destination?_word notBack context.session
  exact changeDirectory_of_directory known directory

structure Call where
  now : Instant
  verb : Verb
  arguments : Arguments

namespace Shell

/-- The shell after a call. A call that fails leaves none. -/
def call? (shell : Shell) (call : Call) : Option Shell :=
  let (outcome, next) := (shell.setClock call.now).dispatch call.verb.name call.arguments
  if outcome.ok then some next else none

def callAll? (shell : Shell) (calls : List Call) : Option Shell := calls.foldlM call? shell

def enter (shell : Shell) (path : Path) : Shell :=
  { shell with context := { shell.context with session := shell.session.enter path } }

theorem callAll?_cons (shell : Shell) (call : Call) (rest : List Call) :
    shell.callAll? (call :: rest) = (shell.call? call).bind (·.callAll? rest) := rfl

theorem callAll?_append (shell : Shell) (calls rest : List Call) :
    shell.callAll? (calls ++ rest) = (shell.callAll? calls).bind (·.callAll? rest) :=
  List.foldlM_append

theorem call?_of_alters {shell : Shell} {call : Call} {tree : Tree}
    (alters : Alters (shell.setClock call.now).context call.verb call.arguments tree) :
    shell.call? call = some ((shell.setClock call.now).withTree tree) := by
  rw [call?, dispatch_verb, alters.run]
  rfl

theorem call?_cd {shell : Shell} {word : String} (now : Instant) (notBack : word ≠ "-")
    (directory : shell.tree.IsDirectory (shell.context.resolve word)) :
    shell.call? ⟨now, .cd, [word]⟩ =
      some ((shell.setClock now).enter (shell.context.resolve word)) := by
  have there : (shell.setClock now).tree.IsDirectory ((shell.setClock now).context.resolve word) :=
    directory
  rw [call?, dispatch_verb, Verb.run, Command.changeDirectory_word notBack there]
  rfl

theorem callAll?_visit {shell : Shell} {name : String} (valid : Tree.isName name)
    (notHome : name ≠ "~") (notBack : name ≠ "-")
    (child : shell.tree.IsDirectory (shell.cwd.join name)) (first second : Instant) :
    shell.callAll? [⟨first, .cd, [name]⟩, ⟨second, .cd, [".."]⟩] =
      some ((((shell.setClock first).enter (shell.cwd.join name)).setClock second).enter
        shell.cwd) := by
  have down : shell.context.resolve name = shell.cwd.join name := by
    refine (Path.resolve_of_isName valid _ _).trans ?_
    exact if_neg notHome
  have entered : shell.call? ⟨first, .cd, [name]⟩ =
      some ((shell.setClock first).enter (shell.cwd.join name)) := by
    rw [call?_cd first notBack (down ▸ child), down]
  have up : ((shell.setClock first).enter (shell.cwd.join name)).context.resolve ".." =
      shell.cwd := by
    refine (Path.resolve_up _ _).trans ?_
    exact Path.pop_join shell.cwd name
  have here : ((shell.setClock first).enter (shell.cwd.join name)).tree.IsDirectory
      (((shell.setClock first).enter (shell.cwd.join name)).context.resolve "..") := by
    rw [up]
    exact child.above (Path.startsWith_join _ _)
  have left : ((shell.setClock first).enter (shell.cwd.join name)).call? ⟨second, .cd, [".."]⟩ =
      some ((((shell.setClock first).enter (shell.cwd.join name)).setClock second).enter
        shell.cwd) := by
    rw [call?_cd second (by decide) here, up]
  rw [callAll?_cons, entered, Option.bind_some, callAll?_cons, left]
  rfl

section

variable {shell : Shell} {call undo : Call}

theorem callAll?_undone {made left : Tree}
    (done : Alters (shell.setClock call.now).context call.verb call.arguments made)
    (undone : Alters (((shell.setClock call.now).withTree made).setClock undo.now).context
      undo.verb undo.arguments left) (restored : left = shell.tree) :
    shell.callAll? [call, undo] = some (shell.setClock undo.now) := by
  subst restored
  rw [callAll?_cons, call?_of_alters done, Option.bind_some, callAll?_cons, call?_of_alters undone]
  rfl

variable {name : String} (vacant : Vacant shell.context name)

include vacant

theorem vacant_setClock (now : Instant) : Vacant (shell.setClock now).context name :=
  ⟨vacant.directory, vacant.valid, vacant.free⟩

theorem creation_undone {node : Node}
    (created : Alters (shell.setClock call.now).context call.verb call.arguments
      (shell.tree.bind shell.cwd name node))
    (removed : ∀ context : Context, context.tree.lookup? (context.cwd.join name) = some node →
      Alters context undo.verb undo.arguments (context.tree.unbind context.cwd name)) :
    shell.callAll? [call, undo] = some (shell.setClock undo.now) := by
  have here : shell.tree.IsDirectory shell.cwd := vacant.directory
  have found : (shell.tree.bind shell.cwd name node).lookup? (shell.cwd.join name) = some node := by
    rw [Tree.lookup?_bind_join here, if_pos rfl]
  exact callAll?_undone created (removed _ found) (Tree.unbind_bind here vacant.free node)

theorem renaming_undone {source : String} {node : Node} (valid : Tree.isName source)
    (found : shell.tree.lookup? (shell.cwd.join source) = some node) (first second : Instant) :
    shell.callAll? [⟨first, .mv, [source, name]⟩, ⟨second, .mv, [name, source]⟩] =
      some (shell.setClock second) := by
  have done : Alters (shell.setClock first).context .mv [source, name]
      ((shell.tree.unbind shell.cwd source).bind shell.cwd name node) :=
    .rename found (vacant_setClock vacant first)
  obtain ⟨-, gone, there⟩ := done.of_move
  have here := done.confined.isDirectory (Path.startsWith_self _) vacant.directory
  have restored := (Command.movable_siblings found vacant).undone
  exact callAll?_undone done (.rename (there.trans found) ⟨here, valid, gone⟩) restored

theorem visit_undone (notHome : name ≠ "~") (notBack : name ≠ "-")
    (first second third fourth : Instant) :
    ∃ after, shell.callAll? [⟨first, .mkdir, [name]⟩, ⟨second, .cd, [name]⟩,
        ⟨third, .cd, [".."]⟩, ⟨fourth, .rmdir, [name]⟩] = some after ∧
      after.tree = shell.tree ∧ after.cwd = shell.cwd := by
  have here : shell.tree.IsDirectory shell.cwd := vacant.directory
  let directory : Node := .newDirectory first.stamp
  let made : Shell := (shell.setClock first).withTree (shell.tree.bind shell.cwd name directory)
  have making : shell.call? ⟨first, .mkdir, [name]⟩ = some made :=
    call?_of_alters (.makeDirectory (vacant_setClock vacant first))
  have found : made.tree.lookup? (shell.cwd.join name) = some directory := by
    have bound := Tree.lookup?_bind_join here name name directory
    rwa [if_pos rfl] at bound
  let back : Shell :=
    (((made.setClock second).enter (made.cwd.join name)).setClock third).enter made.cwd
  have visiting : made.callAll? [⟨second, .cd, [name]⟩, ⟨third, .cd, [".."]⟩] = some back :=
    callAll?_visit vacant.valid notHome notBack ⟨directory, found, rfl⟩ second third
  have removing : back.call? ⟨fourth, .rmdir, [name]⟩ =
      some ((back.setClock fourth).withTree (back.tree.unbind back.cwd name)) :=
    call?_of_alters (.removeDirectory found rfl)
  refine ⟨(back.setClock fourth).withTree (back.tree.unbind back.cwd name), ?_, ?_, rfl⟩
  · have onward : made.callAll? ([⟨second, .cd, [name]⟩, ⟨third, .cd, [".."]⟩] ++
        [⟨fourth, .rmdir, [name]⟩]) =
        some ((back.setClock fourth).withTree (back.tree.unbind back.cwd name)) := by
      rw [callAll?_append, visiting, Option.bind_some, callAll?_cons, removing]
      rfl
    rw [callAll?_cons, making, Option.bind_some]
    exact onward
  · exact Tree.unbind_bind here vacant.free directory

end

/-- What is made under a vacant name can be removed and what is given that name can be renamed back,
at whatever times. Each pair leaves the shell as it was, and only its clock has moved on; a visit to
a new directory ends where it began, in the same tree. -/
theorem inverse_calls_restore {shell : Shell} {name : String} (vacant : Vacant shell.context name)
    (first second third fourth : Instant) :
    shell.callAll? [⟨first, .mkdir, [name]⟩, ⟨second, .rmdir, [name]⟩] =
        some (shell.setClock second) ∧
      shell.callAll? [⟨first, .touch, [name]⟩, ⟨second, .rm, [name]⟩] =
        some (shell.setClock second) ∧
      (∀ source node, Tree.isName source →
        shell.tree.lookup? (shell.cwd.join source) = some node →
          (node.isFile → shell.callAll? [⟨first, .cp, [source, name]⟩, ⟨second, .rm, [name]⟩] =
            some (shell.setClock second)) ∧
          shell.callAll? [⟨first, .mv, [source, name]⟩, ⟨second, .mv, [name, source]⟩] =
            some (shell.setClock second)) ∧
      (name ≠ "~" → name ≠ "-" →
        ∃ after, shell.callAll? [⟨first, .mkdir, [name]⟩, ⟨second, .cd, [name]⟩,
            ⟨third, .cd, [".."]⟩, ⟨fourth, .rmdir, [name]⟩] = some after ∧
          after.tree = shell.tree ∧ after.cwd = shell.cwd) := by
  have still := vacant_setClock vacant first
  refine ⟨?_, ?_, ?_, ?_⟩
  · exact creation_undone vacant (.makeDirectory still) fun _ found => .removeDirectory found rfl
  · exact creation_undone vacant (.makeFile still) fun _ found => .removeFile found rfl
  · intro source node valid found
    refine ⟨fun file => ?_, renaming_undone vacant valid found first second⟩
    have copied : (node.restamp first.stamp).isFile := by
      rwa [Node.isFile, Node.restamp, Node.kind_edit]
    exact creation_undone vacant (.copyFile found file still) fun _ there => .removeFile there copied
  · intro notHome notBack
    exact visit_undone vacant notHome notBack first second third fourth

def leapDay : Instant := ⟨2000, 2, 29, 23, 59, 59, by decide, by decide, by decide⟩

theorem inverse_calls_restore_terminal :
    Vacant (boot .terminal .epoch).context "-" ∧
      (∃ node, (boot .terminal .epoch).tree.lookup?
        ((boot .terminal .epoch).cwd.join "README.txt") = some node ∧ node.isFile) ∧
      (boot .terminal .epoch).callAll? [⟨.epoch, .cp, ["README.txt", "-"]⟩,
        ⟨leapDay, .rm, ["-"]⟩] = some ((boot .terminal .epoch).setClock leapDay) ∧
      (boot .terminal .epoch).callAll? [⟨leapDay, .mv, ["documents", "-"]⟩,
        ⟨.epoch, .mv, ["-", "documents"]⟩] = some ((boot .terminal .epoch).setClock .epoch) ∧
      ∃ after, (boot .terminal .epoch).callAll? [⟨.epoch, .mkdir, ["new"]⟩,
          ⟨leapDay, .cd, ["new"]⟩, ⟨.epoch, .cd, [".."]⟩, ⟨leapDay, .rmdir, ["new"]⟩] =
          some after ∧
        after.tree = (boot .terminal .epoch).tree ∧ after.cwd = (boot .terminal .epoch).cwd := by
  have here : (boot .terminal .epoch).Located := located_of_start (start_terminal .epoch)
  have dash : Vacant (boot .terminal .epoch).context "-" := ⟨here, by decide, rfl⟩
  have new : Vacant (boot .terminal .epoch).context "new" := ⟨here, by decide, rfl⟩
  obtain ⟨-, -, copying, -⟩ := inverse_calls_restore dash .epoch leapDay .epoch leapDay
  obtain ⟨-, -, moving, -⟩ := inverse_calls_restore dash leapDay .epoch .epoch leapDay
  obtain ⟨-, -, -, visiting⟩ := inverse_calls_restore new .epoch leapDay .epoch leapDay
  refine ⟨dash, ⟨_, rfl, rfl⟩, ?_, ?_, visiting (by decide) (by decide)⟩
  · exact (copying "README.txt" _ (by decide) rfl).1 rfl
  · exact (moving "documents" _ (by decide) rfl).2

end Shell

end TeachingShell
