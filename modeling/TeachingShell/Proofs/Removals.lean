import TeachingShell.Proofs.Location
import TeachingShell.Proofs.Rearranging

/-!
What `rm` and `rmdir` make of a name. Of the four things that a name can stand for, `rm` takes away
a file, `rmdir` an empty directory, and neither of them anything else; so whatever has children
outlasts any number of them.
-/

namespace TeachingShell

open Function (update)

inductive Standing where
  | absent
  | file
  | emptyDirectory
  | fullDirectory

def Standing.of : Option Node → Standing
  | none => absent
  | some (.file ..) => file
  | some (.directory _ names _) => if names.isEmpty then emptyDirectory else fullDirectory

def Verb.removers : List Verb := [.rm, .rmdir]

def Removed (context : Context) (directory : Node) (verb : Verb) (name : String)
    (rest : Arguments) : Prop :=
  ∃ tree, Left context verb (name :: rest) tree ∧
    Rearranged context.cwd (update directory.child? name none) context.tree tree

/-- What `rm` and `rmdir` do with a name, and what it stands for when they do. -/
inductive Fate (context : Context) (directory : Node) (name : String) (rest : Arguments) :
    Standing → Prop
  | absent : directory.child? name = none →
      Refused context .rm (name :: rest) (.on .notFound name) →
      Refused context .rmdir (name :: rest) (.on .notFound name) →
      Fate context directory name rest .absent
  | file {node : Node} : directory.child? name = some node → node.isFile →
      Removed context directory .rm name rest →
      Refused context .rmdir (name :: rest) (.on .notDirectory name) →
      Fate context directory name rest .file
  | emptyDirectory {node : Node} : directory.child? name = some node → node.isDirectory →
      (∀ inner, node.child? inner = none) →
      Refused context .rm (name :: rest) (.on .isDirectory name) →
      Removed context directory .rmdir name rest →
      Fate context directory name rest .emptyDirectory
  | fullDirectory {node child : Node} {inner : String} : directory.child? name = some node →
      node.isDirectory → node.child? inner = some child →
      Refused context .rm (name :: rest) (.on .isDirectory name) →
      Refused context .rmdir (name :: rest) (.on .notEmpty name) →
      Fate context directory name rest .fullDirectory

section

variable {context : Context} {directory : Node} {name : String} {rest : Arguments}

theorem Fate.eq_of {standing : Standing} (fate : Fate context directory name rest standing) :
    standing = Standing.of (directory.child? name) := by
  cases fate with
  | absent missing =>
      rw [missing]
      rfl
  | @file node found file =>
      rw [found]
      cases node with
      | file => rfl
      | directory => cases file
  | @emptyDirectory node found kind childless =>
      rw [found]
      cases node with
      | file => cases kind
      | directory attributes names child =>
          have empty : names.isEmpty = true := Names.isEmpty_iff.mpr fun inner member =>
            Option.some_ne_none _ ((dif_pos member).symm.trans (childless inner))
          exact (if_pos empty).symm
  | @fullDirectory node child inner found kind present =>
      rw [found]
      cases node with
      | file => cases kind
      | directory attributes names childOf =>
          obtain ⟨member, -⟩ := Node.child?_eq_some_iff.mp present
          exact (if_neg fun empty => Names.isEmpty_iff.mp empty inner member).symm

theorem exists_fate (here : context.directory = .ok directory) (name : String) (rest : Arguments) :
    ∃ standing, Fate context directory name rest standing := by
  have byFile : Verb.rm ∈ Verb.writers := by decide
  have byDirectory : Verb.rmdir ∈ Verb.writers := by decide
  have ofFile := decided byFile here (name :: rest) fun _ alters => alters.rearranged here
  have ofDirectory := decided byDirectory here (name :: rest) fun _ alters => alters.rearranged here
  cases found : directory.child? name with
  | none =>
      refine ⟨.absent, .absent found ((ofFile.refused _).mpr ?_) ((ofDirectory.refused _).mpr ?_)⟩
      · rw [Verb.objections, found]
        rfl
      · rw [Verb.objections, found]
        rfl
  | some node =>
      cases node with
      | file attributes content =>
          refine ⟨.file, .file found rfl (ofFile.done ?_) ((ofDirectory.refused _).mpr ?_)⟩
          · rw [Verb.objections, found]
            rfl
          · rw [Verb.objections, found]
            rfl
      | directory attributes names child =>
          have refused : Refused context .rm (name :: rest) (.on .isDirectory name) := by
            rw [ofFile.refused, Verb.objections, found]
            rfl
          cases empty : names.isEmpty with
          | true =>
              refine ⟨.emptyDirectory, .emptyDirectory found rfl ?_ refused (ofDirectory.done ?_)⟩
              · exact fun inner => dif_neg (Names.isEmpty_iff.mp empty inner)
              · rw [Verb.objections, found]
                simp only [Option.any_some, Node.isEmptyDirectory, Node.names, empty]
                rfl
          | false =>
              have full : ¬ ∀ inner, inner ∉ names := fun none =>
                Bool.eq_false_iff.mp empty (Names.isEmpty_iff.mpr none)
              obtain ⟨inner, member⟩ := not_forall_not.mp full
              have present : (Node.directory attributes names child).child? inner =
                  some (child inner member) := Node.child?_eq_some_iff.mpr ⟨member, rfl⟩
              refine ⟨.fullDirectory, .fullDirectory found rfl present refused ?_⟩
              rw [ofDirectory.refused, Verb.objections, found]
              simp only [Option.any_some, Node.isEmptyDirectory, Node.names, empty]
              rfl

end

def Pruned (location : Path) (before after : Tree) : Prop :=
  ∃ name node, before.lookup? (location.join name) = some node ∧
    (∀ inner, node.child? inner = none) ∧ Rebound location name none before after

theorem Alters.pruned {context : Context} {verb : Verb} {arguments : Arguments} {tree : Tree}
    (removes : verb ∈ Verb.removers) (alters : Alters context verb arguments tree) :
    Pruned context.cwd context.tree tree := by
  cases alters with
  | removeFile found file =>
      refine ⟨_, _, found, Node.child?_eq_none_of_file file, ?_⟩
      exact Tree.rebound_unbind (Tree.isDirectory_of_lookup?_join found) _
  | removeDirectory found empty =>
      refine ⟨_, _, found, Node.child?_eq_none_of_isEmptyDirectory empty, ?_⟩
      exact Tree.rebound_unbind (Tree.isDirectory_of_lookup?_join found) _
  | makeDirectory | makeFile | stampFile | rename | copyFile => simp [Verb.removers] at removes

theorem Pruned.keeps {location path : Path} {before after : Tree} {child : Node} {inner : String}
    (pruned : Pruned location before after)
    (present : before.lookup? (path.join inner) = some child) :
    after.lookup? path = before.lookup? path ∨
      (location.startsWith path ∧ StaysDirectory before after path) := by
  obtain ⟨name, leaf, found, childless, rebound⟩ := pruned
  by_cases onTheWay : location.startsWith path = true
  · exact Or.inr ⟨onTheWay, rebound.above path onTheWay⟩
  · refine Or.inl (rebound.beside path ?_ onTheWay)
    intro below
    obtain ⟨way, rfl⟩ := Path.startsWith_iff_extend.mp below
    rw [Tree.lookup?_join, Tree.lookup?_extend, found, Option.bind_some] at present
    cases way with
    | nil =>
        rw [Node.descend?_nil, Option.bind_some, childless] at present
        cases present
    | cons first way =>
        rw [Node.descend?_cons, childless] at present
        cases present

def Step.Removes : Step → Prop
  | execute line => ∀ word arguments, Text.words line = word :: arguments →
      ∃ verb ∈ Verb.removers, word = verb.name
  | dispatch word _ => ∃ verb ∈ Verb.removers, word = verb.name
  | change _ => False
  | wait _ => True

theorem Step.removes_execute {verb : Verb} (remover : verb ∈ Verb.removers) {line : String}
    {arguments : Arguments} (spoken : Text.words line = verb.name :: arguments) :
    (execute line).Removes := by
  intro word others same
  rw [spoken] at same
  cases same
  exact ⟨verb, remover, rfl⟩

namespace Shell

/-- What a path leads to is what it was, or a directory that the shell is in. -/
def Spares (before : Tree) (path : Path) (shell : Shell) : Prop :=
  shell.tree.lookup? path = before.lookup? path ∨
    (shell.Located ∧ shell.cwd.startsWith path ∧ StaysDirectory before shell.tree path)

section

variable {before : Tree} {path : Path} {child : Node} {inner : String} {shell : Shell}

theorem Spares.settle_record (spares : Spares before path shell) (line : String) :
    Spares before path (shell.record line).settle := by
  rcases spares with same | ⟨located, inside, stays⟩
  · exact Or.inl same
  · rw [(located.record line).settle]
    refine Or.inr ⟨located.record line, ?_, stays⟩
    have sameCwd : (shell.record line).cwd = shell.cwd := shell.context.session.cwd_record line
    rwa [sameCwd]

variable (present : before.lookup? (path.join inner) = some child)

include present

theorem Spares.staysDirectory (spares : Spares before path shell) :
    StaysDirectory before shell.tree path := by
  rcases spares with same | ⟨-, -, stays⟩
  · exact .of_same (Tree.isDirectory_of_lookup?_join present) same
  · exact stays

theorem Spares.prune (spares : Spares before path shell) {tree : Tree}
    (pruned : Pruned shell.cwd shell.tree tree) : Spares before path (shell.withTree tree) := by
  have stays := spares.staysDirectory present
  have ⟨_, _, _, _, rebound⟩ := pruned
  have located : (shell.withTree tree).Located :=
    (rebound.above shell.cwd (Path.startsWith_self _)).still
  rcases spares with same | ⟨-, inside, -⟩
  · have still : shell.tree.lookup? (path.join inner) = some child := by
      rw [Tree.lookup?_join, same, ← Tree.lookup?_join, present]
    rcases pruned.keeps still with kept | ⟨inside, further⟩
    · exact Or.inl (kept.trans same)
    · exact Or.inr ⟨located, inside, stays.trans further⟩
  · exact Or.inr ⟨located, inside, stays.trans (rebound.above path inside)⟩

theorem Spares.dispatch (spares : Spares before path shell) {verb : Verb}
    (removes : verb ∈ Verb.removers) (arguments : Arguments) :
    Spares before path (shell.dispatch verb.name arguments).2 := by
  have writes : verb ∈ Verb.writers := by
    revert verb
    decide
  rw [dispatch_verb]
  rcases Verb.run_cases writes arguments shell.context with ⟨text, refused⟩ | ⟨tree, alters, ran⟩
  · rw [refused]
    exact spares
  · rw [ran]
    exact spares.prune present (alters.pruned removes)

theorem Spares.after (spares : Spares before path shell) {step : Step} (removes : step.Removes) :
    Spares before path (shell.after step) := by
  cases step with
  | execute line =>
      rw [Shell.after]
      rcases shell.execute_cases line with ⟨-, blank⟩ | ⟨word, arguments, spoken, dispatched⟩
      · rw [blank]
        exact spares
      · obtain ⟨verb, remover, rfl⟩ := removes word arguments spoken
        rw [dispatched]
        exact (spares.settle_record _).dispatch present remover arguments
  | dispatch word arguments =>
      obtain ⟨verb, remover, rfl⟩ := removes
      exact spares.dispatch present remover arguments
  | change change => exact removes.elim
  | wait now => exact spares

end

/-- Each name in the current directory meets one of four fates, and however many names are removed
in a row, nothing is lost with them: what had children at the start is where it was. -/
theorem removing_decided :
    (∀ {context : Context} {directory : Node}, context.directory = .ok directory →
      ∀ name rest, ∃! standing, Fate context directory name rest standing) ∧
      ∀ (shell : Shell) (steps : List Step), (∀ step ∈ steps, step.Removes) →
        ∀ (path : Path) (inner : String) (child : Node),
          shell.tree.lookup? (path.join inner) = some child →
          StaysDirectory shell.tree (shell.run steps).tree path := by
  refine ⟨fun here name rest => ?_, fun shell steps removes path inner child present => ?_⟩
  · obtain ⟨standing, fate⟩ := exists_fate here name rest
    refine ⟨standing, fate, fun other otherFate => ?_⟩
    rw [otherFate.eq_of, fate.eq_of]
  · have spares : Spares shell.tree path (shell.run steps) := by
      refine run_preserves (fun _ step (allowed : step.Removes) spares => ?_) (Or.inl rfl) removes
      exact spares.after present allowed
    exact spares.staysDirectory present

theorem removing_decided_terminal :
    let shell := boot .terminal .epoch
    let steps : List Step :=
      [.execute "rmdir projects", .dispatch "rm" ["README.txt"], .execute "rmdir downloads"]
    shell.context.directory = .ok (Tutorial.home Instant.epoch.stamp) ∧
      (∃! standing,
        Fate shell.context (Tutorial.home Instant.epoch.stamp) "downloads" [] standing) ∧
      (∀ step ∈ steps, step.Removes) ∧
      StaysDirectory shell.tree (shell.run steps).tree ⟨["home", "user", "projects"]⟩ := by
  intro shell steps
  have removes : ∀ step ∈ steps, step.Removes := by
    simp only [steps, List.forall_mem_cons, List.not_mem_nil, false_implies, implies_true, and_true]
    refine ⟨?_, ⟨.rm, by decide, rfl⟩, ?_⟩
    · have spoken : Text.words "rmdir projects" = Verb.rmdir.name :: ["projects"] := rfl
      exact Step.removes_execute (by decide) spoken
    · have spoken : Text.words "rmdir downloads" = Verb.rmdir.name :: ["downloads"] := rfl
      exact Step.removes_execute (by decide) spoken
  have here := directory_terminal .epoch
  refine ⟨here, removing_decided.1 here _ _, removes, ?_⟩
  exact removing_decided.2 shell _ removes _ "my_blog" _ rfl

end Shell

end TeachingShell
