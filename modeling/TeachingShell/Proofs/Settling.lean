import TeachingShell.Context
import TeachingShell.Proofs.Mutators
import TeachingShell.Tutorial

/-!
Settling leads to the last directory on the way to a location. A location that is a directory stays,
and so does all that is not the location.
-/

namespace TeachingShell

namespace Tree

structure Nearest (tree : Tree) (path above : Path) : Prop where
  onTheWay : path.startsWith above
  directory : tree.IsDirectory above
  last : ∀ other : Path, path.startsWith other → tree.IsDirectory other → above.startsWith other

variable {tree : Tree} {path above : Path}

theorem nearest_self (directory : tree.IsDirectory path) : tree.Nearest path path :=
  ⟨Path.startsWith_self path, directory, fun _ onTheWay _ => onTheWay⟩

theorem Nearest.join {name : String} (nearest : tree.Nearest path above)
    (lost : ¬ tree.IsDirectory (path.join name)) : tree.Nearest (path.join name) above := by
  refine ⟨Path.startsWith_trans (Path.startsWith_join path name) nearest.onTheWay,
    nearest.directory, fun other onTheWay directory => ?_⟩
  rcases Path.startsWith_join_iff.mp onTheWay with rfl | higher
  · exact absurd directory lost
  · exact nearest.last other higher directory

theorem not_isDirectory_of_error {failure : Failure} (refused : tree.directory path = .error failure) :
    ¬ tree.IsDirectory path := by
  rw [isDirectory_iff, refused]
  rintro ⟨node, answered⟩
  cases answered

theorem nearest_ascend (tree : Tree) (path : Path) : tree.Nearest path (tree.ascend path) := by
  fun_induction tree.ascend path with
  | case1 path node answered => exact nearest_self (isDirectory_iff.mpr ⟨node, answered⟩)
  | case2 path failure refused parent above ih =>
      obtain ⟨name, rfl⟩ := Path.parent?_eq_some_iff.mp above
      exact ih.join (not_isDirectory_of_error refused)
  | case3 path failure refused top =>
      obtain rfl := Path.parent?_eq_none_iff.mp top
      exact absurd tree.isDirectory_root (not_isDirectory_of_error refused)

theorem Nearest.eq {other : Path} (nearest : tree.Nearest path above)
    (alsoNearest : tree.Nearest path other) : above = other :=
  Path.startsWith_antisymm (nearest.last other alsoNearest.onTheWay alsoNearest.directory)
    (alsoNearest.last above nearest.onTheWay nearest.directory)

theorem Nearest.of_same {similar : Tree} (nearest : tree.Nearest path above)
    (same : ∀ path, tree.IsDirectory path ↔ similar.IsDirectory path) :
    similar.Nearest path above :=
  ⟨nearest.onTheWay, (same above).mp nearest.directory,
    fun other onTheWay directory => nearest.last other onTheWay ((same other).mpr directory)⟩

end Tree

namespace Context

theorem nearest_settled (context : Context) :
    context.tree.Nearest context.cwd context.settled :=
  context.tree.nearest_ascend context.cwd

theorem settled_of_isDirectory {context : Context}
    (directory : context.tree.IsDirectory context.cwd) : context.settled = context.cwd :=
  context.nearest_settled.eq (Tree.nearest_self directory)

theorem settle_of_isDirectory {context : Context}
    (directory : context.tree.IsDirectory context.cwd) : context.settle = context := by
  rw [settle, settled_of_isDirectory directory]
  rfl

theorem isDirectory_settle (context : Context) : context.settle.tree.IsDirectory context.settle.cwd :=
  context.nearest_settled.directory

theorem relocation?_of_isDirectory {context : Context}
    (directory : context.tree.IsDirectory context.cwd) : context.relocation? = none := by
  obtain ⟨node, answered⟩ := Tree.isDirectory_iff.mp directory
  rw [relocation?, Context.directory, answered]

theorem relocation?_of_not_isDirectory {context : Context}
    (lost : ¬ context.tree.IsDirectory context.cwd) :
    context.relocation? = some context.settled := by
  cases answered : context.tree.directory context.cwd with
  | ok node => exact absurd (Tree.isDirectory_iff.mpr ⟨node, answered⟩) lost
  | error failure => rw [relocation?, Context.directory, answered]

/-- A location that is a directory stays, and nothing is changed. One that is lost is left for the
last directory on the way to it, and nothing else is changed. Settling once is enough. -/
theorem settle_finds_nearest (context : Context) :
    (context.tree.IsDirectory context.cwd →
        context.relocation? = none ∧ context.settle = context) ∧
      (¬ context.tree.IsDirectory context.cwd → ∃ above,
        context.relocation? = some above ∧
          context.settle = { context with session := { context.session with cwd := above } } ∧
          above ≠ context.cwd ∧ context.tree.Nearest context.cwd above) ∧
      context.settle.relocation? = none := by
  refine ⟨?_, ?_, ?_⟩
  · intro directory
    exact ⟨relocation?_of_isDirectory directory, settle_of_isDirectory directory⟩
  · intro lost
    refine ⟨context.settled, relocation?_of_not_isDirectory lost, rfl, ?_, context.nearest_settled⟩
    intro stays
    have directory := context.nearest_settled.directory
    rw [stays] at directory
    exact lost directory
  · exact relocation?_of_isDirectory context.isDirectory_settle

theorem settle_finds_nearest_below_file :
    let context : Context := {
      tree := Tutorial.tree ""
      session := { cwd := ⟨["home", "user", "README.txt", "a", "b"]⟩ }
      clock := .epoch }
    ¬ context.tree.IsDirectory context.cwd ∧
      context.relocation? = some ⟨["home", "user"]⟩ ∧
      context.tree.Nearest context.cwd ⟨["home", "user"]⟩ ∧ context.settle.relocation? = none := by
  intro context
  have lost : ¬ context.tree.IsDirectory context.cwd := by
    rintro ⟨node, found, -⟩
    have absent : (context.tree.lookup? context.cwd).isNone := by decide
    rw [found] at absent
    cases absent
  have leads : context.relocation? = some ⟨["home", "user"]⟩ := by decide
  obtain ⟨-, leaves, once⟩ := settle_finds_nearest context
  obtain ⟨above, relocated, -, -, nearest⟩ := leaves lost
  rw [leads, Option.some.injEq] at relocated
  rw [← relocated] at nearest
  exact ⟨lost, leads, nearest, once⟩

end Context

@[simp] theorem Session.cwd_record (session : Session) (line : String) :
    (session.record line).cwd = session.cwd := by
  unfold record
  split
  · rfl
  · rfl

@[simp] theorem Session.home_record (session : Session) (line : String) :
    (session.record line).home = session.home := by
  unfold record
  split
  · rfl
  · rfl

end TeachingShell
