import TeachingShell.Tree.Basic

/-!
When an operation on a tree succeeds, and what it answers then.
-/

namespace TeachingShell

theorem bind_eq_ok_iff {α β : Type} {first : Except Failure α} {next : α → Except Failure β}
    {answer : β} :
    (first >>= next) = .ok answer ↔ ∃ value, first = .ok value ∧ next value = .ok answer := by
  cases first with
  | error failure =>
      constructor
      · intro impossible
        cases impossible
      · rintro ⟨value, impossible, _⟩
        cases impossible
  | ok value =>
      constructor
      · intro answered
        exact ⟨value, rfl, answered⟩
      · rintro ⟨other, same, answered⟩
        cases same
        exact answered

theorem Node.isDirectory_of_child? {node child : Node} {name : String}
    (found : node.child? name = some child) : node.isDirectory := by
  cases node with
  | file => simp [Node.child?] at found
  | directory => rfl

theorem Node.isDirectory_of_descend? {node found : Node} {way : List String}
    (reached : node.descend? way = some found) (directory : found.isDirectory) :
    node.isDirectory := by
  cases way with
  | nil =>
      rw [descend?_nil, Option.some.injEq] at reached
      rwa [reached]
  | cons name way =>
      rw [descend?_cons] at reached
      obtain ⟨child, present, _⟩ := Option.bind_eq_some_iff.mp reached
      exact isDirectory_of_child? present

namespace Tree

def IsDirectory (tree : Tree) (path : Path) : Prop :=
  ∃ node, tree.lookup? path = some node ∧ node.isDirectory

theorem isDirectory_root (tree : Tree) : tree.IsDirectory .root :=
  ⟨tree.root, lookup?_root tree, tree.rooted⟩

theorem isDirectory_iff {tree : Tree} {path : Path} :
    tree.IsDirectory path ↔ ∃ node, tree.directory path = .ok node := by
  constructor
  · rintro ⟨node, found, holds⟩
    exact ⟨node, directory_eq_ok_iff.mpr ⟨found, holds⟩⟩
  · rintro ⟨node, answered⟩
    exact ⟨node, directory_eq_ok_iff.mp answered⟩

theorem stat_eq_ok_iff {tree : Tree} {path : Path} {node : Node} :
    tree.stat path = .ok node ↔ tree.lookup? path = some node := by
  unfold stat
  cases tree.lookup? path with
  | none => simp
  | some other => simp

theorem checkName_eq_ok_iff {name : String} {answer : Unit} :
    checkName name = .ok answer ↔ isName name := by
  unfold checkName
  by_cases valid : isName name = true
  · simp [valid]
  · simp [valid]

theorem stat_bind {α : Type} (tree : Tree) (path : Path) (next : Node → Except Failure α) :
    (tree.stat path >>= next) =
      match tree.lookup? path with
      | none => .error (.on .notFound path.display)
      | some node => next node := by
  unfold stat
  cases tree.lookup? path with
  | none => rfl
  | some node => rfl

theorem checkName_bind {α : Type} (name : String) (next : Unit → Except Failure α) :
    (checkName name >>= next) = if isName name then next () else .error (.on .badName name) := by
  unfold checkName
  cases isName name with
  | false => rfl
  | true => rfl

theorem directory_bind {α : Type} (tree : Tree) (path : Path) (next : Node → Except Failure α) :
    (tree.directory path >>= next) =
      match tree.lookup? path with
      | none => .error (.on .notFound path.display)
      | some node =>
          if node.isDirectory then next node else .error (.on .notDirectory path.display) := by
  unfold directory
  rw [stat_bind]
  cases tree.lookup? path with
  | none => rfl
  | some node =>
      cases node with
      | file attributes content => rfl
      | directory attributes names child => rfl

theorem lookup?_join_of_directory {tree : Tree} {path : Path} {directory : Node}
    (found : tree.lookup? path = some directory) (name : String) :
    tree.lookup? (path.join name) = directory.child? name := by
  rw [lookup?_join, found]
  rfl

theorem directory_of_lookup?_join {tree : Tree} {path : Path} {name : String} {node : Node}
    (found : tree.lookup? (path.join name) = some node) :
    ∃ directory, tree.directory path = .ok directory ∧ directory.child? name = some node := by
  rw [lookup?_join] at found
  obtain ⟨directory, here, child⟩ := Option.bind_eq_some_iff.mp found
  exact ⟨directory, directory_eq_ok_iff.mpr ⟨here, Node.isDirectory_of_child? child⟩, child⟩

theorem isDirectory_of_lookup?_join {tree : Tree} {path : Path} {name : String} {node : Node}
    (found : tree.lookup? (path.join name) = some node) : tree.IsDirectory path := by
  obtain ⟨directory, answered, _⟩ := directory_of_lookup?_join found
  exact isDirectory_iff.mpr ⟨directory, answered⟩

theorem insert_eq_ok_iff {tree after : Tree} {parent : Path} {name : String} {node : Node} :
    tree.insert parent name node = .ok after ↔
      isName name ∧ tree.IsDirectory parent ∧ tree.lookup? (parent.join name) = none ∧
        after = tree.bind parent name node := by
  simp only [insert, bind_eq_ok_iff, checkName_eq_ok_iff]
  constructor
  · rintro ⟨_, valid, directory, answered, inserted⟩
    have here := (directory_eq_ok_iff.mp answered).1
    cases found : directory.child? name with
    | some other => simp [found] at inserted
    | none =>
        simp only [found, Except.ok.injEq] at inserted
        refine ⟨valid, isDirectory_iff.mpr ⟨directory, answered⟩, ?_, inserted.symm⟩
        rw [lookup?_join_of_directory here, found]
  · rintro ⟨valid, isDirectory, free, rfl⟩
    obtain ⟨directory, answered⟩ := isDirectory_iff.mp isDirectory
    have here := (directory_eq_ok_iff.mp answered).1
    rw [lookup?_join_of_directory here] at free
    exact ⟨(), valid, directory, answered, by simp [free]⟩

theorem remove_eq_ok_iff {tree after : Tree} {parent : Path} {name : String} {node : Node} :
    tree.remove parent name = .ok (node, after) ↔
      tree.lookup? (parent.join name) = some node ∧ after = tree.unbind parent name := by
  simp only [remove, bind_eq_ok_iff]
  constructor
  · rintro ⟨directory, answered, removed⟩
    have here := (directory_eq_ok_iff.mp answered).1
    cases found : directory.child? name with
    | none => simp [found] at removed
    | some other =>
        simp only [found, Except.ok.injEq, Prod.mk.injEq] at removed
        obtain ⟨rfl, rfl⟩ := removed
        rw [lookup?_join_of_directory here]
        exact ⟨found, rfl⟩
  · rintro ⟨found, rfl⟩
    obtain ⟨directory, answered, child⟩ := directory_of_lookup?_join found
    exact ⟨directory, answered, by simp [child]⟩

theorem replace_eq_ok_iff {tree after : Tree} {parent : Path} {name : String} {node : Node}
    {old : Option Node} :
    tree.replace parent name node = .ok (old, after) ↔
      isName name ∧ tree.IsDirectory parent ∧ old = tree.lookup? (parent.join name) ∧
        after = tree.bind parent name node := by
  simp only [replace, bind_eq_ok_iff, checkName_eq_ok_iff]
  constructor
  · rintro ⟨_, valid, directory, answered, replaced⟩
    have here := (directory_eq_ok_iff.mp answered).1
    simp only [Except.ok.injEq, Prod.mk.injEq] at replaced
    rw [lookup?_join_of_directory here]
    exact ⟨valid, isDirectory_iff.mpr ⟨directory, answered⟩, replaced.1.symm, replaced.2.symm⟩
  · rintro ⟨valid, isDirectory, rfl, rfl⟩
    obtain ⟨directory, answered⟩ := isDirectory_iff.mp isDirectory
    have here := (directory_eq_ok_iff.mp answered).1
    exact ⟨(), valid, directory, answered, by rw [lookup?_join_of_directory here]⟩

end Tree

end TeachingShell
