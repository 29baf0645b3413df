import TeachingShell.Proofs.Confinement

/-!
Moving a node takes it out first and attaches it second. The second step cannot fail once the checks
have passed, so a node is never put back, and a move that fails leaves the tree as it was.
-/

namespace TeachingShell.Tree

structure Movable (tree : Tree) (oldParent : Path) (oldName : String) (parent : Path)
    (name : String) (node : Node) : Prop where
  found : tree.lookup? (oldParent.join oldName) = some node
  valid : isName name
  free : tree.lookup? (parent.join name) = none
  outside : ¬ (parent.join name).startsWith (oldParent.join oldName)
  directory : tree.IsDirectory parent

theorem lookup?_above {tree : Tree} {path above : Path} {node : Node}
    (below : path.startsWith above) (found : tree.lookup? path = some node) :
    ∃ other, tree.lookup? above = some other := by
  obtain ⟨rest, rfl⟩ := Path.startsWith_iff_extend.mp below
  rw [lookup?_extend] at found
  obtain ⟨other, foundAbove, _⟩ := Option.bind_eq_some_iff.mp found
  exact ⟨other, foundAbove⟩

theorem checkMove_eq_ok_iff {tree : Tree} {oldParent parent : Path} {oldName name : String} :
    tree.checkMove (oldParent.join oldName) (parent.join name) parent name = .ok () ↔
      ∃ node, tree.Movable oldParent oldName parent name node := by
  simp only [checkMove, bind_eq_ok_iff, checkName_eq_ok_iff, stat_eq_ok_iff]
  constructor
  · rintro ⟨node, found, _, valid, checked⟩
    refine ⟨node, ?_⟩
    by_cases taken : (tree.lookup? (parent.join name)).isSome = true
    · simp [taken] at checked
    · by_cases inside : (parent.join name).startsWith (oldParent.join oldName) = true
      · simp [taken, inside] at checked
      · simp only [taken, inside, Bool.false_eq_true, if_false, bind_eq_ok_iff] at checked
        obtain ⟨directory, answered, _⟩ := checked
        constructor
        · exact found
        · exact valid
        · simpa using taken
        · exact inside
        · exact isDirectory_iff.mpr ⟨directory, answered⟩
  · rintro ⟨node, movable⟩
    obtain ⟨directory, answered⟩ := isDirectory_iff.mp movable.directory
    refine ⟨node, movable.found, (), movable.valid, ?_⟩
    simp only [movable.free, movable.outside, Option.isSome_none, Bool.false_eq_true, if_false,
      bind_eq_ok_iff]
    exact ⟨directory, answered, trivial⟩

section

variable {tree : Tree} {oldParent parent : Path} {oldName name : String} {node : Node}

theorem Movable.isDirectory_unbind (movable : tree.Movable oldParent oldName parent name node) :
    (tree.unbind oldParent oldName).IsDirectory parent := by
  have confined := confined_unbind (List.mem_singleton_self oldName) tree oldParent
  by_cases onTheWay : oldParent.startsWith parent = true
  · exact confined.isDirectory onTheWay movable.directory
  · have apart : ¬ parent.startsWith (oldParent.join oldName) := by
      intro below
      exact movable.outside (Path.startsWith_trans (Path.startsWith_join parent name) below)
    obtain ⟨directory, found, holds⟩ := movable.directory
    exact ⟨directory, (lookup?_unbind_beside onTheWay apart).trans found, holds⟩

theorem Movable.notAbove (movable : tree.Movable oldParent oldName parent name node) :
    ¬ (oldParent.join oldName).startsWith (parent.join name) := by
  intro below
  obtain ⟨other, taken⟩ := lookup?_above below movable.found
  rw [movable.free] at taken
  cases taken

theorem Movable.lookup?_unbind (movable : tree.Movable oldParent oldName parent name node) :
    (tree.unbind oldParent oldName).lookup? (parent.join name) = none := by
  have notOnTheWay : ¬ oldParent.startsWith (parent.join name) := by
    intro above
    exact movable.notAbove (Path.startsWith_trans (Path.startsWith_join oldParent oldName) above)
  rw [lookup?_unbind_beside notOnTheWay movable.outside, movable.free]

theorem Movable.insert_unbind (movable : tree.Movable oldParent oldName parent name node) :
    (tree.unbind oldParent oldName).insert parent name node =
      .ok ((tree.unbind oldParent oldName).bind parent name node) :=
  insert_eq_ok_iff.mpr
    ⟨movable.valid, movable.isDirectory_unbind, movable.lookup?_unbind, rfl⟩

theorem Movable.relocate (movable : tree.Movable oldParent oldName parent name node) :
    tree.relocate (oldParent.join oldName) (parent.join name) =
      (.ok (), (tree.unbind oldParent oldName).bind parent name node) := by
  have checked := checkMove_eq_ok_iff.mpr ⟨node, movable⟩
  have removed : tree.remove oldParent oldName = .ok (node, tree.unbind oldParent oldName) :=
    remove_eq_ok_iff.mpr ⟨movable.found, rfl⟩
  simp only [Tree.relocate, Path.split?_join, checked, removed, attach, movable.insert_unbind]

end

/-- Either a move fails and leaves the tree alone, or it takes the node out and attaches it. -/
theorem relocate_cases (tree : Tree) (source destination : Path) :
    (∃ failure, tree.relocate source destination = (.error failure, tree)) ∨
      ∃ oldParent oldName parent name node, source = oldParent.join oldName ∧
        destination = parent.join name ∧ tree.Movable oldParent oldName parent name node := by
  cases oldPlace : source.split? with
  | none =>
      left
      exact ⟨.on .wouldCycle source.display, by simp only [relocate, oldPlace]⟩
  | some old =>
      cases newPlace : destination.split? with
      | none =>
          left
          exact ⟨.on .alreadyExists destination.display, by simp only [relocate, oldPlace, newPlace]⟩
      | some new =>
          obtain ⟨oldParent, oldName⟩ := old
          obtain ⟨parent, name⟩ := new
          obtain rfl := Path.split?_eq_some_iff.mp oldPlace
          obtain rfl := Path.split?_eq_some_iff.mp newPlace
          cases checked : tree.checkMove (oldParent.join oldName) (parent.join name) parent name with
          | error failure =>
              left
              exact ⟨failure, by simp only [relocate, Path.split?_join, checked]⟩
          | ok =>
              right
              obtain ⟨node, movable⟩ := checkMove_eq_ok_iff.mp checked
              exact ⟨oldParent, oldName, parent, name, node, rfl, rfl, movable⟩

theorem tree_of_relocate_error {tree : Tree} {source destination : Path} {failure : Failure}
    (failed : (tree.relocate source destination).1 = .error failure) :
    (tree.relocate source destination).2 = tree := by
  rcases relocate_cases tree source destination with
    ⟨other, left⟩ | ⟨_, _, _, _, _, rfl, rfl, movable⟩
  · rw [left]
  · rw [movable.relocate] at failed
    cases failed

end TeachingShell.Tree
