import TeachingShell.Proofs.Relocation
import TeachingShell.Tutorial

/-!
What speaks against a move. The objections are listed in the order in which they are raised, and each
is about the tree as it was before the move. The first one that applies is the answer; where none
applies the move succeeds, and nothing is left that could fail between its two steps.
-/

namespace TeachingShell.Tree

structure Objection where
  applies : Bool
  failure : Failure

def answerTo : List Objection → Except Failure Unit
  | [] => .ok ()
  | objection :: later => if objection.applies then .error objection.failure else answerTo later

def objectionsBelow (tree : Tree) (source destination parent : Path) (name : String) :
    List Objection :=
  [⟨(tree.lookup? source).isNone, .on .notFound source.display⟩,
    ⟨!isName name, .on .badName name⟩,
    ⟨(tree.lookup? destination).isSome, .on .alreadyExists destination.display⟩,
    ⟨destination.startsWith source, .on .wouldCycle destination.display⟩,
    ⟨(tree.lookup? parent).isNone, .on .notFound parent.display⟩,
    ⟨(tree.lookup? parent).any Node.isFile, .on .notDirectory parent.display⟩]

def objections (tree : Tree) (source destination : Path) : List Objection :=
  ⟨source.isRoot, .on .wouldCycle source.display⟩ ::
    ⟨destination.isRoot, .on .alreadyExists destination.display⟩ ::
    tree.objectionsBelow source destination destination.pop (destination.name?.getD "")

theorem checkMove_eq_answerTo (tree : Tree) (source destination parent : Path) (name : String) :
    tree.checkMove source destination parent name =
      answerTo (tree.objectionsBelow source destination parent name) := by
  simp only [objectionsBelow, answerTo, checkMove, stat_bind, checkName_bind, directory_bind]
  cases tree.lookup? source with
  | none => rfl
  | some node =>
      cases isName name with
      | false => rfl
      | true =>
          cases tree.lookup? destination with
          | some taken => rfl
          | none =>
              cases destination.startsWith source with
              | true => rfl
              | false =>
                  cases tree.lookup? parent with
                  | none => rfl
                  | some above =>
                      cases above with
                      | file attributes content => rfl
                      | directory attributes names child => rfl

theorem relocate_eq_answerTo (tree : Tree) (source destination : Path) :
    (tree.relocate source destination).1 = answerTo (tree.objections source destination) := by
  cases oldPlace : source.split? with
  | none =>
      obtain rfl := Path.split?_eq_none_iff.mp oldPlace
      simp only [relocate, oldPlace, objections, answerTo]
      rfl
  | some old =>
      obtain ⟨oldParent, oldName⟩ := old
      obtain rfl := Path.split?_eq_some_iff.mp oldPlace
      simp only [objections, answerTo, Path.isRoot_join, Bool.false_eq_true, if_false]
      cases newPlace : destination.split? with
      | none =>
          obtain rfl := Path.split?_eq_none_iff.mp newPlace
          simp only [relocate, oldPlace, newPlace]
          rfl
      | some new =>
          obtain ⟨parent, name⟩ := new
          obtain rfl := Path.split?_eq_some_iff.mp newPlace
          rw [Path.isRoot_join, Path.pop_join, Path.name?_join, Option.getD_some,
            ← checkMove_eq_answerTo]
          cases checked : tree.checkMove (oldParent.join oldName) (parent.join name) parent name with
          | error failure => simp [relocate, checked]
          | ok =>
              obtain ⟨node, movable⟩ := checkMove_eq_ok_iff.mp checked
              rw [movable.relocate]
              rfl

theorem relocate_eq_ok_iff {tree : Tree} {source destination : Path} :
    (tree.relocate source destination).1 = .ok () ↔
      ∃ oldParent oldName parent name node, source = oldParent.join oldName ∧
        destination = parent.join name ∧ tree.Movable oldParent oldName parent name node := by
  constructor
  · intro done
    rcases relocate_cases tree source destination with ⟨failure, failed⟩ | moved
    · rw [failed] at done
      cases done
    · exact moved
  · rintro ⟨oldParent, oldName, parent, name, node, rfl, rfl, movable⟩
    rw [movable.relocate]

/-- A move succeeds just where there is something to move and a free place for it that is not inside
it. Otherwise the first objection is the answer and the tree stays as it was. Once the checks have
passed, both the node can be taken out and the place takes it, so that no node is ever put back. -/
theorem relocate_decides (tree : Tree) (source destination : Path) :
    ((tree.relocate source destination).1 = .ok () ↔
      source ≠ .root ∧ (∃ node, tree.lookup? source = some node) ∧
        ∃ parent name, destination = parent.join name ∧ isName name ∧
          tree.lookup? destination = none ∧ ¬ destination.startsWith source ∧
          tree.IsDirectory parent) ∧
      (tree.relocate source destination).1 = answerTo (tree.objections source destination) ∧
      (∀ failure, (tree.relocate source destination).1 = .error failure →
        (tree.relocate source destination).2 = tree) ∧
      ∀ oldParent oldName parent name, source = oldParent.join oldName →
        destination = parent.join name → tree.checkMove source destination parent name = .ok () →
          ∃ node detached moved, tree.remove oldParent oldName = .ok (node, detached) ∧
            detached.insert parent name node = .ok moved ∧
            tree.relocate source destination = (.ok (), moved) := by
  refine ⟨?_, relocate_eq_answerTo tree source destination, ?_, ?_⟩
  · rw [relocate_eq_ok_iff]
    constructor
    · rintro ⟨oldParent, oldName, parent, name, node, rfl, rfl, movable⟩
      exact ⟨Path.join_ne_root, ⟨node, movable.found⟩, parent, name, rfl, movable.valid,
        movable.free, movable.outside, movable.directory⟩
    · rintro ⟨below, ⟨node, found⟩, parent, name, rfl, valid, free, outside, directory⟩
      obtain ⟨oldParent, oldName, rfl⟩ := Path.exists_join below
      exact ⟨oldParent, oldName, parent, name, node, rfl, rfl, found, valid, free, outside,
        directory⟩
  · intro failure failed
    exact tree_of_relocate_error failed
  · rintro oldParent oldName parent name rfl rfl checked
    obtain ⟨node, movable⟩ := checkMove_eq_ok_iff.mp checked
    have removed := remove_eq_ok_iff.mpr ⟨movable.found, rfl⟩
    exact ⟨node, _, _, removed, movable.insert_unbind, movable.relocate⟩

theorem relocate_decides_tutorial :
    (Tutorial.tree "").checkMove ⟨["home", "user", "projects"]⟩
        ⟨["home", "user", "documents", "p"]⟩ ⟨["home", "user", "documents"]⟩ "p" = .ok () ∧
      (∃ node detached moved,
        (Tutorial.tree "").remove ⟨["home", "user"]⟩ "projects" = .ok (node, detached) ∧
          detached.insert ⟨["home", "user", "documents"]⟩ "p" node = .ok moved ∧
          (Tutorial.tree "").relocate ⟨["home", "user", "projects"]⟩
            ⟨["home", "user", "documents", "p"]⟩ = (.ok (), moved)) ∧
      ((Tutorial.tree "").relocate ⟨["home"]⟩ ⟨["home", "user", "."]⟩).1 =
        .error (.on .badName ".") ∧
      ((Tutorial.tree "").relocate ⟨["home"]⟩ ⟨["home", "user", "."]⟩).2 = Tutorial.tree "" := by
  have checked : (Tutorial.tree "").checkMove ⟨["home", "user", "projects"]⟩
      ⟨["home", "user", "documents", "p"]⟩ ⟨["home", "user", "documents"]⟩ "p" = .ok () := rfl
  obtain ⟨-, -, -, moves⟩ := relocate_decides (Tutorial.tree "") ⟨["home", "user", "projects"]⟩
    ⟨["home", "user", "documents", "p"]⟩
  obtain ⟨-, answered, unchanged, -⟩ :=
    relocate_decides (Tutorial.tree "") ⟨["home"]⟩ ⟨["home", "user", "."]⟩
  have failed := answered.trans
    (show answerTo _ = .error (.on .badName ".") from rfl)
  exact ⟨checked, moves ⟨["home", "user"]⟩ "projects" ⟨["home", "user", "documents"]⟩ "p" rfl rfl
    checked, failed, unchanged _ failed⟩

end TeachingShell.Tree
