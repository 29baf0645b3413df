import Mathlib.Logic.Function.Basic
import TeachingShell.Proofs.Refusals
import TeachingShell.Proofs.Transfer

/-!
What the commands that write make of the children of the current directory. Children are seen as a
function from names to nodes; each command has changed that function at one name, or at two, and has
changed nothing else.
-/

namespace TeachingShell

open Function (update)

/-- The children of a directory have become others. The directories on the way to it show what they
showed, and the rest of the tree is as it was. -/
structure Rearranged (location : Path) (children : String → Option Node) (before after : Tree) :
    Prop where
  children : ∃ directory, after.directory location = .ok directory ∧ directory.child? = children
  above : ∀ path : Path, location.startsWith path → StaysDirectory before after path
  beside : ∀ path : Path, ¬ location.startsWith path → ¬ path.startsWith location →
    after.lookup? path = before.lookup? path

namespace Rearranged

variable {location : Path} {children : String → Option Node} {before middle after : Tree}

theorem refl {directory : Node} (here : before.directory location = .ok directory) :
    Rearranged location directory.child? before before := by
  refine ⟨⟨directory, here, rfl⟩, fun path onTheWay => ?_, fun path _ _ => rfl⟩
  exact .of_same ((Tree.isDirectory_iff.mpr ⟨directory, here⟩).above onTheWay) rfl

theorem lookup?_join (rearranged : Rearranged location children before after) (name : String) :
    after.lookup? (location.join name) = children name := by
  obtain ⟨directory, here, rfl⟩ := rearranged.children
  exact Tree.lookup?_join_of_directory (Tree.directory_eq_ok_iff.mp here).1 name

theorem rebound {name : String} {child : Option Node}
    (rearranged : Rearranged location children before middle)
    (rebound : Rebound location name child middle after) :
    Rearranged location (update children name child) before after := by
  have stays := rebound.above location (Path.startsWith_self location)
  refine ⟨?_, fun path onTheWay => ?_, fun path notAbove notBelow => ?_⟩
  · obtain ⟨directory, here⟩ := Tree.isDirectory_iff.mp stays.still
    have found := (Tree.directory_eq_ok_iff.mp here).1
    refine ⟨directory, here, funext fun other => ?_⟩
    rw [← Tree.lookup?_join_of_directory found]
    by_cases own : other = name
    · subst own
      have bound := rebound.below []
      rw [Path.extend_nil] at bound
      rw [bound, Function.update_self]
      cases child with
      | none => rfl
      | some node => exact Node.descend?_nil node
    · rw [Function.update_of_ne own, rebound.beside, rearranged.lookup?_join]
      · rwa [Path.startsWith_join_join]
      · simp
  · exact (rearranged.above path onTheWay).trans (rebound.above path onTheWay)
  · have outside : ¬ path.startsWith (location.join name) := fun below =>
      notBelow (Path.startsWith_trans below (Path.startsWith_join location name))
    rw [rebound.beside path outside notAbove, rearranged.beside path notAbove notBelow]

end Rearranged

theorem Tree.rebound_restamp {tree : Tree} {location : Path} {name : String} {node : Node}
    (found : tree.lookup? (location.join name) = some node) (stamp : String) :
    Rebound location name (some (node.restamp stamp)) tree
      (tree.restamp (location.join name) stamp) := by
  refine .of_confined (confined_edit (List.mem_singleton_self name) tree location _)
    (isDirectory_of_lookup?_join found) ?_
  rw [restamp, lookup?_edit_join, if_pos rfl, found, Option.map_some]
  rfl

/-- What the names in the current directory stand for once a command has succeeded. -/
def Verb.childrenAfter (directory : Node) (arguments : Arguments) (now : String) :
    Verb → String → Option Node
  | .mkdir =>
      match arguments with
      | name :: _ => update directory.child? name (some (.newDirectory now))
      | [] => directory.child?
  | .touch =>
      match arguments with
      | name :: _ =>
          update directory.child? name
            (some (((directory.child? name).map (·.restamp now)).getD (.newFile "" now)))
      | [] => directory.child?
  | .rm | .rmdir =>
      match arguments with
      | name :: _ => update directory.child? name none
      | [] => directory.child?
  | .mv =>
      match arguments with
      | [source, destination] =>
          update (update directory.child? source none) destination (directory.child? source)
      | _ => directory.child?
  | .cp =>
      match arguments with
      | [source, destination] =>
          update directory.child? destination ((directory.child? source).map (·.restamp now))
      | _ => directory.child?
  | _ => directory.child?

theorem Alters.rearranged {context : Context} {directory : Node} {verb : Verb}
    {arguments : Arguments} {tree : Tree} (here : context.directory = .ok directory)
    (alters : Alters context verb arguments tree) :
    Rearranged context.cwd (verb.childrenAfter directory arguments context.now) context.tree
      tree := by
  have start : Rearranged context.cwd directory.child? context.tree context.tree :=
    Rearranged.refl here
  have place : context.tree.IsDirectory context.cwd := Tree.isDirectory_iff.mpr ⟨directory, here⟩
  cases alters with
  | makeDirectory vacant => exact start.rebound (Tree.rebound_bind place _ _)
  | makeFile vacant =>
      rw [Verb.childrenAfter, ← Command.lookup?_here here, vacant.free]
      exact start.rebound (Tree.rebound_bind place _ _)
  | stampFile found file =>
      rw [Verb.childrenAfter, ← Command.lookup?_here here, found]
      exact start.rebound (Tree.rebound_restamp found context.now)
  | removeFile found file => exact start.rebound (Tree.rebound_unbind place _)
  | removeDirectory found empty => exact start.rebound (Tree.rebound_unbind place _)
  | rename found vacant =>
      have movable := Command.movable_siblings found vacant
      rw [Verb.childrenAfter, ← Command.lookup?_here here, found]
      exact (start.rebound movable.detached).rebound movable.attached
  | copyFile found file vacant =>
      rw [Verb.childrenAfter, ← Command.lookup?_here here, found]
      exact start.rebound (Tree.rebound_bind place _ _)

end TeachingShell
