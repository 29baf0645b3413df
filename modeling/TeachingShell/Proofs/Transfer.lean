import TeachingShell.Proofs.Cancelling
import TeachingShell.Proofs.Objections
import TeachingShell.Proofs.Rebinding

/-!
Where everything is after a move. It takes one name away and gives another, and of the two places
neither lies inside the other. So a path that is at neither of them, and not on the way to one, is
passed over by both changes; and the move the other way finds all that it asks for.
-/

namespace TeachingShell

/-- The node at one path has gone to another, with all that is below it, and nothing else has
changed. -/
structure Relocated (source destination : Path) (before after : Tree) : Prop where
  arrived : ∀ rest, after.lookup? (destination.extend rest) = before.lookup? (source.extend rest)
  gone : ∀ path : Path, path.startsWith source → after.lookup? path = none
  onTheWay : ∀ path : Path, (source.startsWith path ∧ path ≠ source) ∨
    (destination.startsWith path ∧ path ≠ destination) → StaysDirectory before after path
  beside : ∀ path : Path, ¬ path.startsWith source → ¬ path.startsWith destination →
    ¬ source.startsWith path → ¬ destination.startsWith path →
      after.lookup? path = before.lookup? path

namespace Tree

section

variable {tree : Tree} {oldParent parent : Path} {oldName name : String} {node : Node}

theorem Movable.detached (movable : tree.Movable oldParent oldName parent name node) :
    Rebound oldParent oldName none tree (tree.unbind oldParent oldName) :=
  rebound_unbind (isDirectory_of_lookup?_join movable.found) oldName

theorem Movable.attached (movable : tree.Movable oldParent oldName parent name node) :
    Rebound parent name (some node) (tree.unbind oldParent oldName)
      ((tree.unbind oldParent oldName).bind parent name node) :=
  rebound_bind movable.isDirectory_unbind name node

theorem Movable.clear (movable : tree.Movable oldParent oldName parent name node) {path : Path}
    (above : oldParent.startsWith path ∨ parent.startsWith path) :
    tree.IsDirectory path ∧ ¬ path.startsWith (oldParent.join oldName) ∧
      ¬ path.startsWith (parent.join name) := by
  rcases above with toOld | toNew
  · refine ⟨(isDirectory_of_lookup?_join movable.found).above toOld, fun below => ?_, fun below => ?_⟩
    · have inside := Path.startsWith_trans toOld below
      simp at inside
    · have inside := Path.startsWith_trans toOld below
      exact movable.notAbove (Path.startsWith_trans (Path.startsWith_join _ _) inside)
  · refine ⟨movable.directory.above toNew, fun below => ?_, fun below => ?_⟩
    · have inside := Path.startsWith_trans toNew below
      exact movable.outside (Path.startsWith_trans (Path.startsWith_join _ _) inside)
    · have inside := Path.startsWith_trans toNew below
      simp at inside

theorem Movable.relocated (movable : tree.Movable oldParent oldName parent name node) :
    Relocated (oldParent.join oldName) (parent.join name) tree
      ((tree.unbind oldParent oldName).bind parent name node) := by
  constructor
  · intro rest
    rw [movable.attached.below, lookup?_extend, movable.found]
  · intro path below
    have elsewhere : ¬ path.startsWith (parent.join name) := by
      intro alsoBelow
      rcases Path.startsWith_or_startsWith below alsoBelow with inside | inside
      · exact movable.notAbove inside
      · exact movable.outside inside
    have notAbove : ¬ parent.startsWith path := fun above =>
      (movable.clear (Or.inr above)).2.1 below
    obtain ⟨rest, rfl⟩ := Path.startsWith_iff_extend.mp below
    rw [movable.attached.beside _ elsewhere notAbove, movable.detached.below]
    rfl
  · intro path above
    have parents : oldParent.startsWith path ∨ parent.startsWith path := by
      rcases above with ⟨above, different⟩ | ⟨above, different⟩
      · exact Or.inl ((Path.startsWith_join_iff.mp above).resolve_left different)
      · exact Or.inr ((Path.startsWith_join_iff.mp above).resolve_left different)
    obtain ⟨directory, notInOld, notInNew⟩ := movable.clear parents
    have first := movable.detached.staysDirectory directory notInOld
    exact first.trans (movable.attached.staysDirectory first.still notInNew)
  · intro path notInOld notInNew notAboveOld notAboveNew
    have notToOld : ¬ oldParent.startsWith path := fun above =>
      notAboveOld (Path.startsWith_trans (Path.startsWith_join oldParent oldName) above)
    have notToNew : ¬ parent.startsWith path := fun above =>
      notAboveNew (Path.startsWith_trans (Path.startsWith_join parent name) above)
    rw [movable.attached.beside path notInNew notToNew,
      movable.detached.beside path notInOld notToOld]

theorem Movable.back (movable : tree.Movable oldParent oldName parent name node)
    (valid : isName oldName) :
    ((tree.unbind oldParent oldName).bind parent name node).Movable parent name oldParent oldName
      node := by
  have relocated := movable.relocated
  constructor
  · have arrived := relocated.arrived []
    rw [Path.extend_nil, Path.extend_nil] at arrived
    rw [arrived, movable.found]
  · exact valid
  · exact relocated.gone _ (Path.startsWith_self _)
  · exact movable.notAbove
  · refine (relocated.onTheWay oldParent (Or.inl ⟨Path.startsWith_join oldParent oldName, ?_⟩)).still
    intro same
    have inside := Path.not_startsWith_join oldParent oldName
    simp [← same] at inside

theorem Movable.undone (movable : tree.Movable oldParent oldName parent name node) :
    (((tree.unbind oldParent oldName).bind parent name node).unbind parent name).bind
      oldParent oldName node = tree := by
  rw [unbind_bind movable.isDirectory_unbind movable.lookup?_unbind, bind_unbind movable.found]

end

variable {tree : Tree} {source destination : Path}

/-- A move takes a node, and all that is below it, to its new place. Whatever the two places have in
common, every other path stays as it was. -/
theorem relocated_of_relocate (done : (tree.relocate source destination).1 = .ok ()) :
    Relocated source destination tree (tree.relocate source destination).2 := by
  obtain ⟨oldParent, oldName, parent, name, node, rfl, rfl, movable⟩ := relocate_eq_ok_iff.mp done
  rw [movable.relocate]
  exact movable.relocated

theorem relocated_of_relocate_tutorial :
    ((Tutorial.tree "").relocate ⟨["home", "user", "projects"]⟩
        ⟨["home", "user", "documents", "p"]⟩).1 = .ok () ∧
      Relocated ⟨["home", "user", "projects"]⟩ ⟨["home", "user", "documents", "p"]⟩
        (Tutorial.tree "") ((Tutorial.tree "").relocate ⟨["home", "user", "projects"]⟩
          ⟨["home", "user", "documents", "p"]⟩).2 := by
  have done : ((Tutorial.tree "").relocate ⟨["home", "user", "projects"]⟩
      ⟨["home", "user", "documents", "p"]⟩).1 = .ok () := rfl
  exact ⟨done, relocated_of_relocate done⟩

/-- The move the other way takes a move back, and leaves the very tree from before, just where the old
name is one that a tree accepts. -/
theorem relocate_back_iff (done : (tree.relocate source destination).1 = .ok ()) :
    (tree.relocate source destination).2.relocate destination source = (.ok (), tree) ↔
      ∃ name, source.name? = some name ∧ isName name := by
  obtain ⟨oldParent, oldName, parent, name, node, rfl, rfl, movable⟩ := relocate_eq_ok_iff.mp done
  rw [movable.relocate]
  constructor
  · intro back
    obtain ⟨_, _, _, accepted, _, _, same, returned⟩ :=
      relocate_eq_ok_iff.mp (congrArg Prod.fst back)
    exact ⟨accepted, by rw [same, Path.name?_join], returned.valid⟩
  · rintro ⟨accepted, named, valid⟩
    rw [Path.name?_join, Option.some.injEq] at named
    subst named
    rw [(movable.back valid).relocate, movable.undone]

theorem relocate_back_iff_tutorial :
    (((Tutorial.tree "").relocate ⟨["home", "user", "projects"]⟩
          ⟨["home", "user", "documents", "p"]⟩).1 = .ok () ∧
        ((Tutorial.tree "").relocate ⟨["home", "user", "projects"]⟩
          ⟨["home", "user", "documents", "p"]⟩).2.relocate ⟨["home", "user", "documents", "p"]⟩
            ⟨["home", "user", "projects"]⟩ = (.ok (), Tutorial.tree "")) ∧
      (((new "").bind .root "." (.newFile "" "")).relocate ⟨["."]⟩ ⟨["a"]⟩).1 = .ok () ∧
        (((new "").bind .root "." (.newFile "" "")).relocate ⟨["."]⟩ ⟨["a"]⟩).2.relocate
          ⟨["a"]⟩ ⟨["."]⟩ ≠ (.ok (), (new "").bind .root "." (.newFile "" "")) := by
  have done : ((Tutorial.tree "").relocate ⟨["home", "user", "projects"]⟩
      ⟨["home", "user", "documents", "p"]⟩).1 = .ok () := rfl
  have dotted : (((new "").bind .root "." (.newFile "" "")).relocate ⟨["."]⟩ ⟨["a"]⟩).1 =
      .ok () := rfl
  refine ⟨⟨done, (relocate_back_iff done).mpr ⟨"projects", rfl, by decide⟩⟩, dotted, fun back => ?_⟩
  obtain ⟨name, named, valid⟩ := (relocate_back_iff dotted).mp back
  cases named
  exact absurd valid (by decide)

end Tree

end TeachingShell
