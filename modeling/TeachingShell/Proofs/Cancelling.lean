import TeachingShell.Proofs.Lookups

/-!
Changes of one child that take each other back. Whatever the first one left is all that the second one
asks for, and it ends in the tree from the start: equal to every depth, with no trace in the
directories above.
-/

namespace TeachingShell

theorem Confined.eq_of_same_child {location : Path} {name : String} {before after : Tree}
    (confined : Confined location [name] before after) (directory : before.IsDirectory location)
    (same : after.lookup? (location.join name) = before.lookup? (location.join name)) :
    after = before := by
  refine confined.eq_of_child (Confined.refl _ _ _) directory ?_
  intro other member
  obtain rfl := List.mem_singleton.mp member
  exact same

namespace Tree

section

variable {tree : Tree} {location : Path} {name : String} {node : Node}

theorem isDirectory_bind (directory : tree.IsDirectory location) (name : String) (node : Node) :
    (tree.bind location name node).IsDirectory location :=
  (confined_bind (List.mem_singleton_self name) tree location node).isDirectory
    (Path.startsWith_self location) directory

theorem isDirectory_unbind (directory : tree.IsDirectory location) (name : String) :
    (tree.unbind location name).IsDirectory location :=
  (confined_unbind (List.mem_singleton_self name) tree location).isDirectory
    (Path.startsWith_self location) directory

theorem unbind_bind (directory : tree.IsDirectory location)
    (free : tree.lookup? (location.join name) = none) (node : Node) :
    (tree.bind location name node).unbind location name = tree := by
  have own : name ∈ [name] := List.mem_singleton_self name
  have changed : Confined location [name] tree
      ((tree.bind location name node).unbind location name) :=
    (confined_bind own tree location node).trans (confined_unbind own _ location)
  apply changed.eq_of_same_child directory
  rw [lookup?_unbind_join, if_pos rfl, free]

theorem bind_unbind (found : tree.lookup? (location.join name) = some node) :
    (tree.unbind location name).bind location name node = tree := by
  have own : name ∈ [name] := List.mem_singleton_self name
  have here : tree.IsDirectory location := isDirectory_of_lookup?_join found
  have changed : Confined location [name] tree
      ((tree.unbind location name).bind location name node) :=
    (confined_unbind own tree location).trans (confined_bind own _ location node)
  apply changed.eq_of_same_child here
  rw [lookup?_bind_join (isDirectory_unbind here name), if_pos rfl, found]

theorem bind_bind (found : tree.lookup? (location.join name) = some node) (other : Node) :
    (tree.bind location name other).bind location name node = tree := by
  have own : name ∈ [name] := List.mem_singleton_self name
  have here : tree.IsDirectory location := isDirectory_of_lookup?_join found
  have changed : Confined location [name] tree
      ((tree.bind location name other).bind location name node) :=
    (confined_bind own tree location other).trans (confined_bind own _ location node)
  apply changed.eq_of_same_child here
  rw [lookup?_bind_join (isDirectory_bind here name other), if_pos rfl, found]

end

section

variable {before after : Tree} {parent : Path} {name : String} {node : Node}

theorem insert_eq_ok_iff_remove :
    before.insert parent name node = .ok after ↔
      isName name ∧ after.remove parent name = .ok (node, before) := by
  rw [insert_eq_ok_iff, remove_eq_ok_iff]
  constructor
  · rintro ⟨valid, directory, free, rfl⟩
    refine ⟨valid, ?_, (unbind_bind directory free node).symm⟩
    rw [lookup?_bind_join directory, if_pos rfl]
  · rintro ⟨valid, found, rfl⟩
    have here := isDirectory_unbind (isDirectory_of_lookup?_join found) name
    refine ⟨valid, here, ?_, (bind_unbind found).symm⟩
    rw [lookup?_unbind_join, if_pos rfl]

theorem replace_eq_ok_none_iff :
    before.replace parent name node = .ok (none, after) ↔
      before.insert parent name node = .ok after := by
  rw [replace_eq_ok_iff, insert_eq_ok_iff, eq_comm (a := none)]

theorem replace_back {old : Node}
    (replaced : before.replace parent name node = .ok (some old, after)) :
    after.replace parent name old = .ok (some node, before) := by
  obtain ⟨valid, directory, found, rfl⟩ := replace_eq_ok_iff.mp replaced
  refine replace_eq_ok_iff.mpr ⟨valid, isDirectory_bind directory name node, ?_, ?_⟩
  · rw [lookup?_bind_join directory, if_pos rfl]
  · exact (bind_bind found.symm node).symm

end

/-- Between two trees, inserting a node and removing it are converse steps, and replacing one node by
another is the converse of replacing the other by the one. A step and its converse succeed
together, except that a name has to be valid for a node to come back. -/
theorem mutators_cancel (before after : Tree) (parent : Path) (name : String) (node : Node) :
    (before.insert parent name node = .ok after ↔
        isName name ∧ after.remove parent name = .ok (node, before)) ∧
      (before.replace parent name node = .ok (none, after) ↔
        isName name ∧ after.remove parent name = .ok (node, before)) ∧
      ∀ old, before.replace parent name node = .ok (some old, after) ↔
        after.replace parent name old = .ok (some node, before) := by
  refine ⟨insert_eq_ok_iff_remove, ?_, fun old => ⟨replace_back, replace_back⟩⟩
  rw [replace_eq_ok_none_iff]
  exact insert_eq_ok_iff_remove

end Tree

end TeachingShell
