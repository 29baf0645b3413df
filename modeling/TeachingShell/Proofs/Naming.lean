import TeachingShell.Proofs.Location
import TeachingShell.Proofs.Spelling
import TeachingShell.Proofs.Throughout

/-!
Names as commands create them and as paths spell them. A new name stands for itself, with one
exception: a path takes a tilde for the home directory, and yet a child may be called so.
-/

namespace TeachingShell

namespace Tree

theorem isName_iff {name : String} :
    isName name = true ↔ name ≠ "" ∧ name ≠ "." ∧ name ≠ ".." ∧ '/' ∉ name.toList := by
  simp [isName, and_assoc]

end Tree

namespace Path

theorem isPiece_of_isName {name : String} (valid : Tree.isName name) : IsPiece name := by
  obtain ⟨nonempty, -, -, unbroken⟩ := Tree.isName_iff.mp valid
  exact ⟨nonempty, unbroken⟩

theorem not_isAbsolute_of_isName {name : String} (valid : Tree.isName name) :
    isAbsolute name = false := by
  obtain ⟨-, -, -, unbroken⟩ := Tree.isName_iff.mp valid
  rw [isAbsolute, beq_eq_false_iff_ne]
  intro first
  exact unbroken (List.mem_of_mem_head? first)

theorem resolve_of_isName {name : String} (valid : Tree.isName name) (location home : Path) :
    resolve name location home = if name = "~" then home else location.join name := by
  obtain ⟨-, notHere, notUp, -⟩ := Tree.isName_iff.mp valid
  simp only [resolve, not_isAbsolute_of_isName valid, (isPiece_of_isName valid).pieces, walk,
    List.foldl_cons, List.foldl_nil, step, notHere, notUp, Bool.false_eq_true, if_false]

/-- A valid name is read as a child, unless it is the tilde and home is elsewhere. -/
theorem resolve_eq_join_iff {name : String} (valid : Tree.isName name) (location home : Path) :
    resolve name location home = location.join name ↔ (name = "~" → home = location.join name) := by
  rw [resolve_of_isName valid]
  by_cases tilde : name = "~"
  · simp [tilde]
  · simp [tilde]

end Path

abbrev Node.Named (node : Node) : Prop := node.Throughout fun name _ => Tree.isName name

theorem Tutorial.named_tree (stamp : String) : (tree stamp).root.Named :=
  throughout_tree (by decide) fun name member _ _ _ => by
    revert name
    decide

namespace Shell

theorem Reached.named {shell : Shell} (reached : shell.Reached) : shell.tree.root.Named := by
  obtain ⟨config, now, first, lines, started, rfl⟩ := reached
  refine throughout_acceptAll ?_ ?_
  · intro typed member stamp verb arguments split
    exact ⟨fun _ _ _ named => named, fun _ _ _ valid _ _ => valid, fun _ valid _ => valid,
      fun _ valid _ => valid⟩
  · obtain ⟨-, -, -, rfl⟩ := start_eq_ok_iff.mp started
    exact throughout_boot fun _ => Tutorial.named_tree now.stamp

theorem Reached.isName {shell : Shell} (reached : shell.Reached) {name : String} {node : Node}
    (found : shell.tree.lookup? (shell.cwd.join name) = some node) : Tree.isName name :=
  (Tree.Throughout.lookup? reached.named found).1

end Shell

end TeachingShell
