import TeachingShell.Proofs.Confinement
import TeachingShell.Proofs.Settling
import TeachingShell.Tree.Survey

/-!
What the children of a location are after one of them was bound, taken out or edited, and why a tree
is known once every path in it is.
-/

namespace TeachingShell

theorem Tree.isDirectory_iff_kind {tree : Tree} {path : Path} :
    tree.IsDirectory path ↔ (tree.lookup? path).map Node.kind = some .directory := by
  rw [Option.map_eq_some_iff]
  constructor
  · rintro ⟨node, found, holds⟩
    exact ⟨node, found, beq_iff_eq.mp holds⟩
  · rintro ⟨node, found, kind⟩
    exact ⟨node, found, beq_iff_eq.mpr kind⟩

theorem Confined.child {location : Path} {names : List String} {before after : Tree}
    (confined : Confined location names before after) {other : String} (foreign : other ∉ names) :
    after.lookup? (location.join other) = before.lookup? (location.join other) := by
  refine confined.beside (location.join other) (by simp) fun name member inside => ?_
  rw [Path.startsWith_join_join] at inside
  exact foreign (inside ▸ member)

namespace Tree

variable (tree : Tree) (location : Path) (name other : String)

theorem lookup?_update (change : Node → Node) (keeps : ∀ node, (change node).kind = node.kind) :
    (tree.update location change keeps).lookup? location =
      (tree.lookup? location).map change := by
  have found := lookup?_update_above tree location [] change keeps
  rw [Path.extend_nil] at found
  rw [found]
  congr 1
  funext node
  exact Node.update_nil node change

theorem lookup?_bind_join {tree : Tree} {location : Path} (directory : tree.IsDirectory location)
    (name other : String) (node : Node) :
    (tree.bind location name node).lookup? (location.join other) =
      if other = name then some node else tree.lookup? (location.join other) := by
  obtain ⟨found, here, holds⟩ := directory
  rw [lookup?_join, lookup?_join, bind, lookup?_update, here]
  exact Node.child?_bind holds name other node

theorem lookup?_unbind_join :
    (tree.unbind location name).lookup? (location.join other) =
      if other = name then none else tree.lookup? (location.join other) := by
  rw [lookup?_join, lookup?_join, unbind, lookup?_update]
  cases tree.lookup? location with
  | none => simp
  | some found => exact Node.child?_unbind found name other

theorem lookup?_edit_join (change : Attributes → Attributes) :
    (tree.edit (location.join name) change).lookup? (location.join other) =
      if other = name then (tree.lookup? (location.join other)).map (·.edit change)
      else tree.lookup? (location.join other) := by
  by_cases own : other = name
  · rw [if_pos own, own]
    exact lookup?_update tree (location.join name) (·.edit change) _
  · rw [if_neg own]
    have confined := confined_edit (List.mem_singleton_self name) tree location change
    exact confined.child (by simpa using own)

end Tree

namespace Node

theorem isDirectory_iff_content? {node : Node} : node.isDirectory = true ↔ node.content? = none := by
  cases node with
  | file => simp [isDirectory, kind, content?]
  | directory => simp [isDirectory, kind, content?]

theorem label_eq_of_face {node other : Node} (directory : node.isDirectory)
    (same : other.face = node.face) : other.label = node.label := by
  have sameKind : other.kind = node.kind := congrArg Prod.fst same
  have sameAttributes : other.attributes = node.attributes := congrArg Prod.snd same
  have otherDirectory : other.isDirectory := by
    rwa [isDirectory, sameKind]
  rw [label, label, sameAttributes, isDirectory_iff_content?.mp directory,
    isDirectory_iff_content?.mp otherDirectory]

/-- A node is known by what every way down from it leads to. -/
theorem eq_of_descend? {left right : Node}
    (same : ∀ way, (left.descend? way).map label = (right.descend? way).map label) :
    left = right := by
  induction left generalizing right with
  | file attributes content =>
      have here := same []
      cases right with
      | file => simp_all [label, Node.attributes, content?]
      | directory => simp [label, content?] at here
  | directory attributes names child ih =>
      have here := same []
      simp only [descend?_nil, Option.map_some, Option.some.injEq, label, Prod.mk.injEq] at here
      have rightDirectory : right.isDirectory := isDirectory_iff_content?.mpr here.2.symm
      refine eq_of_child? rfl rightDirectory here.1 fun name => ?_
      have below (way : List String) := same (name :: way)
      simp only [descend?_cons] at below
      cases inLeft : (directory attributes names child).child? name with
      | none =>
          cases inRight : right.child? name with
          | none => rfl
          | some other => simpa [inLeft, inRight] using below []
      | some found =>
          obtain ⟨member, rfl⟩ := child?_eq_some_iff.mp inLeft
          cases inRight : right.child? name with
          | none => simpa [inLeft, inRight] using below []
          | some other =>
              rw [ih name member fun way => by simpa [inLeft, inRight] using below way]

end Node

theorem Tree.eq_of_lookup? {left right : Tree}
    (same : ∀ path, (left.lookup? path).map Node.label = (right.lookup? path).map Node.label) :
    left = right :=
  Tree.ext (Node.eq_of_descend? fun way => same ⟨way⟩)

theorem Tree.lookup?_below {left right : Tree} {path above : Path}
    (same : left.lookup? above = right.lookup? above) (below : path.startsWith above) :
    left.lookup? path = right.lookup? path := by
  obtain ⟨rest, rfl⟩ := Path.startsWith_iff_extend.mp below
  rw [lookup?_extend, lookup?_extend, same]

theorem Tree.IsDirectory.above {tree : Tree} {path above : Path} (directory : tree.IsDirectory path)
    (onTheWay : path.startsWith above) : tree.IsDirectory above := by
  obtain ⟨node, found, holds⟩ := directory
  obtain ⟨rest, rfl⟩ := Path.startsWith_iff_extend.mp onTheWay
  rw [lookup?_extend] at found
  obtain ⟨other, foundAbove, foundBelow⟩ := Option.bind_eq_some_iff.mp found
  exact ⟨other, foundAbove, Node.isDirectory_of_descend? foundBelow holds⟩

namespace Confined

variable {location : Path} {names : List String} {before left right : Tree}

theorem kind (confined : Confined location names before left) :
    (left.lookup? location).map Node.kind = (before.lookup? location).map Node.kind := by
  have face := congrArg (Option.map Prod.fst) (confined.above location (Path.startsWith_self _))
  rwa [Option.map_map, Option.map_map] at face

theorem label_above (confined : Confined location names before left)
    (directory : before.IsDirectory location) {path : Path} (onTheWay : location.startsWith path) :
    (left.lookup? path).map Node.label = (before.lookup? path).map Node.label := by
  obtain ⟨node, found, holds⟩ := directory.above onTheWay
  have sameFace := confined.above path onTheWay
  rw [found, Option.map_some] at sameFace
  obtain ⟨other, foundAfter, same⟩ := Option.map_eq_some_iff.mp sameFace
  rw [foundAfter, found, Option.map_some, Option.map_some, Node.label_eq_of_face holds same]

theorem eq_of_child (toLeft : Confined location names before left)
    (toRight : Confined location names before right) (directory : before.IsDirectory location)
    (alike : ∀ name ∈ names,
      left.lookup? (location.join name) = right.lookup? (location.join name)) : left = right := by
  refine Tree.eq_of_lookup? fun path => ?_
  by_cases onTheWay : location.startsWith path = true
  · rw [toLeft.label_above directory onTheWay, toRight.label_above directory onTheWay]
  · by_cases inside : ∃ name ∈ names, path.startsWith (location.join name) = true
    · obtain ⟨name, member, below⟩ := inside
      rw [Tree.lookup?_below (alike name member) below]
    · have outside : ∀ name ∈ names, ¬ path.startsWith (location.join name) = true := by
        intro name member below
        exact inside ⟨name, member, below⟩
      rw [toLeft.beside path onTheWay outside, toRight.beside path onTheWay outside]

end Confined

end TeachingShell
