import TeachingShell.Proofs.Mutators

/-!
Changes that stay among some children of one location: beside them every path finds what it found
before, and the directories on the way to them keep all that a listing shows.
-/

namespace TeachingShell

namespace Node

def face (node : Node) : Kind × Attributes := (node.kind, node.attributes)

theorem face_update_cons (node : Node) (name : String) (rest : List String)
    (change : Node → Node) : (node.update (name :: rest) change).face = node.face := by
  simp only [face, kind_update_cons, attributes_update_cons]

theorem names_update_cons (node : Node) (name : String) (rest : List String)
    (change : Node → Node) : (node.update (name :: rest) change).names = node.names := by
  cases node with
  | file => rfl
  | directory => rw [update, stored_eq, names, names]

theorem update_append (node : Node) (first second : List String) (change : Node → Node) :
    node.update (first ++ second) change = node.update first (·.update second change) := by
  induction first generalizing node with
  | nil => rw [List.nil_append, update_nil]
  | cons name first ih =>
      cases node with
      | file => rfl
      | directory attributes names child =>
          simp only [List.cons_append, update, stored_eq, directory.injEq, heq_eq_eq, true_and]
          funext other member
          rw [ih]

structure Touches (name : String) (change : Node → Node) : Prop where
  face : ∀ node, (change node).face = node.face
  child? : ∀ node other, other ≠ name → (change node).child? other = node.child? other

theorem touches_bind (name : String) (child : Node) : Touches name (·.bind name child) := by
  constructor
  · intro node
    simp only [Node.face, kind_bind, attributes_bind]
  · intro node other different
    cases node with
    | file => rfl
    | directory attributes names children =>
        rw [child?_bind rfl, if_neg different]

theorem touches_unbind (name : String) : Touches name (·.unbind name) := by
  constructor
  · intro node
    simp only [Node.face, kind_unbind, attributes_unbind]
  · intro node other different
    rw [child?_unbind, if_neg different]

theorem touches_update (name : String) (change : Node → Node) :
    Touches name (·.update [name] change) := by
  constructor
  · intro node
    exact face_update_cons node name [] change
  · intro node other different
    rw [child?_update_cons, if_neg different]

theorem Touches.face_update {name : String} {change : Node → Node} (touches : Touches name change)
    (node : Node) (way : List String) : (node.update way change).face = node.face := by
  cases way with
  | nil => rw [update_nil, touches.face]
  | cons first rest => exact face_update_cons node first rest change

end Node

/-- Nothing happened but to the children of one location that have the given names. -/
structure Confined (location : Path) (names : List String) (before after : Tree) : Prop where
  beside : ∀ path : Path, ¬ location.startsWith path →
    (∀ name ∈ names, ¬ path.startsWith (location.join name)) →
      after.lookup? path = before.lookup? path
  above : ∀ path : Path, location.startsWith path →
    (after.lookup? path).map Node.face = (before.lookup? path).map Node.face
  strictlyAbove : ∀ path : Path, location.startsWith path → path ≠ location →
    (after.lookup? path).map Node.names = (before.lookup? path).map Node.names

namespace Confined

variable {location : Path} {names : List String} {before middle after : Tree}

theorem refl (location : Path) (names : List String) (tree : Tree) :
    Confined location names tree tree :=
  ⟨fun _ _ _ => rfl, fun _ _ => rfl, fun _ _ _ => rfl⟩

theorem trans (first : Confined location names before middle)
    (second : Confined location names middle after) : Confined location names before after := by
  constructor
  · intro path notAbove notBelow
    rw [second.beside path notAbove notBelow, first.beside path notAbove notBelow]
  · intro path onTheWay
    rw [second.above path onTheWay, first.above path onTheWay]
  · intro path onTheWay different
    rw [second.strictlyAbove path onTheWay different, first.strictlyAbove path onTheWay different]

theorem isDirectory (confined : Confined location names before after) {path : Path}
    (onTheWay : location.startsWith path) (directory : before.IsDirectory path) :
    after.IsDirectory path := by
  obtain ⟨node, found, holds⟩ := directory
  have same := confined.above path onTheWay
  rw [found, Option.map_some] at same
  obtain ⟨other, foundAfter, sameFace⟩ := Option.map_eq_some_iff.mp same
  refine ⟨other, foundAfter, ?_⟩
  have sameKind : other.kind = node.kind := congrArg Prod.fst sameFace
  rwa [Node.isDirectory, sameKind]

end Confined

namespace Tree

theorem lookup?_update_above (tree : Tree) (above : Path) (rest : List String)
    (change : Node → Node) (keeps : ∀ node, (change node).kind = node.kind) :
    (tree.update (above.extend rest) change keeps).lookup? above =
      (tree.lookup? above).map (·.update rest change) :=
  tree.root.descend?_update_above above.segments rest change

theorem confined_update {name : String} {names : List String} {change : Node → Node}
    (touches : Node.Touches name change) (member : name ∈ names) (tree : Tree) (location : Path)
    (keeps : ∀ node, (change node).kind = node.kind) :
    Confined location names tree (tree.update location change keeps) := by
  constructor
  · intro path notAbove notBelow
    simp only [Path.startsWith_iff] at notAbove notBelow
    refine Node.descend?_update_elsewhere notAbove (fun other rest segments node => ?_) tree.root
    refine touches.child? node other ?_
    rintro rfl
    exact notBelow other member ⟨rest, by simp [segments]⟩
  · intro path onTheWay
    obtain ⟨rest, rfl⟩ := Path.startsWith_iff_extend.mp onTheWay
    rw [lookup?_update_above, Option.map_map]
    congr 1
    funext node
    exact touches.face_update node rest
  · intro path onTheWay different
    obtain ⟨rest, rfl⟩ := Path.startsWith_iff_extend.mp onTheWay
    cases rest with
    | nil => exact absurd (Path.extend_nil path).symm different
    | cons name rest =>
        rw [lookup?_update_above, Option.map_map]
        congr 1
        funext node
        exact Node.names_update_cons node name rest change

theorem confined_bind {name : String} {names : List String} (member : name ∈ names) (tree : Tree)
    (location : Path) (node : Node) : Confined location names tree (tree.bind location name node) :=
  confined_update (Node.touches_bind name node) member tree location _

theorem confined_unbind {name : String} {names : List String} (member : name ∈ names)
    (tree : Tree) (location : Path) : Confined location names tree (tree.unbind location name) :=
  confined_update (Node.touches_unbind name) member tree location _

theorem lookup?_unbind_beside {tree : Tree} {location path : Path} {name : String}
    (notAbove : ¬ location.startsWith path) (notBelow : ¬ path.startsWith (location.join name)) :
    (tree.unbind location name).lookup? path = tree.lookup? path := by
  have confined := confined_unbind (List.mem_singleton_self name) tree location
  apply confined.beside path notAbove
  intro other member
  rw [List.mem_singleton] at member
  rwa [member]

theorem confined_edit {name : String} {names : List String} (member : name ∈ names) (tree : Tree)
    (location : Path) (change : Attributes → Attributes) :
    Confined location names tree (tree.edit (location.join name) change) := by
  have sameTree : tree.edit (location.join name) change =
      tree.update location (·.update [name] (·.edit change))
        fun node => node.kind_update_cons name [] (·.edit change) := by
    apply ext
    exact Node.update_append tree.root location.segments [name] (·.edit change)
  rw [sameTree]
  exact confined_update (Node.touches_update name (·.edit change)) member tree location _

end Tree

end TeachingShell
