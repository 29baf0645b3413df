import TeachingShell.Proofs.Lookups
import TeachingShell.Proofs.Runs
import TeachingShell.Tutorial

/-!
What every path finds after a change of the tree. Below the name that a change is about there is the
new node, or none; on the way to it the directories show what they showed; and no other path can tell
the two trees apart. A node is edited through a place of its own, which is found where the node is.
-/

namespace TeachingShell

/-- A node inside another one, and that other one with some node put where it is. -/
structure Place where
  node : Node
  put : Node → Node

namespace Node

def place? : Node → List String → Option Place
  | node, [] => some ⟨node, id⟩
  | file .., _ :: _ => none
  | directory attributes names child, name :: rest =>
      if member : name ∈ names then
        ((child name member).place? rest).map fun place =>
          ⟨place.node, fun other => (directory attributes names child).bind name (place.put other)⟩
      else none

@[simp] theorem place?_nil (node : Node) : node.place? [] = some ⟨node, id⟩ := by
  cases node <;> rfl

theorem place?_cons (node : Node) (name : String) (rest : List String) :
    node.place? (name :: rest) = (node.child? name).bind fun child =>
      (child.place? rest).map fun place =>
        ⟨place.node, fun other => node.bind name (place.put other)⟩ := by
  cases node with
  | file => rfl
  | directory attributes names child =>
      by_cases member : name ∈ names
      · simp [place?, child?, member]
      · simp [place?, child?, member]

theorem node_place? (node : Node) (way : List String) :
    (node.place? way).map Place.node = node.descend? way := by
  induction way generalizing node with
  | nil => rw [place?_nil, descend?_nil, Option.map_some]
  | cons name rest ih =>
      rw [place?_cons, descend?_cons]
      cases node.child? name with
      | none => rfl
      | some child =>
          rw [Option.bind_some, Option.bind_some, Option.map_map, ← ih child]
          rfl

theorem bind_update {node child : Node} {name : String} (found : node.child? name = some child)
    (rest : List String) (change : Node → Node) :
    node.bind name (child.update rest change) = node.update (name :: rest) change := by
  have directory : node.isDirectory := isDirectory_of_child? found
  apply eq_of_child?
  · rwa [isDirectory, kind_bind]
  · rwa [isDirectory, kind_update_cons]
  · rw [attributes_bind, attributes_update_cons]
  · intro other
    rw [child?_bind directory, child?_update_cons]
    by_cases own : other = name
    · rw [if_pos own, if_pos own, own, found, Option.map_some]
    · rw [if_neg own, if_neg own]

theorem put_place? {node : Node} {way : List String} {place : Place}
    (found : node.place? way = some place) (change : Node → Node) :
    place.put (change place.node) = node.update way change := by
  induction way generalizing node place with
  | nil =>
      rw [place?_nil, Option.some.injEq] at found
      rw [← found, update_nil]
      rfl
  | cons name rest ih =>
      rw [place?_cons] at found
      obtain ⟨child, present, further⟩ := Option.bind_eq_some_iff.mp found
      obtain ⟨inner, innerFound, rfl⟩ := Option.map_eq_some_iff.mp further
      rw [← bind_update present, ← ih innerFound]

end Node

namespace Tree

def place? (tree : Tree) (path : Path) : Option Place := tree.root.place? path.segments

theorem node_place? (tree : Tree) (path : Path) :
    (tree.place? path).map Place.node = tree.lookup? path :=
  tree.root.node_place? path.segments

theorem root_edit? (tree : Tree) (path : Path) (change : Attributes → Attributes) :
    (tree.edit? path change).map root =
      (tree.place? path).map fun place => place.put (place.node.edit change) := by
  have same := tree.node_place? path
  unfold edit?
  cases place : tree.place? path with
  | none =>
      rw [place, Option.map_none] at same
      rw [← same]
      rfl
  | some there =>
      rw [place, Option.map_some] at same
      rw [← same, Option.isSome_some, if_pos rfl, Option.map_some, Option.map_some,
        Node.put_place? place (·.edit change)]
      rfl

end Tree

structure StaysDirectory (before after : Tree) (path : Path) : Prop where
  was : before.IsDirectory path
  still : after.IsDirectory path
  attributes :
    (after.lookup? path).map Node.attributes = (before.lookup? path).map Node.attributes

namespace StaysDirectory

variable {before middle after : Tree} {path : Path}

theorem trans (first : StaysDirectory before middle path)
    (second : StaysDirectory middle after path) : StaysDirectory before after path :=
  ⟨first.was, second.still, second.attributes.trans first.attributes⟩

theorem of_same (directory : before.IsDirectory path)
    (same : after.lookup? path = before.lookup? path) : StaysDirectory before after path := by
  obtain ⟨node, found, holds⟩ := directory
  exact ⟨⟨node, found, holds⟩, ⟨node, same.trans found, holds⟩, by rw [same]⟩

theorem of_confined {location : Path} {names : List String}
    (confined : Confined location names before after) (onTheWay : location.startsWith path)
    (directory : before.IsDirectory path) : StaysDirectory before after path := by
  refine ⟨directory, confined.isDirectory onTheWay directory, ?_⟩
  have shown := congrArg (Option.map Prod.snd) (confined.above path onTheWay)
  rwa [Option.map_map, Option.map_map] at shown

end StaysDirectory

/-- A name in a directory stands for another node than before, or for none, and nothing else has
changed. -/
structure Rebound (parent : Path) (name : String) (child : Option Node) (before after : Tree) :
    Prop where
  below : ∀ rest, after.lookup? ((parent.join name).extend rest) = child.bind (·.descend? rest)
  beside : ∀ path : Path, ¬ path.startsWith (parent.join name) → ¬ parent.startsWith path →
    after.lookup? path = before.lookup? path
  above : ∀ path : Path, parent.startsWith path → StaysDirectory before after path

theorem Rebound.of_confined {parent : Path} {name : String} {child : Option Node}
    {before after : Tree} (confined : Confined parent [name] before after)
    (directory : before.IsDirectory parent) (bound : after.lookup? (parent.join name) = child) :
    Rebound parent name child before after := by
  constructor
  · intro rest
    rw [Tree.lookup?_extend, bound]
  · intro path notBelow notAbove
    refine confined.beside path notAbove fun other member => ?_
    rwa [List.mem_singleton.mp member]
  · intro path onTheWay
    exact .of_confined confined onTheWay (directory.above onTheWay)

theorem Rebound.staysDirectory {parent path : Path} {name : String} {child : Option Node}
    {before after : Tree} (rebound : Rebound parent name child before after)
    (directory : before.IsDirectory path) (notBelow : ¬ path.startsWith (parent.join name)) :
    StaysDirectory before after path := by
  by_cases onTheWay : parent.startsWith path = true
  · exact rebound.above path onTheWay
  · exact .of_same directory (rebound.beside path notBelow onTheWay)

/-- The node at a path shows other attributes and is otherwise the same, and so is all that is not on
the way to it. -/
structure Edited (path : Path) (change : Attributes → Attributes) (before after : Tree) : Prop where
  there : ∃ old new, before.lookup? path = some old ∧ after.lookup? path = some new ∧
    new.attributes = change old.attributes ∧ new.children = old.children ∧
    new.kind = old.kind ∧ new.content? = old.content?
  elsewhere : ∀ other : Path, ¬ path.startsWith other → after.lookup? other = before.lookup? other

namespace Tree

section

variable {tree : Tree} {parent : Path} {name : String}

theorem rebound_bind (directory : tree.IsDirectory parent) (name : String) (node : Node) :
    Rebound parent name (some node) tree (tree.bind parent name node) := by
  have confined := confined_bind (List.mem_singleton_self name) tree parent node
  refine .of_confined confined directory ?_
  rw [lookup?_bind_join directory, if_pos rfl]

theorem rebound_unbind (directory : tree.IsDirectory parent) (name : String) :
    Rebound parent name none tree (tree.unbind parent name) := by
  have confined := confined_unbind (List.mem_singleton_self name) tree parent
  refine .of_confined confined directory ?_
  rw [lookup?_unbind_join, if_pos rfl]

end

theorem lookup?_edit_elsewhere {path other : Path} (elsewhere : ¬ path.startsWith other)
    (tree : Tree) (change : Attributes → Attributes) :
    (tree.edit path change).lookup? other = tree.lookup? other := by
  simp only [Path.startsWith_iff] at elsewhere
  exact Node.descend?_update_elsewhere elsewhere
    (fun name _ _ node => node.child?_edit change name) tree.root

theorem edited_of_edit? {tree after : Tree} {path : Path} {change : Attributes → Attributes}
    (edited : tree.edit? path change = some after) : Edited path change tree after := by
  unfold edit? at edited
  cases found : tree.lookup? path with
  | none => simp [found] at edited
  | some node =>
      simp only [found, Option.isSome_some, if_true, Option.some.injEq] at edited
      subst edited
      constructor
      · refine ⟨node, node.edit change, found, ?_, ?_⟩
        · have there := lookup?_update tree path (·.edit change) fun node => node.kind_edit change
          rwa [found, Option.map_some] at there
        · exact ⟨Node.attributes_edit change node, Node.children_edit change node,
            Node.kind_edit change node, Node.content?_edit change node⟩
      · intro other elsewhere
        exact lookup?_edit_elsewhere elsewhere tree change

end Tree

def Change.Refused (tree : Tree) : Change → Prop
  | insert parent name node => ∃ failure, tree.insert parent name node = .error failure
  | remove parent name => ∃ failure, tree.remove parent name = .error failure
  | replace parent name node => ∃ failure, tree.replace parent name node = .error failure
  | move source destination => ∃ failure, (tree.relocate source destination).1 = .error failure
  | edit path change => tree.edit? path change = none

theorem Change.apply_of_refused {tree : Tree} {change : Change} (refused : change.Refused tree) :
    change.apply tree = tree := by
  cases change with
  | insert parent name node =>
      obtain ⟨failure, failed⟩ := refused
      simp only [apply, failed]
  | remove parent name =>
      obtain ⟨failure, failed⟩ := refused
      simp only [apply, failed]
  | replace parent name node =>
      obtain ⟨failure, failed⟩ := refused
      simp only [apply, failed]
  | move source destination =>
      obtain ⟨failure, failed⟩ := refused
      exact Tree.tree_of_relocate_error failed
  | edit path change =>
      have nothing : tree.edit? path change = none := refused
      simp only [apply, nothing, Option.getD_none]

namespace Tree

variable {tree : Tree} {parent : Path} {name : String} {node : Node}

theorem exists_insert_iff :
    (∃ after, tree.insert parent name node = .ok after) ↔
      isName name ∧ tree.IsDirectory parent ∧ tree.lookup? (parent.join name) = none := by
  simp only [insert_eq_ok_iff]
  constructor
  · rintro ⟨after, valid, directory, free, _⟩
    exact ⟨valid, directory, free⟩
  · rintro ⟨valid, directory, free⟩
    exact ⟨_, valid, directory, free, rfl⟩

theorem rebound_of_insert {after : Tree} (done : tree.insert parent name node = .ok after) :
    Rebound parent name (some node) tree after := by
  obtain ⟨_, directory, _, rfl⟩ := insert_eq_ok_iff.mp done
  exact rebound_bind directory name node

theorem exists_replace_iff :
    (∃ old after, tree.replace parent name node = .ok (old, after)) ↔
      isName name ∧ tree.IsDirectory parent := by
  simp only [replace_eq_ok_iff]
  constructor
  · rintro ⟨old, after, valid, directory, _⟩
    exact ⟨valid, directory⟩
  · rintro ⟨valid, directory⟩
    exact ⟨_, _, valid, directory, rfl, rfl⟩

theorem rebound_of_replace {old : Option Node} {after : Tree}
    (done : tree.replace parent name node = .ok (old, after)) :
    old = tree.lookup? (parent.join name) ∧ Rebound parent name (some node) tree after := by
  obtain ⟨_, directory, found, rfl⟩ := replace_eq_ok_iff.mp done
  exact ⟨found, rebound_bind directory name node⟩

theorem exists_remove_iff :
    (∃ old after, tree.remove parent name = .ok (old, after)) ↔
      tree.IsDirectory parent ∧ ∃ old, tree.lookup? (parent.join name) = some old := by
  simp only [remove_eq_ok_iff]
  constructor
  · rintro ⟨old, after, found, _⟩
    exact ⟨isDirectory_of_lookup?_join found, old, found⟩
  · rintro ⟨_, old, found⟩
    exact ⟨old, _, found, rfl⟩

theorem rebound_of_remove {old : Node} {after : Tree}
    (done : tree.remove parent name = .ok (old, after)) :
    tree.lookup? (parent.join name) = some old ∧ Rebound parent name none tree after := by
  obtain ⟨found, rfl⟩ := remove_eq_ok_iff.mp done
  exact ⟨found, rebound_unbind (isDirectory_of_lookup?_join found) name⟩

/-- When the changes of one child are made, what they answer and what every path finds after them; that
a refused change leaves the tree as it was; and that a node is edited in a place which is found just
where the node is, so that the edit is seen there and nowhere but on the way there. -/
theorem changes_seen_by_lookup (tree : Tree) (parent : Path) (name : String) (node : Node) :
    ((∃ after, tree.insert parent name node = .ok after) ↔
        isName name ∧ tree.IsDirectory parent ∧ tree.lookup? (parent.join name) = none) ∧
      (∀ after, tree.insert parent name node = .ok after →
        Rebound parent name (some node) tree after) ∧
      ((∃ old after, tree.replace parent name node = .ok (old, after)) ↔
        isName name ∧ tree.IsDirectory parent) ∧
      (∀ old after, tree.replace parent name node = .ok (old, after) →
        old = tree.lookup? (parent.join name) ∧ Rebound parent name (some node) tree after) ∧
      ((∃ old after, tree.remove parent name = .ok (old, after)) ↔
        tree.IsDirectory parent ∧ ∃ old, tree.lookup? (parent.join name) = some old) ∧
      (∀ old after, tree.remove parent name = .ok (old, after) →
        tree.lookup? (parent.join name) = some old ∧ Rebound parent name none tree after) ∧
      (∀ change : Change, change.Refused tree → change.apply tree = tree) ∧
      (∀ path, (tree.place? path).map Place.node = tree.lookup? path) ∧
      (∀ path change, (tree.edit? path change).map root =
        (tree.place? path).map fun place => place.put (place.node.edit change)) ∧
      ∀ path change after, tree.edit? path change = some after → Edited path change tree after := by
  refine ⟨exists_insert_iff, ?_, exists_replace_iff, ?_, exists_remove_iff, ?_, ?_, ?_, ?_, ?_⟩
  · exact fun _ done => rebound_of_insert done
  · exact fun _ _ done => rebound_of_replace done
  · exact fun _ _ done => rebound_of_remove done
  · exact fun _ refused => Change.apply_of_refused refused
  · exact node_place? tree
  · exact root_edit? tree
  · exact fun _ _ _ edited => edited_of_edit? edited

theorem changes_seen_by_lookup_tutorial :
    (∃ after, (Tutorial.tree "").insert ⟨["home", "user"]⟩ "new" (.newDirectory "") = .ok after ∧
        Rebound ⟨["home", "user"]⟩ "new" (some (.newDirectory "")) (Tutorial.tree "") after) ∧
      (∃ old after, (Tutorial.tree "").replace ⟨["home", "user"]⟩ "projects" (.newFile "" "") =
          .ok (some old, after) ∧
        Rebound ⟨["home", "user"]⟩ "projects" (some (.newFile "" "")) (Tutorial.tree "") after) ∧
      (∃ old after, (Tutorial.tree "").remove ⟨["home", "user"]⟩ "projects" = .ok (old, after) ∧
        Rebound ⟨["home", "user"]⟩ "projects" none (Tutorial.tree "") after) ∧
      Change.apply (Tutorial.tree "") (.insert ⟨["home", "user"]⟩ ".." (.newDirectory "")) =
        Tutorial.tree "" ∧
      ∃ after, (Tutorial.tree "").edit? ⟨["home"]⟩ ({ · with owner := "root" }) = some after ∧
        Edited ⟨["home"]⟩ ({ · with owner := "root" }) (Tutorial.tree "") after := by
  have home : (Tutorial.tree "").IsDirectory ⟨["home", "user"]⟩ := ⟨_, rfl, rfl⟩
  obtain ⟨insertable, inserted, -, -, -, -, unchanged, -, -, edited⟩ :=
    changes_seen_by_lookup (Tutorial.tree "") ⟨["home", "user"]⟩ "new" (.newDirectory "")
  obtain ⟨-, -, -, replaced, removable, removed, -⟩ :=
    changes_seen_by_lookup (Tutorial.tree "") ⟨["home", "user"]⟩ "projects" (.newFile "" "")
  refine ⟨?_, ?_, ?_, ?_, ?_⟩
  · obtain ⟨after, done⟩ := insertable.mpr ⟨by decide, home, rfl⟩
    exact ⟨after, done, inserted after done⟩
  · exact ⟨_, _, rfl, (replaced _ _ rfl).2⟩
  · obtain ⟨old, after, done⟩ := removable.mpr ⟨home, _, rfl⟩
    exact ⟨old, after, done, (removed old after done).2⟩
  · exact unchanged _ ⟨_, rfl⟩
  · exact ⟨_, rfl, edited _ _ _ rfl⟩

end Tree

end TeachingShell
