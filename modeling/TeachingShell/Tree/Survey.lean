import TeachingShell.Tree.Basic

/-!
All nodes at and below a place. A survey has each of them with its path: a directory comes before its
children, and these in the order of their names. What holds throughout a tree holds of every node
below the root, by its name and by what it shows.
-/

namespace TeachingShell

def Node.survey : Node → Path → List (Path × Node)
  | file attributes content, path => [(path, file attributes content)]
  | directory attributes names child, path =>
      (path, directory attributes names child) ::
        (names.toList.pmap (fun name member => (child name member).survey (path.join name))
          fun _ member => member).flatten

def Tree.survey (tree : Tree) : List (Path × Node) := tree.root.survey .root

variable {holds : String → Attributes × Option String → Prop}

namespace Node

/-- All that a node shows of itself: its attributes, and its content unless it is a directory. -/
def label (node : Node) : Attributes × Option String := (node.attributes, node.content?)

def Throughout (holds : String → Attributes × Option String → Prop) : Node → Prop
  | file _ _ => True
  | directory _ names child => ∀ name (member : name ∈ names),
      holds name (child name member).label ∧ (child name member).Throughout holds

theorem throughout_iff {node : Node} :
    node.Throughout holds ↔
      ∀ name child, node.child? name = some child →
        holds name child.label ∧ child.Throughout holds := by
  cases node with
  | file => simp [Throughout, child?]
  | directory attributes names child =>
      constructor
      · intro whole name found present
        obtain ⟨member, rfl⟩ := child?_eq_some_iff.mp present
        exact whole name member
      · intro whole name member
        exact whole name _ (child?_eq_some_iff.mpr ⟨member, rfl⟩)

theorem throughout_newDirectory (stamp : String) : (newDirectory stamp).Throughout holds :=
  fun name member => absurd member (Names.not_mem_empty name)

theorem Throughout.bind {node child : Node} {name : String} (whole : node.Throughout holds)
    (own : holds name child.label) (below : child.Throughout holds) :
    (node.bind name child).Throughout holds := by
  cases node with
  | file => exact whole
  | directory attributes names children =>
      rw [throughout_iff] at whole ⊢
      intro other found present
      rw [child?_bind rfl] at present
      by_cases same : other = name
      · rw [if_pos same, Option.some.injEq] at present
        subst same present
        exact ⟨own, below⟩
      · rw [if_neg same] at present
        exact whole other found present

theorem Throughout.unbind {node : Node} (whole : node.Throughout holds) (name : String) :
    (node.unbind name).Throughout holds := by
  rw [throughout_iff] at whole ⊢
  intro other found present
  rw [child?_unbind] at present
  by_cases same : other = name
  · rw [if_pos same] at present
    cases present
  · rw [if_neg same] at present
    exact whole other found present

theorem Throughout.edit {node : Node} (whole : node.Throughout holds)
    (change : Attributes → Attributes) : (node.edit change).Throughout holds := by
  rw [throughout_iff] at whole ⊢
  intro name found present
  rw [child?_edit] at present
  exact whole name found present

theorem label_update_cons (node : Node) (name : String) (rest : List String)
    (change : Node → Node) : (node.update (name :: rest) change).label = node.label := by
  rw [label, label, attributes_update_cons, content?_update_cons]

theorem Throughout.update {node : Node} (whole : node.Throughout holds) {change : Node → Node}
    (label : ∀ name node, holds name node.label → holds name (change node).label)
    (below : ∀ node : Node, node.Throughout holds → (change node).Throughout holds)
    (way : List String) : (node.update way change).Throughout holds := by
  induction way generalizing node with
  | nil =>
      rw [update_nil]
      exact below node whole
  | cons name way ih =>
      rw [throughout_iff] at whole ⊢
      intro other found present
      rw [child?_update_cons] at present
      by_cases same : other = name
      · -- The child on the way: its label changes only if the way ends with it.
        rw [if_pos same, Option.map_eq_some_iff] at present
        obtain ⟨child, present, rfl⟩ := present
        obtain ⟨own, inside⟩ := whole other child present
        refine ⟨?_, ih inside⟩
        cases way with
        | nil =>
            rw [update_nil]
            exact label other child own
        | cons next rest => rwa [label_update_cons]
      · rw [if_neg same] at present
        exact whole other found present

theorem Throughout.descend {node found : Node} (whole : node.Throughout holds) {way : List String}
    (reached : node.descend? way = some found) : found.Throughout holds := by
  induction way generalizing node with
  | nil =>
      rw [descend?_nil, Option.some.injEq] at reached
      rwa [← reached]
  | cons name way ih =>
      rw [descend?_cons] at reached
      obtain ⟨child, present, below⟩ := Option.bind_eq_some_iff.mp reached
      exact ih (throughout_iff.mp whole name child present).2 below

theorem throughout_iff_descend? {node : Node} :
    node.Throughout holds ↔ ∀ way name found,
      node.descend? (way ++ [name]) = some found → holds name found.label := by
  constructor
  · intro whole way name found reached
    rw [descend?_append] at reached
    obtain ⟨parent, above, below⟩ := Option.bind_eq_some_iff.mp reached
    rw [descend?_cons] at below
    obtain ⟨child, present, here⟩ := Option.bind_eq_some_iff.mp below
    rw [descend?_nil, Option.some.injEq] at here
    subst here
    exact (throughout_iff.mp (whole.descend above) name child present).1
  · intro everywhere
    induction node with
    | file => trivial
    | directory attributes names child ih =>
        intro name member
        have present : (directory attributes names child).child? name = some (child name member) :=
          child?_eq_some_iff.mpr ⟨member, rfl⟩
        constructor
        · refine everywhere [] name _ ?_
          rw [List.nil_append, descend?_cons, present, Option.bind_some, descend?_nil]
        · refine ih name member fun way other found reached => everywhere (name :: way) other found ?_
          rw [List.cons_append, descend?_cons, present, Option.bind_some, reached]

end Node

namespace Tree

def Throughout (holds : String → Attributes × Option String → Prop) (tree : Tree) : Prop :=
  tree.root.Throughout holds

theorem Throughout.lookup? {tree : Tree} (whole : tree.Throughout holds) {path : Path}
    {name : String} {node : Node} (found : tree.lookup? (path.join name) = some node) :
    holds name node.label ∧ node.Throughout holds := by
  rw [lookup?_join] at found
  obtain ⟨directory, here, child⟩ := Option.bind_eq_some_iff.mp found
  exact Node.throughout_iff.mp (Node.Throughout.descend whole here) name node child

theorem throughout_iff_lookup? {tree : Tree} :
    tree.Throughout holds ↔ ∀ (path : Path) name node,
      tree.lookup? (path.join name) = some node → holds name node.label := by
  rw [Throughout, Node.throughout_iff_descend?]
  constructor
  · intro everywhere path
    exact everywhere path.segments
  · intro everywhere way
    exact everywhere ⟨way⟩

theorem Throughout.of_mem_segments {tree : Tree} (whole : tree.Throughout holds) {path : Path}
    {node : Node} (found : tree.lookup? path = some node) {name : String}
    (member : name ∈ path.segments) : ∃ label, holds name label := by
  obtain ⟨above, below, segments⟩ := List.append_of_mem member
  rw [Tree.lookup?, segments, List.append_cons, Node.descend?_append] at found
  obtain ⟨child, reached, -⟩ := Option.bind_eq_some_iff.mp found
  exact ⟨child.label, Node.throughout_iff_descend?.mp whole above name child reached⟩

theorem Throughout.label {tree : Tree} (whole : tree.Throughout holds)
    {look : Attributes × Option String → Prop} (root : look tree.root.label)
    (child : ∀ name label, holds name label → look label) {path : Path} {node : Node}
    (found : tree.lookup? path = some node) : look node.label := by
  cases place : path.split? with
  | none =>
      obtain rfl := Path.split?_eq_none_iff.mp place
      rw [lookup?_root, Option.some.injEq] at found
      exact found ▸ root
  | some parts =>
      obtain ⟨parent, name⟩ := parts
      obtain rfl := Path.split?_eq_some_iff.mp place
      exact child name node.label (whole.lookup? found).1

theorem Throughout.bind {tree : Tree} (whole : tree.Throughout holds) (parent : Path)
    {name : String} {node : Node} (own : holds name node.label) (below : node.Throughout holds) :
    (tree.bind parent name node).Throughout holds := by
  refine Node.Throughout.update whole (fun other found kept => ?_)
    (fun found inside => inside.bind own below) parent.segments
  rwa [Node.label, Node.attributes_bind, Node.content?_bind]

theorem Throughout.unbind {tree : Tree} (whole : tree.Throughout holds) (parent : Path)
    (name : String) : (tree.unbind parent name).Throughout holds := by
  refine Node.Throughout.update whole (fun other found kept => ?_)
    (fun found inside => inside.unbind name) parent.segments
  rwa [Node.label, Node.attributes_unbind, Node.content?_unbind]

theorem Throughout.edit {tree : Tree} (whole : tree.Throughout holds) (path : Path)
    {change : Attributes → Attributes}
    (label : ∀ name attributes content, holds name (attributes, content) →
      holds name (change attributes, content)) : (tree.edit path change).Throughout holds := by
  refine Node.Throughout.update whole (fun name found kept => ?_)
    (fun found inside => inside.edit change) path.segments
  rw [Node.label, Node.attributes_edit, Node.content?_edit]
  exact label name found.attributes found.content? kept

end Tree

end TeachingShell
