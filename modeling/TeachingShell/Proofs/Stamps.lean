import TeachingShell.Proofs.Lookups
import TeachingShell.Tutorial

/-!
A tree without its stamps. Taking the stamps away commutes with everything that is done to a tree, and
what is left still says where every way leads.
-/

namespace TeachingShell

def Attributes.unstamped (attributes : Attributes) : Attributes := { attributes with modified := "" }

def Entry.unstamped (entry : Entry) : Entry :=
  { entry with attributes := entry.attributes.unstamped }

namespace Node

def unstamped : Node → Node
  | file attributes content => file attributes.unstamped content
  | directory attributes names child =>
      directory attributes.unstamped names fun name member => (child name member).unstamped

@[simp] theorem attributes_unstamped (node : Node) :
    node.unstamped.attributes = node.attributes.unstamped := by
  cases node <;> rfl

@[simp] theorem kind_unstamped (node : Node) : node.unstamped.kind = node.kind := by
  cases node <;> rfl

@[simp] theorem isDirectory_unstamped (node : Node) :
    node.unstamped.isDirectory = node.isDirectory := by
  cases node <;> rfl

@[simp] theorem isFile_unstamped (node : Node) : node.unstamped.isFile = node.isFile := by
  cases node <;> rfl

@[simp] theorem isEmptyDirectory_unstamped (node : Node) :
    node.unstamped.isEmptyDirectory = node.isEmptyDirectory := by
  cases node <;> rfl

@[simp] theorem content?_unstamped (node : Node) : node.unstamped.content? = node.content? := by
  cases node <;> rfl

theorem seen_of_unstamped {α : Type} {see : Node → α}
    (blind : ∀ node : Node, see node.unstamped = see node) {node other : Node}
    (same : node.unstamped = other.unstamped) : see node = see other := by
  rw [← blind node, same, blind other]

theorem child?_unstamped (node : Node) (name : String) :
    node.unstamped.child? name = (node.child? name).map unstamped := by
  cases node with
  | file => rfl
  | directory attributes names child =>
      by_cases member : name ∈ names
      · simp [unstamped, child?, member]
      · simp [unstamped, child?, member]

theorem descend?_unstamped (node : Node) (way : List String) :
    node.unstamped.descend? way = (node.descend? way).map unstamped := by
  induction way generalizing node with
  | nil => rw [descend?_nil, descend?_nil, Option.map_some]
  | cons name way ih =>
      rw [descend?_cons, descend?_cons, child?_unstamped]
      cases node.child? name with
      | none => rfl
      | some child => exact ih child

theorem unstamped_bind (node : Node) (name : String) (child : Node) :
    (node.bind name child).unstamped = node.unstamped.bind name child.unstamped := by
  cases node with
  | file => rfl
  | directory attributes names children =>
      refine eq_of_child? rfl rfl rfl fun other => ?_
      rw [child?_unstamped, child?_bind rfl, child?_bind rfl, child?_unstamped]
      split <;> rfl

theorem unstamped_unbind (node : Node) (name : String) :
    (node.unbind name).unstamped = node.unstamped.unbind name := by
  cases node with
  | file => rfl
  | directory attributes names children =>
      refine eq_of_child? rfl rfl rfl fun other => ?_
      rw [child?_unstamped, child?_unbind, child?_unbind, child?_unstamped]
      split <;> rfl

@[simp] theorem unstamped_restamp (node : Node) (stamp : String) :
    (node.restamp stamp).unstamped = node.unstamped := by
  cases node <;> rfl

theorem restamp_unstamped (node : Node) : node.unstamped.restamp "" = node.unstamped := by
  cases node <;> rfl

theorem unstamped_update {change other : Node → Node}
    (same : ∀ node, (change node).unstamped = other node.unstamped) (node : Node)
    (way : List String) : (node.update way change).unstamped = node.unstamped.update way other := by
  induction way generalizing node with
  | nil => rw [update_nil, update_nil, same]
  | cons name way ih =>
      cases node with
      | file => rfl
      | directory attributes names child =>
          refine eq_of_child? ?_ ?_ ?_ fun sibling => ?_
          · rw [isDirectory_unstamped, isDirectory, kind_update_cons]
            rfl
          · rw [isDirectory, kind_update_cons]
            rfl
          · rw [attributes_unstamped, attributes_update_cons, attributes_update_cons]
            rfl
          · rw [child?_unstamped, child?_update_cons, child?_update_cons, child?_unstamped]
            split
            · rw [Option.map_map, Option.map_map]
              congr 1
              funext found
              exact ih found
            · rfl

theorem unstamped_newDirectory (stamp : String) :
    (newDirectory stamp).unstamped = newDirectory "" := by
  refine eq_of_child? rfl rfl rfl fun name => ?_
  rw [child?_unstamped]
  rfl

theorem unstamped_newFile (content stamp : String) :
    (newFile content stamp).unstamped = newFile content "" := rfl

theorem entries_unstamped (node : Node) :
    node.unstamped.entries = node.entries.map Entry.unstamped := by
  cases node with
  | file => rfl
  | directory attributes names child =>
      simp only [unstamped, entries, children, List.map_pmap]
      refine List.pmap_congr_left _ fun name _ member _ => ?_
      simp [entry, Entry.unstamped]

end Node

namespace Tree

def unstamped (tree : Tree) : Tree where
  root := tree.root.unstamped
  rooted := by
    rw [Node.isDirectory_unstamped]
    exact tree.rooted

theorem lookup?_unstamped (tree : Tree) (path : Path) :
    tree.unstamped.lookup? path = (tree.lookup? path).map Node.unstamped :=
  tree.root.descend?_unstamped path.segments

theorem unstamped_bind (tree : Tree) (parent : Path) (name : String) (node : Node) :
    (tree.bind parent name node).unstamped = tree.unstamped.bind parent name node.unstamped :=
  Tree.ext (Node.unstamped_update (fun found => found.unstamped_bind name node) tree.root _)

theorem unstamped_unbind (tree : Tree) (parent : Path) (name : String) :
    (tree.unbind parent name).unstamped = tree.unstamped.unbind parent name :=
  Tree.ext (Node.unstamped_update (fun found => found.unstamped_unbind name) tree.root _)

theorem unstamped_restamp (tree : Tree) (path : Path) (stamp : String) :
    (tree.restamp path stamp).unstamped = tree.unstamped.restamp path "" := by
  refine Tree.ext (Node.unstamped_update (fun found => ?_) tree.root _)
  exact (found.unstamped_restamp stamp).trans found.restamp_unstamped.symm

theorem unstamped_new (stamp : String) : (new stamp).unstamped = new "" :=
  Tree.ext (Node.unstamped_newDirectory stamp)

end Tree

namespace Tutorial

theorem unstamped_folder (stamp : String) (children : List (String × Node)) :
    (folder stamp children).unstamped =
      folder "" (children.map fun (name, child) => (name, child.unstamped)) := by
  suffices ∀ node : Node,
      (children.foldl (fun directory (name, child) => directory.bind name child) node).unstamped =
        (children.map fun (name, child) => (name, child.unstamped)).foldl
          (fun directory (name, child) => directory.bind name child) node.unstamped by
    rw [folder, this, Node.unstamped_newDirectory, folder]
  induction children with
  | nil => exact fun node => rfl
  | cons first rest ih =>
      intro node
      rw [List.foldl_cons, ih, Node.unstamped_bind, List.map_cons, List.foldl_cons]

theorem unstamped_tree (stamp other : String) : (tree stamp).unstamped = (tree other).unstamped := by
  refine Tree.ext ?_
  simp only [Tree.unstamped, tree, root, home, documents, blog, game, unstamped_folder,
    List.map_cons, List.map_nil]

end Tutorial

end TeachingShell
