import TeachingShell.Interface
import TeachingShell.Names

/-!
Files and directories. A directory holds a finite set of names and one node for each of them, so two
directories with the same attributes are equal as soon as every look-up in them agrees.
-/

namespace TeachingShell

inductive Node where
  | file (attributes : Attributes) (content : String)
  | directory (attributes : Attributes) (names : Names)
      (child : (name : String) → name ∈ names → Node)

namespace Node

def attributesOf (permissions : String) (size : UInt64) (stamp : String) : Attributes :=
  ⟨permissions, "user", "user", size, stamp⟩

def newFile (content stamp : String) : Node :=
  file (attributesOf "-rw-r--r--" (UInt64.ofNat content.utf8ByteSize) stamp) content

def newDirectory (stamp : String) : Node :=
  directory (attributesOf "drwxr-xr-x" 4096 stamp) .empty fun name member =>
    absurd member (Names.not_mem_empty name)

instance : Inhabited Node := ⟨newDirectory ""⟩

def attributes : Node → Attributes
  | file attributes _ => attributes
  | directory attributes _ _ => attributes

def kind : Node → Kind
  | file .. => .file
  | directory .. => .directory

def isDirectory (node : Node) : Bool := node.kind == .directory

def isFile (node : Node) : Bool := node.kind == .file

def content? : Node → Option String
  | file _ content => some content
  | directory .. => none

def names : Node → Names
  | file .. => .empty
  | directory _ names _ => names

def isEmptyDirectory (node : Node) : Bool := node.isDirectory && node.names.isEmpty

def child? : Node → String → Option Node
  | file .., _ => none
  | directory _ names child, name =>
      if member : name ∈ names then some (child name member) else none

def children : Node → List (String × Node)
  | file .. => []
  | directory _ names child =>
      names.toList.pmap (fun name member => (name, child name member)) fun _ member => member

def entry (name : String) (node : Node) : Entry := ⟨name, node.kind, node.attributes⟩

def entries (node : Node) : List Entry :=
  node.children.map fun (name, child) => child.entry name

def edit (change : Attributes → Attributes) : Node → Node
  | file attributes content => file (change attributes) content
  | directory attributes names child => directory (change attributes) names child

def withSize (size : UInt64) : Node → Node := edit ({ · with size := size })

def restamp (stamp : String) : Node → Node := edit ({ · with modified := stamp })

def bind : Node → String → Node → Node
  | file attributes content, _, _ => file attributes content
  | directory attributes names child, name, node =>
      directory attributes (names.insert name) fun other member =>
        if equal : other = name then node
        else child other ((Names.mem_insert.mp member).resolve_left equal)

def unbind : Node → String → Node
  | file attributes content, _ => file attributes content
  | directory attributes names child, name =>
      directory attributes (names.erase name) fun other member =>
        child other (Names.mem_erase.mp member).1

@[simp] theorem attributes_edit (change : Attributes → Attributes) (node : Node) :
    (node.edit change).attributes = change node.attributes := by
  cases node <;> rfl

@[simp] theorem kind_edit (change : Attributes → Attributes) (node : Node) :
    (node.edit change).kind = node.kind := by
  cases node <;> rfl

@[simp] theorem content?_edit (change : Attributes → Attributes) (node : Node) :
    (node.edit change).content? = node.content? := by
  cases node <;> rfl

@[simp] theorem child?_edit (change : Attributes → Attributes) (node : Node) (name : String) :
    (node.edit change).child? name = node.child? name := by
  cases node <;> rfl

@[simp] theorem children_edit (change : Attributes → Attributes) (node : Node) :
    (node.edit change).children = node.children := by
  cases node <;> rfl

@[simp] theorem attributes_bind (node : Node) (name : String) (child : Node) :
    (node.bind name child).attributes = node.attributes := by
  cases node <;> rfl

@[simp] theorem content?_bind (node : Node) (name : String) (child : Node) :
    (node.bind name child).content? = node.content? := by
  cases node <;> rfl

@[simp] theorem kind_bind (node : Node) (name : String) (child : Node) :
    (node.bind name child).kind = node.kind := by
  cases node <;> rfl

theorem child?_bind {node : Node} (directory : node.isDirectory) (name other : String)
    (child : Node) :
    (node.bind name child).child? other = if other = name then some child else node.child? other := by
  cases node with
  | file => simp [isDirectory, kind] at directory
  | directory attributes names _ =>
      by_cases equal : other = name
      · simp [bind, child?, equal]
      · simp [bind, child?, equal]

@[simp] theorem attributes_unbind (node : Node) (name : String) :
    (node.unbind name).attributes = node.attributes := by
  cases node <;> rfl

@[simp] theorem content?_unbind (node : Node) (name : String) :
    (node.unbind name).content? = node.content? := by
  cases node <;> rfl

@[simp] theorem kind_unbind (node : Node) (name : String) :
    (node.unbind name).kind = node.kind := by
  cases node <;> rfl

theorem child?_unbind (node : Node) (name other : String) :
    (node.unbind name).child? other = if other = name then none else node.child? other := by
  cases node with
  | file => simp [unbind, child?]
  | directory attributes names child =>
      by_cases equal : other = name
      · simp [unbind, child?, equal]
      · simp [unbind, child?, equal]

theorem child?_eq_none_of_file {node : Node} (file : node.isFile) (name : String) :
    node.child? name = none := by
  cases node with
  | file => rfl
  | directory => simp [isFile, kind] at file

theorem child?_eq_none_of_isEmptyDirectory {node : Node} (empty : node.isEmptyDirectory)
    (name : String) : node.child? name = none := by
  cases node with
  | file => cases empty
  | directory attributes names child => exact dif_neg (Names.isEmpty_iff.mp empty name)

theorem child?_eq_some_iff {attributes : Attributes} {names : Names}
    {child : (name : String) → name ∈ names → Node} {name : String} {found : Node} :
    (directory attributes names child).child? name = some found ↔
      ∃ member : name ∈ names, child name member = found := by
  by_cases member : name ∈ names <;> simp [child?, member]

theorem eq_of_child? {left right : Node} (leftDirectory : left.isDirectory)
    (rightDirectory : right.isDirectory) (shown : left.attributes = right.attributes)
    (found : ∀ name, left.child? name = right.child? name) : left = right := by
  cases left with
  | file => simp [isDirectory, kind] at leftDirectory
  | directory leftAttributes leftNames leftChild =>
      cases right with
      | file => simp [isDirectory, kind] at rightDirectory
      | directory rightAttributes rightNames rightChild =>
          have sameNames : leftNames = rightNames := by
            refine Names.ext fun name => ?_
            have sameChild := found name
            by_cases inLeft : name ∈ leftNames <;> by_cases inRight : name ∈ rightNames <;>
              simp_all [child?]
          subst sameNames
          have sameChildren : leftChild = rightChild := by
            funext name member
            simpa [child?, member] using found name
          simp_all [attributes]

theorem lookup_pmap {names : Names} (child : (name : String) → name ∈ names → Node)
    (name : String) :
    ∀ (listed : List String) (known : ∀ other ∈ listed, other ∈ names),
      (listed.pmap (fun other member => (other, child other member)) known).lookup name =
        if member : name ∈ listed then some (child name (known name member)) else none
  | [], _ => rfl
  | first :: rest, known => by
      by_cases equal : name = first
      · subst equal
        simp
      · have rule := lookup_pmap child name rest fun other member =>
          known other (List.mem_cons_of_mem _ member)
        simp only [List.pmap, List.lookup_cons, beq_eq_false_iff_ne.mpr equal, rule]
        simp [equal]

theorem lookup_children (node : Node) (name : String) :
    node.children.lookup name = node.child? name := by
  cases node with
  | file => rfl
  | directory attributes names child => exact lookup_pmap child name names.toList _

theorem map_fst_children (node : Node) : node.children.map Prod.fst = node.names.toList := by
  cases node with
  | file => rfl
  | directory attributes names child => simp [children, Node.names, List.map_pmap]

theorem mem_children {node child : Node} {name : String} :
    (name, child) ∈ node.children ↔ node.child? name = some child := by
  cases node with
  | file => simp [children, child?]
  | directory attributes names childOf => simp [children, child?_eq_some_iff, Names.mem_def]

theorem nodup_children (node : Node) : node.children.Nodup := by
  have distinct : (node.children.map Prod.fst).Nodup := by
    rw [map_fst_children]
    exact node.names.nodup
  refine (List.pairwise_map.mp distinct).imp fun different same => ?_
  exact different (congrArg Prod.fst same)

/-- The same node with its children worked out and stored. -/
def stored : Node → Node
  | file attributes content => file attributes content
  | directory attributes names child =>
      let listed := (directory attributes names child).children
      directory attributes names fun name member =>
        (listed.lookup name).getD (child name member)

@[simp] theorem stored_eq (node : Node) : node.stored = node := by
  cases node with
  | file => rfl
  | directory attributes names child =>
      simp only [stored, directory.injEq, heq_eq_eq, true_and]
      funext name member
      simp [lookup_children, child?, member]

end Node

end TeachingShell
