import TeachingShell.Interface
import TeachingShell.Node.Descent
import TeachingShell.Path.Basic

/-!
The tree of files and directories. Its root is a directory, whatever happens to the nodes below. Every
change goes through a directory that exists; none creates the directories on the way. A failure
names the absolute path that it is about.
-/

namespace TeachingShell

structure Tree where
  root : Node
  rooted : root.isDirectory

namespace Tree

theorem ext {left right : Tree} (same : left.root = right.root) : left = right := by
  cases left
  cases right
  simp_all

def new (stamp : String) : Tree := ⟨.newDirectory stamp, rfl⟩

instance : Inhabited Tree := ⟨new ""⟩

def ofRoot (root : Node) : Except Failure Tree :=
  if rooted : root.isDirectory then .ok ⟨root, rooted⟩ else .error (.on .notDirectory "/")

def lookup? (tree : Tree) (path : Path) : Option Node := tree.root.descend? path.segments

def stat (tree : Tree) (path : Path) : Except Failure Node :=
  match tree.lookup? path with
  | some node => .ok node
  | none => .error (.on .notFound path.display)

def directory (tree : Tree) (path : Path) : Except Failure Node := do
  let node ← tree.stat path
  if node.isDirectory then .ok node else .error (.on .notDirectory path.display)

def list (tree : Tree) (path : Path) : Except Failure (List Entry) := do
  let directory ← tree.directory path
  .ok directory.entries

/-- Goes up from a path until it names a directory. The way up ends at the root in any case. -/
-- Not irreducible, so that what a line does to a lost location can be evaluated.
@[semireducible] def ascend (tree : Tree) (path : Path) : Path :=
  match tree.directory path with
  | .ok _ => path
  | .error _ =>
      match _ : path.parent? with
      | some parent => tree.ascend parent
      | none => path
termination_by path.length
decreasing_by exact Path.length_lt_of_parent? ‹_›

def isName (name : String) : Bool :=
  name ≠ "" && name ≠ "." && name ≠ ".." && !name.toList.contains '/'

def checkName (name : String) : Except Failure Unit :=
  if isName name then .ok () else .error (.on .badName name)

def update (tree : Tree) (path : Path) (change : Node → Node)
    (keeps : ∀ node, (change node).kind = node.kind) : Tree where
  root := tree.root.update path.segments change
  rooted := by
    have rooted := tree.rooted
    rwa [Node.isDirectory, Node.kind_update keeps]

def bind (tree : Tree) (parent : Path) (name : String) (node : Node) : Tree :=
  tree.update parent (·.bind name node) fun directory => directory.kind_bind name node

def unbind (tree : Tree) (parent : Path) (name : String) : Tree :=
  tree.update parent (·.unbind name) fun directory => directory.kind_unbind name

def insert (tree : Tree) (parent : Path) (name : String) (node : Node) : Except Failure Tree := do
  checkName name
  let directory ← tree.directory parent
  match directory.child? name with
  | some _ => .error (.on .alreadyExists (parent.join name).display)
  | none => .ok (tree.bind parent name node)

def remove (tree : Tree) (parent : Path) (name : String) : Except Failure (Node × Tree) := do
  let directory ← tree.directory parent
  match directory.child? name with
  | some node => .ok (node, tree.unbind parent name)
  | none => .error (.on .notFound (parent.join name).display)

def replace (tree : Tree) (parent : Path) (name : String) (node : Node) :
    Except Failure (Option Node × Tree) := do
  checkName name
  let directory ← tree.directory parent
  .ok (directory.child? name, tree.bind parent name node)

/-- What a move asks before it touches the tree, in the order in which it complains. -/
def checkMove (tree : Tree) (source destination parent : Path) (name : String) :
    Except Failure Unit := do
  let _ ← tree.stat source
  checkName name
  if (tree.lookup? destination).isSome then
    .error (.on .alreadyExists destination.display)
  else if destination.startsWith source then
    .error (.on .wouldCycle destination.display)
  else
    let _ ← tree.directory parent
    .ok ()

/-- Attaches a node that was taken out. A node that the new place refuses goes back to its old
name, and is lost if that is refused too. Answers the tree that is left. -/
def attach (detached : Tree) (oldParent : Path) (oldName : String) (parent : Path) (name : String)
    (node : Node) : Except Failure Unit × Tree :=
  match detached.insert parent name node with
  | .ok tree => (.ok (), tree)
  | .error failure =>
      match detached.replace oldParent oldName node with
      | .ok (_, tree) => (.error failure, tree)
      | .error refusal => (.error refusal, detached)

/-- Moves the node at one path to another, where nothing may be. Its whole content goes along, so the
new place cannot lie inside it. The node is taken out before it is attached; the tree that is left
is answered with a failure as well. -/
def relocate (tree : Tree) (source destination : Path) : Except Failure Unit × Tree :=
  match source.split?, destination.split? with
  | none, _ => (.error (.on .wouldCycle source.display), tree)
  | some _, none => (.error (.on .alreadyExists destination.display), tree)
  | some (oldParent, oldName), some (parent, name) =>
      match tree.checkMove source destination parent name with
      | .error failure => (.error failure, tree)
      | .ok () =>
          match tree.remove oldParent oldName with
          | .error failure => (.error failure, tree)
          | .ok (node, detached) => detached.attach oldParent oldName parent name node

def move (tree : Tree) (source destination : Path) : Except Failure Tree :=
  match tree.relocate source destination with
  | (.ok (), moved) => .ok moved
  | (.error failure, _) => .error failure

def edit (tree : Tree) (path : Path) (change : Attributes → Attributes) : Tree :=
  tree.update path (·.edit change) fun node => node.kind_edit change

def edit? (tree : Tree) (path : Path) (change : Attributes → Attributes) : Option Tree :=
  if (tree.lookup? path).isSome then some (tree.edit path change) else none

def restamp (tree : Tree) (path : Path) (stamp : String) : Tree :=
  tree.edit path ({ · with modified := stamp })

@[simp] theorem lookup?_root (tree : Tree) : tree.lookup? .root = some tree.root := by
  simp [lookup?]

theorem lookup?_extend (tree : Tree) (path : Path) (rest : List String) :
    tree.lookup? (path.extend rest) = (tree.lookup? path).bind (·.descend? rest) :=
  tree.root.descend?_append path.segments rest

theorem lookup?_join (tree : Tree) (path : Path) (name : String) :
    tree.lookup? (path.join name) = (tree.lookup? path).bind (·.child? name) := by
  cases found : tree.root.descend? path.segments with
  | none => simp [lookup?, Node.descend?_append, found]
  | some node =>
      simp only [lookup?, Path.segments_join, Node.descend?_append, found, Option.bind_some,
        Node.descend?_cons, Node.descend?_nil]
      cases node.child? name <;> rfl

theorem directory_eq_ok_iff {tree : Tree} {path : Path} {node : Node} :
    tree.directory path = .ok node ↔ tree.lookup? path = some node ∧ node.isDirectory := by
  cases found : tree.lookup? path with
  | none => simp [directory, stat, found, Bind.bind, Except.bind]
  | some other =>
      by_cases isDirectory : other.isDirectory = true
      · simp only [directory, stat, found, Bind.bind, Except.bind, isDirectory, if_true]
        constructor
        · rintro ⟨⟩
          exact ⟨rfl, isDirectory⟩
        · rintro ⟨⟨⟩, _⟩
          rfl
      · simp only [directory, stat, found, Bind.bind, Except.bind, isDirectory]
        constructor
        · rintro ⟨⟩
        · rintro ⟨⟨⟩, holds⟩
          exact absurd holds isDirectory

end Tree

end TeachingShell
