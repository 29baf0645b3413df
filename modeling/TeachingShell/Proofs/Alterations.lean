import TeachingShell.Proofs.Relocation
import TeachingShell.Verb

/-!
What the six commands that write make of the tree. For each of them, success means exactly one of the
alterations below.
-/

namespace TeachingShell

structure Vacant (context : Context) (name : String) : Prop where
  directory : context.tree.IsDirectory context.cwd
  valid : Tree.isName name
  free : context.tree.lookup? (context.cwd.join name) = none

inductive Alters (context : Context) : Verb → Arguments → Tree → Prop
  | makeDirectory {name rest} : Vacant context name →
      Alters context .mkdir (name :: rest)
        (context.tree.bind context.cwd name (.newDirectory context.now))
  | makeFile {name rest} : Vacant context name →
      Alters context .touch (name :: rest)
        (context.tree.bind context.cwd name (.newFile "" context.now))
  | stampFile {name rest node} : context.tree.lookup? (context.cwd.join name) = some node →
      node.isFile → Alters context .touch (name :: rest)
        (context.tree.restamp (context.cwd.join name) context.now)
  | removeFile {name rest node} : context.tree.lookup? (context.cwd.join name) = some node →
      node.isFile → Alters context .rm (name :: rest) (context.tree.unbind context.cwd name)
  | removeDirectory {name rest node} : context.tree.lookup? (context.cwd.join name) = some node →
      node.isEmptyDirectory →
      Alters context .rmdir (name :: rest) (context.tree.unbind context.cwd name)
  | rename {source destination node} :
      context.tree.lookup? (context.cwd.join source) = some node → Vacant context destination →
      Alters context .mv [source, destination]
        ((context.tree.unbind context.cwd source).bind context.cwd destination node)
  | copyFile {source destination node} :
      context.tree.lookup? (context.cwd.join source) = some node → node.isFile →
      Vacant context destination → Alters context .cp [source, destination]
        (context.tree.bind context.cwd destination (node.restamp context.now))

theorem Node.isFile_iff {node : Node} : node.isFile = true ↔ node.isDirectory = false := by
  cases node with
  | file => simp [isFile, isDirectory, kind]
  | directory => simp [isFile, isDirectory, kind]

namespace Command

theorem one_eq_ok_iff {arguments : Arguments} {word : String} :
    one arguments = .ok word ↔ ∃ rest, arguments = word :: rest := by
  cases arguments with
  | nil => simp [one]
  | cons first rest => simp [one]

theorem two_eq_ok_iff {arguments : Arguments} {source destination : String} :
    two arguments = .ok (source, destination) ↔ arguments = [source, destination] := by
  constructor
  · intro taken
    unfold two at taken
    split at taken
    · cases taken
      rfl
    · cases taken
  · rintro rfl
    rfl

theorem mapError_eq_ok_iff {α : Type} {change : Failure → Failure} {result : Except Failure α}
    {value : α} : Except.mapError change result = .ok value ↔ result = .ok value := by
  cases result with
  | error failure =>
      constructor
      · intro answered
        cases answered
      · intro answered
        cases answered
  | ok other => exact Iff.rfl

theorem namingEither_ok {α : Type} (source destination : String) (value : α) :
    namingEither source destination (.ok value) = .ok value := rfl

theorem namingEither_error (α : Type) (source destination : String) (failure : Failure) :
    ∃ named, namingEither source destination (.error failure : Except Failure α) = .error named :=
  ⟨_, rfl⟩

theorem insert_eq_ok_iff_vacant {context : Context} {name : String} {node : Node} {tree : Tree} :
    context.tree.insert context.cwd name node = .ok tree ↔
      Vacant context name ∧ tree = context.tree.bind context.cwd name node := by
  rw [Tree.insert_eq_ok_iff]
  constructor
  · rintro ⟨valid, directory, free, same⟩
    exact ⟨⟨directory, valid, free⟩, same⟩
  · rintro ⟨⟨directory, valid, free⟩, same⟩
    exact ⟨valid, directory, free, same⟩

theorem child_eq_ok_iff {name : String} {context : Context} {node : Node} :
    child name context = .ok node ↔
      context.tree.lookup? (context.cwd.join name) = some node := by
  simp only [child, Context.directory, bind_eq_ok_iff]
  constructor
  · rintro ⟨directory, answered, found⟩
    have here := (Tree.directory_eq_ok_iff.mp answered).1
    rw [Tree.lookup?_join_of_directory here]
    cases present : directory.child? name with
    | none => simp [present] at found
    | some other => simpa [present] using found
  · intro found
    obtain ⟨directory, answered, present⟩ := Tree.directory_of_lookup?_join found
    exact ⟨directory, answered, by simp [present]⟩

theorem removeChild_eq_ok_iff {name : String} {context : Context} {tree : Tree} :
    removeChild name context = .ok tree ↔
      (∃ node, context.tree.lookup? (context.cwd.join name) = some node) ∧
        tree = context.tree.unbind context.cwd name := by
  simp only [removeChild, bind_eq_ok_iff]
  constructor
  · rintro ⟨⟨node, detached⟩, removed, same⟩
    obtain ⟨found, rfl⟩ := Tree.remove_eq_ok_iff.mp removed
    cases same
    exact ⟨⟨node, found⟩, rfl⟩
  · rintro ⟨⟨node, found⟩, rfl⟩
    exact ⟨(node, context.tree.unbind context.cwd name),
      Tree.remove_eq_ok_iff.mpr ⟨found, rfl⟩, rfl⟩

theorem makeDirectory_eq_ok_iff {arguments : Arguments} {context : Context} {tree : Tree} :
    makeDirectory arguments context = .ok tree ↔ Alters context .mkdir arguments tree := by
  simp only [makeDirectory, bind_eq_ok_iff, one_eq_ok_iff, naming, mapError_eq_ok_iff,
    insert_eq_ok_iff_vacant]
  constructor
  · rintro ⟨name, ⟨rest, rfl⟩, vacant, rfl⟩
    exact .makeDirectory vacant
  · intro altered
    cases altered with
    | makeDirectory vacant => exact ⟨_, ⟨_, rfl⟩, vacant, rfl⟩

theorem touch_eq_ok_iff {arguments : Arguments} {context : Context} {tree : Tree} :
    touch arguments context = .ok tree ↔ Alters context .touch arguments tree := by
  simp only [touch, bind_eq_ok_iff, one_eq_ok_iff]
  constructor
  · rintro ⟨name, ⟨rest, rfl⟩, touched⟩
    cases found : context.tree.lookup? (context.cwd.join name) with
    | none =>
        simp only [found, naming, mapError_eq_ok_iff, insert_eq_ok_iff_vacant] at touched
        obtain ⟨vacant, rfl⟩ := touched
        exact .makeFile vacant
    | some node =>
        cases kind : node.isDirectory with
        | true => simp [found, kind] at touched
        | false =>
            simp only [found, kind, Bool.false_eq_true, if_false, Except.ok.injEq] at touched
            subst touched
            exact .stampFile found (Node.isFile_iff.mpr kind)
  · intro altered
    cases altered with
    | makeFile vacant =>
        refine ⟨_, ⟨_, rfl⟩, ?_⟩
        simp only [vacant.free, naming, mapError_eq_ok_iff, insert_eq_ok_iff_vacant]
        exact ⟨vacant, trivial⟩
    | stampFile found file =>
        refine ⟨_, ⟨_, rfl⟩, ?_⟩
        simp [found, Node.isFile_iff.mp file]

theorem removeFile_eq_ok_iff {arguments : Arguments} {context : Context} {tree : Tree} :
    removeFile arguments context = .ok tree ↔ Alters context .rm arguments tree := by
  simp only [removeFile, bind_eq_ok_iff, one_eq_ok_iff, child_eq_ok_iff]
  constructor
  · rintro ⟨name, ⟨rest, rfl⟩, node, found, removed⟩
    cases kind : node.isDirectory with
    | true => simp [kind] at removed
    | false =>
        simp only [kind, Bool.false_eq_true, if_false, removeChild_eq_ok_iff] at removed
        obtain ⟨_, rfl⟩ := removed
        exact .removeFile found (Node.isFile_iff.mpr kind)
  · intro altered
    cases altered with
    | removeFile found file =>
        refine ⟨_, ⟨_, rfl⟩, _, found, ?_⟩
        simp only [Node.isFile_iff.mp file, Bool.false_eq_true, if_false, removeChild_eq_ok_iff]
        exact ⟨⟨_, found⟩, trivial⟩

theorem removeDirectory_eq_ok_iff {arguments : Arguments} {context : Context} {tree : Tree} :
    removeDirectory arguments context = .ok tree ↔ Alters context .rmdir arguments tree := by
  simp only [removeDirectory, bind_eq_ok_iff, one_eq_ok_iff, child_eq_ok_iff]
  constructor
  · rintro ⟨name, ⟨rest, rfl⟩, node, found, removed⟩
    cases file : node.isFile with
    | true => simp [file] at removed
    | false =>
        cases empty : node.isEmptyDirectory with
        | false => simp [file, empty] at removed
        | true =>
            simp only [file, empty, Bool.not_true, Bool.false_eq_true, if_false,
              removeChild_eq_ok_iff] at removed
            obtain ⟨_, rfl⟩ := removed
            exact .removeDirectory found empty
  · intro altered
    cases altered with
    | removeDirectory found empty =>
        rename_i name rest node
        have notFile : node.isFile = false := by
          cases node with
          | file => simp [Node.isEmptyDirectory, Node.isDirectory, Node.kind] at empty
          | directory => rfl
        refine ⟨name, ⟨rest, rfl⟩, node, found, ?_⟩
        simp only [notFile, empty, Bool.not_true, Bool.false_eq_true, if_false,
          removeChild_eq_ok_iff]
        exact ⟨⟨node, found⟩, trivial⟩

theorem copy_eq_ok_iff {arguments : Arguments} {context : Context} {tree : Tree} :
    copy arguments context = .ok tree ↔ Alters context .cp arguments tree := by
  simp only [copy, bind_eq_ok_iff, child_eq_ok_iff]
  constructor
  · rintro ⟨⟨source, destination⟩, words, node, found, copied⟩
    obtain rfl := two_eq_ok_iff.mp words
    cases kind : node.isDirectory with
    | true => simp [kind] at copied
    | false =>
        simp only [kind, Bool.false_eq_true, if_false, naming, mapError_eq_ok_iff,
          insert_eq_ok_iff_vacant] at copied
        obtain ⟨vacant, rfl⟩ := copied
        exact .copyFile found (Node.isFile_iff.mpr kind) vacant
  · intro altered
    cases altered with
    | copyFile found file vacant =>
        refine ⟨_, two_eq_ok_iff.mpr rfl, _, found, ?_⟩
        simp only [Node.isFile_iff.mp file, Bool.false_eq_true, if_false, naming,
          mapError_eq_ok_iff, insert_eq_ok_iff_vacant]
        exact ⟨vacant, trivial⟩

theorem movable_siblings {context : Context} {source destination : String} {node : Node}
    (found : context.tree.lookup? (context.cwd.join source) = some node)
    (vacant : Vacant context destination) :
    context.tree.Movable context.cwd source context.cwd destination node := by
  constructor
  · exact found
  · exact vacant.valid
  · exact vacant.free
  · rw [Path.startsWith_join_join]
    rintro rfl
    rw [vacant.free] at found
    cases found
  · exact vacant.directory

theorem move_cases (arguments : Arguments) (context : Context) :
    (∃ failure, move arguments context = (.error failure, context.tree)) ∨
      ∃ tree, move arguments context = (.ok (), tree) ∧ Alters context .mv arguments tree := by
  cases words : two arguments with
  | error failure =>
      left
      exact ⟨failure, by simp only [move, words]⟩
  | ok pair =>
      obtain ⟨source, destination⟩ := pair
      obtain rfl := two_eq_ok_iff.mp words
      rcases context.tree.relocate_cases (context.cwd.join source) (context.cwd.join destination) with
        ⟨failure, kept⟩ | ⟨oldParent, oldName, parent, name, node, old, new, movable⟩
      · left
        obtain ⟨named, answered⟩ := namingEither_error Unit source destination failure
        exact ⟨named, by simp only [move, words, kept, answered]⟩
      · right
        obtain ⟨rfl, rfl⟩ := Path.join_inj.mp old
        obtain ⟨rfl, rfl⟩ := Path.join_inj.mp new
        simp only [move, words, movable.relocate, namingEither_ok]
        exact ⟨_, rfl, .rename movable.found ⟨movable.directory, movable.valid, movable.free⟩⟩

theorem move_eq_ok_iff {arguments : Arguments} {context : Context} {tree : Tree} :
    move arguments context = (.ok (), tree) ↔ Alters context .mv arguments tree := by
  constructor
  · intro moved
    rcases move_cases arguments context with ⟨failure, kept⟩ | ⟨other, same, altered⟩
    · rw [kept] at moved
      cases moved
    · rw [same] at moved
      cases moved
      exact altered
  · intro altered
    cases altered with
    | rename found vacant =>
        simp only [move, two, (movable_siblings found vacant).relocate, namingEither_ok]

end Command

end TeachingShell
