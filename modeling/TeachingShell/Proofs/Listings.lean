import TeachingShell.Proofs.ByteOrder
import TeachingShell.Proofs.Quoting

/-!
What a listing shows of a directory: each child once, with the columns of its node, and all of them in
the order of the bytes of their names. The long form has one line for each.
-/

namespace TeachingShell

namespace Node

theorem map_name_entries (node : Node) : node.entries.map Entry.name = node.names.toList := by
  rw [entries, List.map_map, ← map_fst_children]
  rfl

theorem mem_entries {node : Node} {entry : Entry} :
    entry ∈ node.entries ↔ ∃ child, node.child? entry.name = some child ∧
      entry.kind = child.kind ∧ entry.attributes = child.attributes := by
  rw [entries, List.mem_map]
  constructor
  · rintro ⟨⟨name, child⟩, member, rfl⟩
    exact ⟨child, mem_children.mp member, rfl, rfl⟩
  · rintro ⟨child, present, kind, attributes⟩
    refine ⟨(entry.name, child), mem_children.mpr present, ?_⟩
    cases entry
    simp_all [Node.entry]

theorem ascending_entries (node : Node) :
    (node.entries.map Entry.name).Pairwise fun first second =>
      Terminal.bytesOf first < Terminal.bytesOf second := by
  rw [map_name_entries]
  exact node.names.ascending.imp Terminal.bytesOf_lt

end Node

theorem Tree.list_eq_ok_iff {tree : Tree} {path : Path} {entries : List Entry} :
    tree.list path = .ok entries ↔
      ∃ directory, tree.directory path = .ok directory ∧ directory.entries = entries := by
  rw [list, bind_eq_ok_iff]
  exact exists_congr fun directory => and_congr_right fun _ => by rw [Except.ok.injEq]

/-- A line of a long listing: permissions, a link count of one, owner, group, the size at the right of
six columns, the stamp, and the name, which is set off for a directory. -/
def Entry.row (entry : Entry) : String :=
  let size := toString entry.attributes.size.toNat
  " ".intercalate [entry.attributes.permissions, "1", entry.attributes.owner,
    entry.attributes.group, String.ofList (List.replicate (6 - size.length) ' ') ++ size,
    entry.attributes.modified,
    match entry.kind with
    | .file => entry.name
    | .directory => "\x1b[1;34m" ++ entry.name ++ "\x1b[0m"]

/-- The path that a listing is of: where the first operand leads, and else the current location. -/
def Context.viewed (context : Context) (arguments : Arguments) : Path :=
  match arguments.operands.head? with
  | none => context.cwd
  | some word => context.resolve word

namespace Command

variable {context : Context} {arguments : Arguments} {directory : Node}

theorem strayFlag?_eq_none_iff {allowed : Char} :
    strayFlag? allowed arguments = none ↔ ∀ letter ∈ arguments.flags, letter = allowed := by
  simp [strayFlag?]

theorem longLine_eq (entry : Entry) : Listing.longLine entry = entry.row := by
  rw [Listing.longLine, Text.padLeft_eq, Entry.row]
  unfold Entry.isDirectory
  cases entry.kind with
  | file => rfl
  | directory => rfl

theorem listing_viewed
    (viewed : context.tree.directory (context.viewed arguments) = .ok directory) :
    listing arguments.operands.head? context = .ok (.directory directory.entries) := by
  unfold Context.viewed at viewed
  cases target : arguments.operands.head? with
  | none =>
      rw [target] at viewed
      simp only [listing, Tree.list, viewed, Bind.bind, Except.bind]
  | some word =>
      rw [target] at viewed
      obtain ⟨found, holds⟩ := Tree.directory_eq_ok_iff.mp viewed
      have notFile : directory.isFile = false := by
        rw [← Bool.not_eq_true, Node.isFile_iff, holds]
        exact Bool.true_eq_false_eq_False
      rw [listing_word, found]
      simp only [notFile]
      rfl

theorem list_viewed
    (viewed : context.tree.directory (context.viewed arguments) = .ok directory)
    (letters : ∀ letter ∈ arguments.flags, letter = 'l') :
    list arguments context =
      .success (if arguments.flags.isEmpty then (Listing.directory directory.entries).short
        else (Listing.directory directory.entries).long context.newline) := by
  simp only [list, strayFlag?_eq_none_iff.mpr letters, listing_viewed viewed]

end Command

namespace Tree

variable {tree : Tree} {path : Path} {entries : List Entry}

theorem mem_names_of_list (listed : tree.list path = .ok entries) (name : String) :
    name ∈ entries.map Entry.name ↔ ∃ node, tree.lookup? (path.join name) = some node := by
  obtain ⟨directory, answered, rfl⟩ := list_eq_ok_iff.mp listed
  rw [lookup?_join_of_directory (directory_eq_ok_iff.mp answered).1, List.mem_map]
  constructor
  · rintro ⟨entry, member, rfl⟩
    obtain ⟨child, present, -⟩ := Node.mem_entries.mp member
    exact ⟨child, present⟩
  · rintro ⟨child, present⟩
    exact ⟨child.entry name, Node.mem_entries.mpr ⟨child, present, rfl, rfl⟩, rfl⟩

theorem columns_of_list (listed : tree.list path = .ok entries) {entry : Entry}
    (member : entry ∈ entries) {node : Node}
    (found : tree.lookup? (path.join entry.name) = some node) :
    entry.kind = node.kind ∧ entry.attributes = node.attributes := by
  obtain ⟨directory, answered, rfl⟩ := list_eq_ok_iff.mp listed
  obtain ⟨child, present, columns⟩ := Node.mem_entries.mp member
  rw [lookup?_join_of_directory (directory_eq_ok_iff.mp answered).1, present] at found
  obtain rfl := Option.some.inj found
  exact columns

/-- Directories are what can be listed, whatever was done to the tree before. A listing has a name
just where a look-up finds a node, in the order of bytes and hence once, with the columns of that
node; and the long form is a line for each entry, in the same order. -/
theorem listing_complete (tree : Tree) (path : Path) :
    ((∃ entries, tree.list path = .ok entries) ↔ tree.IsDirectory path) ∧
      ∀ entries, tree.list path = .ok entries →
        ((entries.map Entry.name).Pairwise fun first second =>
          Terminal.bytesOf first < Terminal.bytesOf second) ∧
        (∀ name, name ∈ entries.map Entry.name ↔
          ∃ node, tree.lookup? (path.join name) = some node) ∧
        (∀ entry ∈ entries, ∀ node, tree.lookup? (path.join entry.name) = some node →
          entry.kind = node.kind ∧ entry.attributes = node.attributes) ∧
        ∀ (shell : Shell) (arguments : Arguments), shell.tree = tree →
          shell.context.viewed arguments = path → arguments.flags ≠ [] →
          (∀ letter ∈ arguments.flags, letter = 'l') →
          shell.dispatch "ls" arguments =
            (.success (shell.context.newline.intercalate (entries.map Entry.row)), shell) := by
  constructor
  · rw [isDirectory_iff]
    constructor
    · rintro ⟨entries, listed⟩
      obtain ⟨directory, answered, -⟩ := list_eq_ok_iff.mp listed
      exact ⟨directory, answered⟩
    · rintro ⟨directory, answered⟩
      exact ⟨directory.entries, list_eq_ok_iff.mpr ⟨directory, answered, rfl⟩⟩
  · intro entries listed
    refine ⟨?_, mem_names_of_list listed, fun entry member node => columns_of_list listed member, ?_⟩
    · obtain ⟨directory, -, rfl⟩ := list_eq_ok_iff.mp listed
      exact directory.ascending_entries
    · rintro shell arguments rfl rfl flagged letters
      obtain ⟨directory, answered, rfl⟩ := list_eq_ok_iff.mp listed
      refine Shell.dispatch_of_run .ls ?_
      rw [Verb.run, Command.list_viewed answered letters, List.isEmpty_eq_false_iff.mpr flagged,
        ← funext Command.longLine_eq]
      rfl

theorem listing_complete_terminal :
    let shell := Shell.boot .terminal .epoch
    ∃ entries, shell.tree.list ⟨["home", "user"]⟩ = .ok entries ∧
      ((entries.map Entry.name).Pairwise fun first second =>
        Terminal.bytesOf first < Terminal.bytesOf second) ∧
      (∃ entry ∈ entries, entry.name = "README.txt" ∧ entry.kind = .file ∧
        entry.attributes.size = 70) ∧
      shell.dispatch "ls" ["-l"] =
        (.success ("-rw-r--r-- 1 user user     70 Jul 27 08:00 README.txt\n" ++
          "drwxr-xr-x 1 user user   4096 Jan 01 00:00 \x1b[1;34mdocuments\x1b[0m\n" ++
          "drwxr-xr-x 1 user user   4096 Jan 01 00:00 \x1b[1;34mdownloads\x1b[0m\n" ++
          "drwxr-xr-x 1 user user   4096 Jan 01 00:00 \x1b[1;34mprojects\x1b[0m"), shell) := by
  intro shell
  obtain ⟨-, complete⟩ := listing_complete shell.tree ⟨["home", "user"]⟩
  have listed : shell.tree.list ⟨["home", "user"]⟩ =
      .ok (Tutorial.home Instant.epoch.stamp).entries := rfl
  obtain ⟨ordered, named, columns, long⟩ := complete _ listed
  have found : shell.tree.lookup? (Path.join ⟨["home", "user"]⟩ "README.txt") =
      some (Tutorial.sample
        "Welcome to your simulated home directory!\n\nTry `ls -l` for more details."
        70 "Jul 27 08:00") := rfl
  obtain ⟨entry, member, own⟩ := List.mem_map.mp ((named "README.txt").mpr ⟨_, found⟩)
  have shown := columns entry member _ (own.symm ▸ found)
  refine ⟨_, listed, ordered, ⟨entry, member, own, shown.1, ?_⟩, ?_⟩
  · rw [shown.2]
    rfl
  · have flags : Arguments.flags ["-l"] = ['l'] := rfl
    calc shell.dispatch "ls" ["-l"]
      _ = (.success ("\n".intercalate
            ((Tutorial.home Instant.epoch.stamp).entries.map Entry.row)), shell) :=
          long shell ["-l"] rfl rfl (by simp [flags]) (by simp [flags])
      _ = _ := Prod.ext (congrArg Outcome.success (by decide +kernel)) rfl

end Tree

end TeachingShell
