import TeachingShell.Proofs.Naming

/-!
How nodes look while nothing but typed lines changes a tree. A listing shows of each what it shows of
a new one, but for the stamp; a file is empty unless the tutorial brought it along; and a name is a
word, since that is what a line is cut into.
-/

namespace TeachingShell

def Tutorial.Offers (content : String) (size : UInt64) : Prop :=
  ∃ stamp path node, (tree stamp).lookup? path = some node ∧ node.content? = some content ∧
    node.attributes.size = size

/-- The columns of a new node of the same kind. The stamp is open, and so is the size of a file. -/
structure Standard (label : Attributes × Option String) : Prop where
  owner : label.1.owner = "user"
  group : label.1.group = "user"
  directory : label.2 = none → label.1.size = 4096 ∧ label.1.permissions = "drwxr-xr-x"
  file : ∀ content, label.2 = some content → label.1.permissions = "-rw-r--r--"

/-- A standard node that is empty or, in a seeded tree, as long as the tutorial says. -/
structure Ordinary (seeded : Bool) (label : Attributes × Option String) : Prop
    extends Standard label where
  provided : ∀ content, label.2 = some content →
    (content = "" ∧ label.1.size = 0) ∨ (seeded ∧ Tutorial.Offers content label.1.size)

variable {seeded : Bool}

theorem standard_newDirectory (stamp : String) : Standard (Node.newDirectory stamp).label :=
  ⟨rfl, rfl, fun _ => ⟨rfl, rfl⟩, nofun⟩

theorem standard_newFile (content stamp : String) : Standard (Node.newFile content stamp).label :=
  ⟨rfl, rfl, nofun, fun _ _ => rfl⟩

theorem standard_sample (content : String) (size : UInt64) (stamp : String) :
    Standard (Tutorial.sample content size stamp).label :=
  ⟨rfl, rfl, nofun, fun _ _ => rfl⟩

theorem ordinary_newDirectory (stamp : String) : Ordinary seeded (Node.newDirectory stamp).label :=
  ⟨standard_newDirectory stamp, nofun⟩

theorem ordinary_newFile (stamp : String) : Ordinary seeded (Node.newFile "" stamp).label := by
  refine ⟨standard_newFile "" stamp, fun content held => Or.inl ⟨?_, rfl⟩⟩
  exact (Option.some.inj held).symm

theorem Ordinary.restamp {attributes : Attributes} {content : Option String}
    (ordinary : Ordinary seeded (attributes, content)) (stamp : String) :
    Ordinary seeded ({ attributes with modified := stamp }, content) :=
  ⟨⟨ordinary.owner, ordinary.group, ordinary.directory, ordinary.file⟩, ordinary.provided⟩

structure Furnished (seeded : Bool) (name : String) (label : Attributes × Option String) : Prop where
  valid : Tree.isName name
  isWord : Text.IsWord name
  ordinary : Ordinary seeded label

theorem sustained_furnished {arguments : Arguments}
    (isWord : ∀ word ∈ arguments, Text.IsWord word) (stamp : String) :
    Sustained (Furnished seeded) stamp arguments := by
  constructor
  · intro name attributes content furnished
    exact ⟨furnished.valid, furnished.isWord, furnished.ordinary.restamp stamp⟩
  · intro old new label valid member furnished
    exact ⟨valid, isWord new member, furnished.ordinary⟩
  · intro name valid member
    exact ⟨valid, isWord name member, ordinary_newDirectory stamp⟩
  · intro name valid member
    exact ⟨valid, isWord name member, ordinary_newFile stamp⟩

theorem Tutorial.furnished_tree (stamp : String) :
    (tree stamp).Throughout (Furnished true) := by
  have standard : (tree stamp).Throughout fun name label =>
      (Tree.isName name ∧ Text.IsWord name) ∧ Standard label := by
    refine throughout_tree (fun name member => ⟨?_, standard_newDirectory stamp⟩)
      fun name member content size date => ⟨?_, standard_sample content size date⟩
    · revert name
      decide
    · revert name
      decide
  refine Tree.throughout_iff_lookup?.mpr fun path name node found => ?_
  obtain ⟨⟨valid, isWord⟩, shown⟩ := Tree.throughout_iff_lookup?.mp standard path name node found
  refine ⟨valid, isWord, shown, fun content held => Or.inr ⟨rfl, ?_⟩⟩
  exact ⟨stamp, path.join name, node, found, held, rfl⟩

namespace Shell

theorem furnished_boot (config : Config) (now : Instant) :
    (boot config now).tree.Throughout (Furnished config.seed) :=
  throughout_boot fun seeded => by
    rw [seeded]
    exact Tutorial.furnished_tree now.stamp

theorem label_root_boot (config : Config) (now : Instant) :
    (boot config now).tree.root.label = (Node.newDirectory now.stamp).label := by
  rw [tree_boot]
  cases config.seed with
  | true => exact Tutorial.label_folder now.stamp _
  | false => rfl

theorem label_root_dispatch (shell : Shell) (word : String) (arguments : Arguments) :
    (shell.dispatch word arguments).2.tree.root.label = shell.tree.root.label := by
  rcases shell.dispatch_cases word arguments with
    ⟨text, unknown⟩ | ⟨verb, outcome, context, named, ran, effect⟩
  · rw [unknown]
  · rw [ran]
    have same := effect.confined.above .root (Path.startsWith_iff.mpr ⟨_, rfl⟩)
    rw [Tree.lookup?_root, Tree.lookup?_root, Option.map_some, Option.map_some,
      Option.some.injEq] at same
    exact Node.label_eq_of_face shell.tree.rooted same

theorem label_root_execute (shell : Shell) (line : String) :
    (shell.execute line).2.tree.root.label = shell.tree.root.label := by
  rcases shell.execute_cases line with ⟨_, blank⟩ | ⟨verb, arguments, _, dispatched⟩
  · rw [blank]
  · rw [dispatched, label_root_dispatch]
    rfl

theorem label_root_acceptAll (shell : Shell) (lines : List Typed) :
    (shell.acceptAll lines).tree.root.label = shell.tree.root.label := by
  induction lines generalizing shell with
  | nil => rfl
  | cons first rest ih =>
      have once : (shell.accept first).2.tree.root.label = shell.tree.root.label :=
        label_root_execute (shell.setClock first.now) first.line
      exact (ih _).trans once

/-- After any lines, every node has the columns of its kind, every file is empty or one of the
tutorial's, and every name is a word without a slash that no path takes for a step. -/
theorem nodes_stay_ordinary {config : Config} {now : Instant} {shell : Shell}
    (started : start config now = .ok shell) (lines : List Typed) :
    (∀ path node, (shell.acceptAll lines).tree.lookup? path = some node →
        Ordinary config.seed node.label) ∧
      ∀ (path : Path) name node, (shell.acceptAll lines).tree.lookup? (path.join name) = some node →
        name ≠ "" ∧ name ≠ "." ∧ name ≠ ".." ∧ ∀ c ∈ name.toList, c ≠ '/' ∧ ¬ Text.isBlank c := by
  obtain ⟨-, -, -, rfl⟩ := start_eq_ok_iff.mp started
  have furnished : ((boot config now).acceptAll lines).tree.Throughout (Furnished config.seed) := by
    refine throughout_acceptAll ?_ (furnished_boot config now)
    intro typed member stamp verb arguments split
    refine sustained_furnished (fun word own => ?_) stamp
    have spoken : word ∈ Text.words typed.line := split ▸ List.mem_cons_of_mem verb own
    exact Text.isWord_of_mem_words spoken
  have root : Ordinary config.seed ((boot config now).acceptAll lines).tree.root.label := by
    rw [label_root_acceptAll, label_root_boot]
    exact ordinary_newDirectory now.stamp
  constructor
  · intro path node found
    exact furnished.label root (fun _ _ kept => kept.ordinary) found
  · intro path name node found
    obtain ⟨valid, isWord, -⟩ := (furnished.lookup? found).1
    obtain ⟨nonempty, notHere, notUp, unbroken⟩ := Tree.isName_iff.mp valid
    refine ⟨nonempty, notHere, notUp, fun c member => ⟨?_, ?_⟩⟩
    · rintro rfl
      exact unbroken member
    · rw [isWord.unbroken c member]
      exact Bool.false_ne_true

theorem nodes_stay_ordinary_terminal :
    start .terminal .epoch = .ok (boot .terminal .epoch) ∧
      ∃ node, ((boot .terminal .epoch).acceptAll
          [⟨.epoch, "mv README.txt ~"⟩, ⟨.epoch, "cp ~ new"⟩, ⟨.epoch, " touch new "⟩]).tree.lookup?
            ((boot .terminal .epoch).cwd.join "new") = some node ∧
        Ordinary true node.label ∧
        "new" ≠ "" ∧ "new" ≠ "." ∧ "new" ≠ ".." ∧
        ∀ c ∈ "new".toList, c ≠ '/' ∧ ¬ Text.isBlank c := by
  have started := start_terminal .epoch
  obtain ⟨look, name⟩ := nodes_stay_ordinary started
    [⟨.epoch, "mv README.txt ~"⟩, ⟨.epoch, "cp ~ new"⟩, ⟨.epoch, " touch new "⟩]
  have present : (((boot .terminal .epoch).acceptAll
      [⟨.epoch, "mv README.txt ~"⟩, ⟨.epoch, "cp ~ new"⟩, ⟨.epoch, " touch new "⟩]).tree.lookup?
        ((boot .terminal .epoch).cwd.join "new")).isSome := by
    decide +kernel
  obtain ⟨node, found⟩ := Option.isSome_iff_exists.mp present
  exact ⟨started, node, found, look _ node found, name _ "new" node found⟩

end Shell

end TeachingShell
