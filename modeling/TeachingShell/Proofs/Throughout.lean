import TeachingShell.Proofs.Conservation
import TeachingShell.Proofs.Lookups
import TeachingShell.Proofs.Runs
import TeachingShell.Tree.Survey

/-!
What holds of every node below the root, by its name and by what it shows. Commands keep it up if it
survives a new stamp, a new name, and the birth of a file or a directory.
-/

namespace TeachingShell

variable {holds : String → Attributes × Option String → Prop}

/-- What an alteration may not break: a new stamp, a valid new name, and the birth of a node. -/
structure Sustained (holds : String → Attributes × Option String → Prop) (stamp : String)
    (arguments : Arguments) : Prop where
  restamp : ∀ name attributes content, holds name (attributes, content) →
    holds name ({ attributes with modified := stamp }, content)
  rename : ∀ old new label, Tree.isName new → new ∈ arguments → holds old label → holds new label
  newDirectory : ∀ name, Tree.isName name → name ∈ arguments →
    holds name (Node.newDirectory stamp).label
  newFile : ∀ name, Tree.isName name → name ∈ arguments → holds name (Node.newFile "" stamp).label

theorem Alters.throughout {context : Context} {verb : Verb} {arguments : Arguments} {tree : Tree}
    (alters : Alters context verb arguments tree)
    (sustained : Sustained holds context.now arguments) (whole : context.tree.Throughout holds) :
    tree.Throughout holds := by
  cases alters with
  | makeDirectory vacant =>
      have own := sustained.newDirectory _ vacant.valid List.mem_cons_self
      exact whole.bind _ own (Node.throughout_newDirectory _)
  | makeFile vacant =>
      have own := sustained.newFile _ vacant.valid List.mem_cons_self
      exact whole.bind _ own trivial
  | stampFile found file => exact whole.edit _ sustained.restamp
  | removeFile found file => exact whole.unbind _ _
  | removeDirectory found empty => exact whole.unbind _ _
  | rename found vacant =>
      obtain ⟨old, below⟩ := whole.lookup? found
      have own := sustained.rename _ _ _ vacant.valid (List.mem_cons_of_mem _ List.mem_cons_self) old
      exact (whole.unbind _ _).bind _ own below
  | copyFile found file vacant =>
      obtain ⟨old, below⟩ := whole.lookup? found
      have own := sustained.rename _ _ _ vacant.valid (List.mem_cons_of_mem _ List.mem_cons_self) old
      refine whole.bind _ ?_ (below.edit _)
      rw [Node.restamp, Node.label, Node.attributes_edit, Node.content?_edit]
      exact sustained.restamp _ _ _ own

theorem Effect.throughout {context after : Context} {verb : Verb} {arguments : Arguments}
    {outcome : Outcome} (effect : Effect context verb arguments outcome after)
    (sustained : Sustained holds context.now arguments) (whole : context.tree.Throughout holds) :
    after.tree.Throughout holds := by
  cases effect with
  | altered alters => exact alters.throughout sustained whole
  | refused text => exact whole
  | told text tells => exact whole
  | entered text verb directory => exact whole
  | forgotten text verb => exact whole
  | cleared verb => exact whole

namespace Shell

theorem throughout_execute {shell : Shell} {line : String}
    (sustained : ∀ stamp verb arguments, Text.words line = verb :: arguments →
      Sustained holds stamp arguments)
    (whole : shell.tree.Throughout holds) : (shell.execute line).2.tree.Throughout holds := by
  rcases shell.execute_cases line with ⟨_, blank⟩ | ⟨verb, arguments, split, dispatched⟩
  · rw [blank]
    exact whole
  · rw [dispatched]
    rcases Shell.dispatch_cases _ verb arguments with
      ⟨text, unknown⟩ | ⟨verb, outcome, context, named, ran, effect⟩
    · rw [unknown]
      exact whole
    · rw [ran]
      subst named
      exact effect.throughout (sustained _ _ _ split) whole

theorem throughout_acceptAll {shell : Shell} {lines : List Typed}
    (sustained : ∀ typed ∈ lines, ∀ stamp verb arguments,
      Text.words typed.line = verb :: arguments → Sustained holds stamp arguments)
    (whole : shell.tree.Throughout holds) : (shell.acceptAll lines).tree.Throughout holds := by
  induction lines generalizing shell with
  | nil => exact whole
  | cons first rest ih =>
      have kept : (shell.accept first).2.tree.Throughout holds :=
        throughout_execute (sustained first List.mem_cons_self) whole
      exact ih (fun typed member => sustained typed (List.mem_cons_of_mem _ member)) kept

end Shell

namespace Tutorial

theorem throughout_folder {stamp : String} {children : List (String × Node)}
    (whole : ∀ entry ∈ children, holds entry.1 entry.2.label ∧ entry.2.Throughout holds) :
    (folder stamp children).Throughout holds := by
  refine folder_induction (Node.Throughout holds) (Node.throughout_newDirectory stamp) ?_
  intro node entry member kept
  obtain ⟨own, below⟩ := whole entry member
  exact kept.bind own below

theorem label_folder (stamp : String) (children : List (String × Node)) :
    (folder stamp children).label = (Node.newDirectory stamp).label := by
  refine folder_induction (fun node => node.label = (Node.newDirectory stamp).label) rfl ?_
  intro node entry _ kept
  rw [← kept, Node.label, Node.attributes_bind, Node.content?_bind, Node.label]

def folderNames : List String :=
  ["home", "user", "documents", "projects", "my_blog", "game_dev", "assets", "downloads"]

def fileNames : List String :=
  ["report.txt", "notes.md", "index.html", "style.css", "script.js", "main.py", "README.txt"]

/-- What holds of every folder and every file by its name holds throughout the tutorial. -/
theorem throughout_tree {stamp : String}
    (folders : ∀ name ∈ folderNames, holds name (Node.newDirectory stamp).label)
    (files : ∀ name ∈ fileNames, ∀ content size date, holds name (sample content size date).label) :
    (tree stamp).Throughout holds := by
  have file (name : String) (member : name ∈ fileNames) (content : String) (size : UInt64)
      (date : String) :
      holds name (sample content size date).label ∧ (sample content size date).Throughout holds :=
    ⟨files name member content size date, trivial⟩
  have nest (name : String) (member : name ∈ folderNames) {children : List (String × Node)}
      (whole : children.Forall fun entry =>
        holds entry.1 entry.2.label ∧ entry.2.Throughout holds) :
      holds name (folder stamp children).label ∧ (folder stamp children).Throughout holds :=
    ⟨label_folder stamp children ▸ folders name member,
      throughout_folder (List.forall_iff_forall_mem.mp whole)⟩
  have empty (name : String) (member : name ∈ folderNames) :
      holds name (folder stamp []).label ∧ (folder stamp []).Throughout holds :=
    nest name member trivial
  have documents : holds "documents" (documents stamp).label ∧ (documents stamp).Throughout holds :=
    nest "documents" (by decide)
      ⟨file "report.txt" (by decide) _ _ _, file "notes.md" (by decide) _ _ _⟩
  have blog : holds "my_blog" (blog stamp).label ∧ (blog stamp).Throughout holds :=
    nest "my_blog" (by decide)
      ⟨file "index.html" (by decide) _ _ _, file "style.css" (by decide) _ _ _,
        file "script.js" (by decide) _ _ _⟩
  have game : holds "game_dev" (game stamp).label ∧ (game stamp).Throughout holds :=
    nest "game_dev" (by decide) ⟨file "main.py" (by decide) _ _ _, empty "assets" (by decide)⟩
  have home : holds "user" (home stamp).label ∧ (home stamp).Throughout holds :=
    nest "user" (by decide)
      ⟨documents, nest "projects" (by decide) ⟨blog, game⟩, empty "downloads" (by decide),
        file "README.txt" (by decide) _ _ _⟩
  exact throughout_folder (List.forall_mem_singleton.mpr (nest "home" (by decide) home))

end Tutorial

theorem Shell.throughout_boot {config : Config} {now : Instant}
    (tutorial : config.seed → (Tutorial.tree now.stamp).Throughout holds) :
    (boot config now).tree.Throughout holds := by
  rw [tree_boot]
  split
  next seeded => exact tutorial seeded
  next => exact Node.throughout_newDirectory now.stamp

end TeachingShell
