import TeachingShell.Proofs.Rearranging

/-!
How `mv`, `cp` and `touch` end, for all words in all directories. An objection counts only where
none before it does, so that each failure has one cause; and what a command leaves behind is known
name by name.
-/

namespace TeachingShell

open Function (update)

section

variable {context : Context} {directory : Node} {verb : Verb} (writes : verb ∈ Verb.writers)
  (here : context.directory = .ok directory) {arguments : Arguments}

include writes here

theorem refused_iff (failure : Failure) :
    Refused context verb arguments failure ↔
      Tree.answerTo (verb.objections directory arguments) = .error failure :=
  (decided writes here arguments fun _ alters => alters.rearranged here).refused failure

theorem refused_lack_iff :
    Refused context verb arguments verb.lack ↔ verb.hasWords arguments = false := by
  rw [refused_iff writes here]
  constructor
  · intro answered
    rw [Bool.eq_false_iff]
    intro enough
    obtain ⟨fault, -, word, -, same⟩ := Verb.fault_of_answer enough answered
    cases verb <;> cases same
  · exact Verb.answer_of_lack writes

theorem Refused.mem_faults {fault : Fault} {word : String}
    (refused : Refused context verb arguments (.on fault word)) : fault ∈ verb.faults := by
  have answered := (refused_iff writes here _).mp refused
  cases enough : verb.hasWords arguments with
  | false =>
      rw [Verb.answer_of_lack writes enough] at answered
      cases verb <;> cases answered
  | true =>
      obtain ⟨other, member, _, -, same⟩ := Verb.fault_of_answer enough answered
      cases same
      exact member

end

section

variable {context : Context} {directory : Node} (here : context.directory = .ok directory)
  (arguments : Arguments)

include here

/-- A move among the children of a directory asks for two words, and then for a source, for a name
and for a free one, in this order. It gives the name to the very node that the source had. -/
theorem renaming_decided :
    (Refused context .mv arguments .argumentCount ↔ arguments.length ≠ 2) ∧
      (∀ source destination, arguments = [source, destination] →
        Decided context .mv arguments
          [⟨(directory.child? source).isNone, .on .notFound source⟩,
            ⟨!Tree.isName destination, .on .badName destination⟩,
            ⟨(directory.child? destination).isSome, .on .alreadyExists destination⟩]
          (Rearranged context.cwd
            (update (update directory.child? source none) destination (directory.child? source))
            context.tree)) ∧
      ∀ word, ¬ Refused context .mv arguments (.on .wouldCycle word) ∧
        ¬ Refused context .mv arguments (.on .notDirectory word) := by
  have writes : Verb.mv ∈ Verb.writers := by decide
  refine ⟨?_, ?_, ?_⟩
  · refine (refused_lack_iff writes here).trans ?_
    simp [Verb.hasWords]
  · rintro source destination rfl
    exact decided writes here _ fun _ alters => alters.rearranged here
  · intro word
    constructor
    · intro refused
      exact absurd (refused.mem_faults writes here) (by decide)
    · intro refused
      exact absurd (refused.mem_faults writes here) (by decide)

end

theorem renaming_decided_terminal :
    let context := (Shell.boot .terminal .epoch).context
    let directory := Tutorial.home Instant.epoch.stamp
    context.directory = .ok directory ∧
      Refused context .mv ["README.txt", "documents", "-f"] .argumentCount ∧
      Refused context .mv ["README.txt", "documents"] (.on .alreadyExists "documents") ∧
      ∃ tree, Left context .mv ["documents", "papers"] tree ∧
        Rearranged context.cwd (update (update directory.child? "documents" none) "papers"
          (directory.child? "documents")) context.tree tree := by
  intro context directory
  have here : context.directory = .ok directory := Shell.directory_terminal .epoch
  refine ⟨here, ?_, ?_, ?_⟩
  · exact (renaming_decided here _).1.mpr (by decide)
  · exact (((renaming_decided here _).2.1 _ _ rfl).refused _).mpr rfl
  · exact ((renaming_decided here _).2.1 "documents" "papers" rfl).done rfl

structure Stamped (context : Context) (before after : Node) : Prop where
  content : after.content? = before.content?
  attributes : after.attributes =
    { before.attributes with modified := (Verb.date.run [] context).1.text }

theorem Node.stamped_restamp (context : Context) (node : Node) :
    Stamped context node (node.restamp context.now) :=
  ⟨content?_edit _ node, attributes_edit _ node⟩

section

variable {context : Context} {directory : Node} (here : context.directory = .ok directory)

include here

theorem Alters.copied {source destination : String} {tree : Tree}
    (alters : Alters context .cp [source, destination] tree) :
    ∃ node copy, directory.child? source = some node ∧ Stamped context node copy ∧
      Rearranged context.cwd (update directory.child? destination (some copy)) context.tree tree ∧
      tree.lookup? (context.cwd.join source) = some node := by
  have rearranged := alters.rearranged here
  cases alters with
  | copyFile found file vacant =>
      rename_i node
      rw [Command.lookup?_here here] at found
      have apart : source ≠ destination := by
        rintro rfl
        have free := vacant.free
        rw [Command.lookup?_here here, found] at free
        cases free
      rw [Verb.childrenAfter, found] at rearranged
      refine ⟨node, node.restamp context.now, found, node.stamped_restamp context, rearranged, ?_⟩
      rw [rearranged.lookup?_join, Function.update_of_ne apart, found]

theorem Alters.touched {name : String} {rest : Arguments} {tree : Tree}
    (alters : Alters context .touch (name :: rest) tree) :
    ∃ file, Rearranged context.cwd (update directory.child? name (some file)) context.tree tree ∧
      (∀ node, directory.child? name = some node → Stamped context node file) ∧
      (directory.child? name = none → file.content? = some "" ∧ file.attributes =
        Node.attributesOf "-rw-r--r--" 0 (Verb.date.run [] context).1.text) := by
  refine ⟨_, alters.rearranged here, ?_, ?_⟩
  · intro node found
    rw [found]
    exact node.stamped_restamp context
  · intro free
    rw [free]
    exact ⟨rfl, rfl⟩

end

section

variable {context : Context} {directory : Node} (here : context.directory = .ok directory)
  (arguments : Arguments)

include here

/-- A copy asks for a source, a file, a name and a free one, in this order, and leaves the source
alone; a touch stamps a file, or makes one where the word is free and a name. -/
theorem copying_and_touching_decided :
    ((Refused context .cp arguments .argumentCount ↔ arguments.length ≠ 2) ∧
      ∀ source destination, arguments = [source, destination] →
        Decided context .cp arguments
          [⟨(directory.child? source).isNone, .on .notFound source⟩,
            ⟨(directory.child? source).any Node.isDirectory, .on .isDirectory source⟩,
            ⟨!Tree.isName destination, .on .badName destination⟩,
            ⟨(directory.child? destination).isSome, .on .alreadyExists destination⟩]
          fun tree => ∃ node copy, directory.child? source = some node ∧
            Stamped context node copy ∧ Rearranged context.cwd
              (update directory.child? destination (some copy)) context.tree tree ∧
            tree.lookup? (context.cwd.join source) = some node) ∧
      (Refused context .touch arguments .missingOperand ↔ arguments = []) ∧
      ∀ name rest, arguments = name :: rest →
        Decided context .touch arguments
          [⟨(directory.child? name).any Node.isDirectory, .on .isDirectory name⟩,
            ⟨(directory.child? name).isNone && !Tree.isName name, .on .badName name⟩]
          fun tree => ∃ file, Rearranged context.cwd
              (update directory.child? name (some file)) context.tree tree ∧
            (∀ node, directory.child? name = some node → Stamped context node file) ∧
            (directory.child? name = none → file.content? = some "" ∧ file.attributes =
              Node.attributesOf "-rw-r--r--" 0 (Verb.date.run [] context).1.text) := by
  have copies : Verb.cp ∈ Verb.writers := by decide
  have touches : Verb.touch ∈ Verb.writers := by decide
  refine ⟨⟨?_, ?_⟩, ?_, ?_⟩
  · refine (refused_lack_iff copies here).trans ?_
    simp [Verb.hasWords]
  · rintro source destination rfl
    exact decided copies here _ fun _ alters => alters.copied here
  · refine (refused_lack_iff touches here).trans ?_
    simp [Verb.hasWords]
  · rintro name rest rfl
    exact decided touches here _ fun _ alters => alters.touched here

end

theorem copying_and_touching_decided_terminal :
    let context := (Shell.boot .terminal .epoch).context
    let directory := Tutorial.home Instant.epoch.stamp
    context.directory = .ok directory ∧
      Refused context .cp ["documents", "README.txt"] (.on .isDirectory "documents") ∧
      Refused context .touch ["a/b"] (.on .badName "a/b") ∧
      ∃ tree file, Left context .touch ["README.txt"] tree ∧
        Rearranged context.cwd (update directory.child? "README.txt" (some file)) context.tree
          tree ∧
        ∀ node, directory.child? "README.txt" = some node → Stamped context node file := by
  intro context directory
  have here : context.directory = .ok directory := Shell.directory_terminal .epoch
  refine ⟨here, ?_, ?_, ?_⟩
  · exact (((copying_and_touching_decided here _).1.2 _ _ rfl).refused _).mpr rfl
  · exact (((copying_and_touching_decided here _).2.2 "a/b" [] rfl).refused _).mpr rfl
  · obtain ⟨tree, left, file, rearranged, stamped, -⟩ :=
      ((copying_and_touching_decided here _).2.2 "README.txt" [] rfl).done rfl
    exact ⟨tree, file, left, rearranged, stamped⟩

end TeachingShell
