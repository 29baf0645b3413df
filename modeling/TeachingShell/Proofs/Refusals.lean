import TeachingShell.Proofs.Effects
import TeachingShell.Proofs.Objections

/-!
What speaks against the commands that write. Each of them looks at nothing but its words and the
children of the current directory; it is refused for the first objection that applies, and then
nothing has changed. The failure of a tree operation is always one of these, under the word that was
typed.
-/

namespace TeachingShell

open TeachingShell.Tree (Objection answerTo)

theorem Tree.answerTo_cons_eq_error_iff {objection : Objection} {later : List Objection}
    {failure : Failure} :
    answerTo (objection :: later) = .error failure ↔
      (objection.applies = true ∧ objection.failure = failure) ∨
        (objection.applies = false ∧ answerTo later = .error failure) := by
  cases applies : objection.applies with
  | true => simp [answerTo, applies]
  | false => simp [answerTo, applies]

theorem Tree.exists_objection {objections : List Objection} {failure : Failure}
    (answered : answerTo objections = .error failure) :
    ∃ objection ∈ objections, objection.failure = failure := by
  induction objections with
  | nil => cases answered
  | cons objection later ih =>
      rcases answerTo_cons_eq_error_iff.mp answered with ⟨-, same⟩ | ⟨-, answered⟩
      · exact ⟨objection, List.mem_cons_self, same⟩
      · obtain ⟨other, member, same⟩ := ih answered
        exact ⟨other, List.mem_cons_of_mem _ member, same⟩

namespace Verb

@[elab_as_elim]
theorem writers_cases {motive : (verb : Verb) → verb ∈ writers → Prop}
    (mkdir : motive .mkdir (by decide)) (rmdir : motive .rmdir (by decide))
    (touch : motive .touch (by decide)) (rm : motive .rm (by decide))
    (mv : motive .mv (by decide)) (cp : motive .cp (by decide)) (verb : Verb)
    (writes : verb ∈ writers) : motive verb writes := by
  cases verb with
  | mkdir => exact mkdir
  | rmdir => exact rmdir
  | touch => exact touch
  | rm => exact rm
  | mv => exact mv
  | cp => exact cp
  | ls | cd | pwd | cat | whoami | date | clear | help | echo | history =>
      simp [writers] at writes

/-- The tree that a command that writes would leave, or why it leaves none. -/
def attempt (verb : Verb) (arguments : Arguments) (context : Context) : Except Failure Tree :=
  match verb with
  | mkdir => Command.makeDirectory arguments context
  | rmdir => Command.removeDirectory arguments context
  | touch => Command.touch arguments context
  | rm => Command.removeFile arguments context
  | mv => (Command.move arguments context).1.map fun _ => (Command.move arguments context).2
  | cp => Command.copy arguments context
  | ls | cd | pwd | cat | whoami | date | clear | help | echo | history => .ok context.tree

def report (verb : Verb) (newline : String) : Failure → String :=
  match verb with
  | mkdir => Command.makeDirectoryReport
  | rmdir => Command.removeDirectoryReport
  | touch => Command.touchReport
  | rm => Command.removeFileReport
  | mv => Command.moveReport newline
  | cp => Command.copyReport newline
  | ls | cd | pwd | cat | whoami | date | clear | help | echo | history => Failure.phrase

variable {verb : Verb} {arguments : Arguments} {context : Context}

/-- A move commits like the others, though it could keep a tree that it left half-way. -/
theorem run_of_writes (writes : verb ∈ writers) (arguments : Arguments) (context : Context) :
    verb.run arguments context =
      Command.commit context (verb.report context.newline) (verb.attempt arguments context) := by
  cases verb, writes using writers_cases with
  | mkdir | rmdir | touch | rm | cp => rfl
  | mv =>
      rcases Command.move_cases arguments context with ⟨failure, kept⟩ | ⟨tree, moved, -⟩
      · rw [run, attempt, kept]
        rfl
      · rw [run, attempt, moved]
        rfl

theorem alters_of_attempt (writes : verb ∈ writers) {tree : Tree}
    (done : verb.attempt arguments context = .ok tree) : Alters context verb arguments tree := by
  cases verb, writes using writers_cases with
  | mkdir => exact Command.makeDirectory_eq_ok_iff.mp done
  | rmdir => exact Command.removeDirectory_eq_ok_iff.mp done
  | touch => exact Command.touch_eq_ok_iff.mp done
  | rm => exact Command.removeFile_eq_ok_iff.mp done
  | cp => exact Command.copy_eq_ok_iff.mp done
  | mv =>
      rcases Command.move_cases arguments context with ⟨failure, kept⟩ | ⟨other, moved, alters⟩
      · rw [attempt, kept] at done
        cases done
      · rw [attempt, moved] at done
        cases done
        exact alters

end Verb

def Node.objectionsTo (directory : Node) (name : String) : List Objection :=
  [⟨!Tree.isName name, .on .badName name⟩,
    ⟨(directory.child? name).isSome, .on .alreadyExists name⟩]

def Verb.objections (directory : Node) (arguments : Arguments) : Verb → List Objection
  | .mkdir =>
      match arguments with
      | name :: _ => directory.objectionsTo name
      | [] => [⟨true, .missingOperand⟩]
  | .rmdir =>
      match arguments with
      | name :: _ =>
          [⟨(directory.child? name).isNone, .on .notFound name⟩,
            ⟨(directory.child? name).any Node.isFile, .on .notDirectory name⟩,
            ⟨(directory.child? name).any (!·.isEmptyDirectory), .on .notEmpty name⟩]
      | [] => [⟨true, .missingOperand⟩]
  | .touch =>
      match arguments with
      | name :: _ =>
          [⟨(directory.child? name).any Node.isDirectory, .on .isDirectory name⟩,
            ⟨(directory.child? name).isNone && !Tree.isName name, .on .badName name⟩]
      | [] => [⟨true, .missingOperand⟩]
  | .rm =>
      match arguments with
      | name :: _ =>
          [⟨(directory.child? name).isNone, .on .notFound name⟩,
            ⟨(directory.child? name).any Node.isDirectory, .on .isDirectory name⟩]
      | [] => [⟨true, .missingOperand⟩]
  | .mv =>
      match arguments with
      | [source, destination] =>
          ⟨(directory.child? source).isNone, .on .notFound source⟩ ::
            directory.objectionsTo destination
      | _ => [⟨true, .argumentCount⟩]
  | .cp =>
      match arguments with
      | [source, destination] =>
          ⟨(directory.child? source).isNone, .on .notFound source⟩ ::
            ⟨(directory.child? source).any Node.isDirectory, .on .isDirectory source⟩ ::
            directory.objectionsTo destination
      | _ => [⟨true, .argumentCount⟩]
  | _ => []

def Verb.hasWords (arguments : Arguments) : Verb → Bool
  | .mv | .cp => arguments.length == 2
  | _ => !arguments.isEmpty

def Verb.lack : Verb → Failure
  | .mv | .cp => .argumentCount
  | _ => .missingOperand

def Verb.faults : Verb → List Fault
  | .mkdir => [.badName, .alreadyExists]
  | .rmdir => [.notFound, .notDirectory, .notEmpty]
  | .touch => [.isDirectory, .badName]
  | .rm => [.notFound, .isDirectory]
  | .mv => [.notFound, .badName, .alreadyExists]
  | .cp => [.notFound, .isDirectory, .badName, .alreadyExists]
  | _ => []

/-- The word that a failure is about. It is the first one, but for a move or a copy to a destination
that is refused: there it is the second one as soon as nothing is wrong with the source. A listing
looks past flags, and a change of directory without a word goes home. -/
def Verb.quoted? (directory : Node) (arguments : Arguments) : Verb → Option String
  | .mv =>
      match arguments with
      | [source, destination] =>
          some (if (directory.child? source).isNone then source else destination)
      | _ => none
  | .cp =>
      match arguments with
      | [source, destination] =>
          some (if (directory.child? source).all Node.isDirectory then source else destination)
      | _ => none
  | .cd => some (arguments.head?.getD "~")
  | .ls => arguments.operands.head?
  | _ => arguments.head?

theorem Node.fault_of_objectionsTo {directory : Node} {name : String} {failure : Failure}
    (answered : answerTo (directory.objectionsTo name) = .error failure) :
    ∃ fault ∈ [Fault.badName, .alreadyExists], failure = .on fault name := by
  obtain ⟨objection, member, rfl⟩ := Tree.exists_objection answered
  simp only [objectionsTo, List.mem_cons, List.not_mem_nil, or_false] at member
  rcases member with rfl | rfl
  · exact ⟨.badName, by decide, rfl⟩
  · exact ⟨.alreadyExists, by decide, rfl⟩

namespace Verb

variable {verb : Verb} {directory : Node} {arguments : Arguments}

theorem answer_of_lack (writes : verb ∈ writers) (lacks : verb.hasWords arguments = false) :
    answerTo (verb.objections directory arguments) = .error verb.lack := by
  cases verb, writes using writers_cases with
  | mkdir | rmdir | touch | rm =>
      obtain rfl : arguments = [] := by simpa [hasWords] using lacks
      rfl
  | mv | cp =>
      match arguments with
      | [] | [_] | _ :: _ :: _ :: _ => rfl
      | [source, destination] => cases lacks

theorem fault_of_answer (enough : verb.hasWords arguments = true) {failure : Failure}
    (answered : answerTo (verb.objections directory arguments) = .error failure) :
    ∃ fault ∈ verb.faults, ∃ word, verb.quoted? directory arguments = some word ∧
      failure = .on fault word := by
  cases verb with
  | mkdir | rmdir | touch | rm =>
      match arguments with
      | [] => cases enough
      | name :: rest =>
          obtain ⟨objection, member, rfl⟩ := Tree.exists_objection answered
          revert objection
          simp [objections, Node.objectionsTo, faults, quoted?]
  | mv =>
      match arguments with
      | [] | [_] | _ :: _ :: _ :: _ => cases enough
      | [source, destination] =>
          rcases Tree.answerTo_cons_eq_error_iff.mp answered with ⟨missing, rfl⟩ | ⟨found, answered⟩
          · exact ⟨.notFound, by decide, source, congrArg some (if_pos missing), rfl⟩
          · obtain ⟨fault, member, same⟩ := Node.fault_of_objectionsTo answered
            refine ⟨fault, List.mem_cons_of_mem _ member, destination, congrArg some ?_, same⟩
            exact if_neg (Bool.eq_false_iff.mp found)
  | cp =>
      match arguments with
      | [] | [_] | _ :: _ :: _ :: _ => cases enough
      | [source, destination] =>
          simp only [quoted?]
          rcases Tree.answerTo_cons_eq_error_iff.mp answered with ⟨missing, rfl⟩ | ⟨found, answered⟩
          · obtain missing := Option.isNone_iff_eq_none.mp missing
            exact ⟨.notFound, by decide, source, by simp [missing], rfl⟩
          · have present := Option.isNone_eq_false_iff.mp found
            obtain ⟨node, found⟩ := Option.isSome_iff_exists.mp present
            rcases Tree.answerTo_cons_eq_error_iff.mp answered with ⟨kind, rfl⟩ | ⟨kind, answered⟩
            · have directory : node.isDirectory = true := by simpa [found] using kind
              exact ⟨.isDirectory, by decide, source, by simp [found, directory], rfl⟩
            · have file : node.isDirectory = false := by simpa [found] using kind
              obtain ⟨fault, member, same⟩ := Node.fault_of_objectionsTo answered
              refine ⟨fault, ?_, destination, by simp [found, file], same⟩
              exact List.mem_cons_of_mem _ (List.mem_cons_of_mem _ member)
  | ls | cd | pwd | cat | whoami | date | clear | help | echo | history => cases answered

end Verb

def ending (result : Except Failure Tree) : Except Failure Unit := result.map fun _ => ()

theorem ending_eq_error_iff {result : Except Failure Tree} {failure : Failure} :
    ending result = .error failure ↔ result = .error failure := by
  cases result with
  | error other => simp [ending, Except.map]
  | ok tree => simp [ending, Except.map]

namespace Command

variable {context : Context} {directory : Node}

section

variable (here : context.directory = .ok directory)

include here

theorem lookup?_here (name : String) :
    context.tree.lookup? (context.cwd.join name) = directory.child? name :=
  Tree.lookup?_join_of_directory (Tree.directory_eq_ok_iff.mp here).1 name

theorem child_bind {α : Type} (name : String) (next : Node → Except Failure α) :
    (child name context >>= next) =
      match directory.child? name with
      | none => .error (.on .notFound name)
      | some node => next node := by
  simp only [child, here, Bind.bind, Except.bind]
  cases directory.child? name with
  | none => rfl
  | some node => rfl

theorem ending_insert (name : String) (node : Node) :
    ending (naming name (context.tree.insert context.cwd name node)) =
      answerTo (directory.objectionsTo name) := by
  have answered : context.tree.directory context.cwd = .ok directory := here
  simp only [Tree.insert, Tree.checkName_bind, answered, Node.objectionsTo, answerTo]
  cases Tree.isName name with
  | false => rfl
  | true =>
      cases found : directory.child? name with
      | some taken =>
          simp only [Bind.bind, Except.bind, found]
          rfl
      | none =>
          simp only [Bind.bind, Except.bind, found]
          rfl

theorem removeChild_of_child {name : String} {node : Node}
    (found : directory.child? name = some node) :
    removeChild name context = .ok (context.tree.unbind context.cwd name) :=
  removeChild_eq_ok_iff.mpr ⟨⟨node, (lookup?_here here name).trans found⟩, rfl⟩

theorem ending_makeDirectory (arguments : Arguments) :
    ending (makeDirectory arguments context) =
      answerTo (Verb.mkdir.objections directory arguments) := by
  cases arguments with
  | nil => rfl
  | cons name rest => exact ending_insert here name _

theorem ending_touch (arguments : Arguments) :
    ending (touch arguments context) = answerTo (Verb.touch.objections directory arguments) := by
  cases arguments with
  | nil => rfl
  | cons name rest =>
      simp only [touch, one, Bind.bind, Except.bind, lookup?_here here, Verb.objections]
      cases found : directory.child? name with
      | none =>
          have created := ending_insert here name (Node.newFile "" context.now)
          simp only [created, Node.objectionsTo, found]
          simp [answerTo]
      | some node =>
          cases kind : node.isDirectory with
          | true => simp [answerTo, kind, ending, Except.map]
          | false => simp [answerTo, kind, ending, Except.map]

theorem ending_removeFile (arguments : Arguments) :
    ending (removeFile arguments context) = answerTo (Verb.rm.objections directory arguments) := by
  cases arguments with
  | nil => rfl
  | cons name rest =>
      have opened : removeFile (name :: rest) context = child name context >>= fun node =>
          if node.isDirectory then .error (.on .isDirectory name)
          else removeChild name context := rfl
      rw [opened, child_bind here, Verb.objections]
      cases found : directory.child? name with
      | none => rfl
      | some node =>
          rw [removeChild_of_child here found]
          cases kind : node.isDirectory with
          | true => simp [answerTo, kind, ending, Except.map]
          | false => simp [answerTo, kind, ending, Except.map]

theorem ending_removeDirectory (arguments : Arguments) :
    ending (removeDirectory arguments context) =
      answerTo (Verb.rmdir.objections directory arguments) := by
  cases arguments with
  | nil => rfl
  | cons name rest =>
      have opened : removeDirectory (name :: rest) context = child name context >>= fun node =>
          if node.isFile then .error (.on .notDirectory name)
          else if !node.isEmptyDirectory then .error (.on .notEmpty name)
          else removeChild name context := rfl
      rw [opened, child_bind here, Verb.objections]
      cases found : directory.child? name with
      | none => rfl
      | some node =>
          rw [removeChild_of_child here found]
          cases file : node.isFile with
          | true => simp [answerTo, file, ending, Except.map]
          | false =>
              cases empty : node.isEmptyDirectory with
              | true => simp [answerTo, file, empty, ending, Except.map]
              | false => simp [answerTo, file, empty, ending, Except.map]

theorem ending_copy (arguments : Arguments) :
    ending (copy arguments context) = answerTo (Verb.cp.objections directory arguments) := by
  match arguments with
  | [] | [_] | _ :: _ :: _ :: _ => rfl
  | [source, destination] =>
      have opened : copy [source, destination] context = child source context >>= fun node =>
          if node.isDirectory then .error (.on .isDirectory source)
          else naming destination
            (context.tree.insert context.cwd destination (node.restamp context.now)) := rfl
      rw [opened, child_bind here, Verb.objections]
      cases found : directory.child? source with
      | none => rfl
      | some node =>
          cases kind : node.isDirectory with
          | true => simp [answerTo, kind, ending, Except.map]
          | false =>
              have placed := ending_insert here destination (node.restamp context.now)
              simpa [answerTo, kind] using placed

end

theorem ending_attempt_mv (source destination : String) :
    ending (Verb.mv.attempt [source, destination] context) =
      namingEither source destination (context.tree.relocate (context.cwd.join source)
        (context.cwd.join destination)).1 := by
  have answered : (move [source, destination] context).1 =
      namingEither source destination (context.tree.relocate (context.cwd.join source)
        (context.cwd.join destination)).1 := rfl
  rw [Verb.attempt, ← answered]
  cases (move [source, destination] context).1 with
  | error failure => rfl
  | ok => rfl

/-- A move among the children of one directory cannot lead into itself, and the directory that it
leads to is there. -/
theorem ending_move (here : context.directory = .ok directory) (arguments : Arguments) :
    ending (Verb.mv.attempt arguments context) =
      answerTo (Verb.mv.objections directory arguments) := by
  match arguments with
  | [] | [_] | _ :: _ :: _ :: _ => rfl
  | [source, destination] =>
      obtain ⟨found, holds⟩ := Tree.directory_eq_ok_iff.mp here
      have place : context.tree.lookup? context.cwd = some directory := found
      have notFile : directory.isFile = false := by
        rw [Bool.eq_false_iff]
        intro file
        rw [Node.isFile_iff.mp file] at holds
        cases holds
      rw [ending_attempt_mv, Tree.relocate_eq_answerTo]
      simp only [Tree.objections, Tree.objectionsBelow, Path.isRoot_join, Path.pop_join,
        Path.name?_join, Option.getD_some, answerTo, lookup?_here here, place, Verb.objections,
        Node.objectionsTo]
      cases sourceFound : directory.child? source with
      | none => rfl
      | some node =>
          cases Tree.isName destination with
          | false => rfl
          | true =>
              cases destinationFound : directory.child? destination with
              | some taken => rfl
              | none =>
                  have apart : destination ≠ source := by
                    rintro rfl
                    rw [sourceFound] at destinationFound
                    cases destinationFound
                  simp [apart, notFile, namingEither_ok]

theorem ending_attempt {verb : Verb} (writes : verb ∈ Verb.writers)
    (here : context.directory = .ok directory) (arguments : Arguments) :
    ending (verb.attempt arguments context) = answerTo (verb.objections directory arguments) := by
  cases verb, writes using Verb.writers_cases with
  | mkdir => exact ending_makeDirectory here arguments
  | rmdir => exact ending_removeDirectory here arguments
  | touch => exact ending_touch here arguments
  | rm => exact ending_removeFile here arguments
  | mv => exact ending_move here arguments
  | cp => exact ending_copy here arguments

end Command

structure Refused (context : Context) (verb : Verb) (arguments : Arguments) (failure : Failure) :
    Prop where
  reason : verb.attempt arguments context = .error failure
  told : verb.run arguments context =
    (.failed (verb.report context.newline failure), context)

structure Left (context : Context) (verb : Verb) (arguments : Arguments) (tree : Tree) : Prop where
  result : verb.attempt arguments context = .ok tree
  told : verb.run arguments context = (.silent, { context with tree := tree })

/-- A command is refused for the first objection that applies and for no other reason. Where none
applies it leaves a tree of a certain kind. -/
structure Decided (context : Context) (verb : Verb) (arguments : Arguments)
    (objections : List Objection) (Kind : Tree → Prop) : Prop where
  refused : ∀ failure, Refused context verb arguments failure ↔ answerTo objections = .error failure
  done : answerTo objections = .ok () → ∃ tree, Left context verb arguments tree ∧ Kind tree

theorem refused_iff_attempt {context : Context} {verb : Verb} (writes : verb ∈ Verb.writers)
    {arguments : Arguments} {failure : Failure} :
    Refused context verb arguments failure ↔ verb.attempt arguments context = .error failure := by
  constructor
  · exact Refused.reason
  · intro failed
    refine ⟨failed, ?_⟩
    rw [Verb.run_of_writes writes, failed]
    rfl

theorem decided {context : Context} {directory : Node} {verb : Verb} (writes : verb ∈ Verb.writers)
    (here : context.directory = .ok directory) (arguments : Arguments) {Kind : Tree → Prop}
    (kind : ∀ tree, Alters context verb arguments tree → Kind tree) :
    Decided context verb arguments (verb.objections directory arguments) Kind := by
  have ends := Command.ending_attempt writes here arguments
  constructor
  · intro failure
    rw [refused_iff_attempt writes, ← ending_eq_error_iff, ends]
  · intro unopposed
    rw [unopposed] at ends
    cases attempted : verb.attempt arguments context with
    | error failure =>
        rw [attempted] at ends
        cases ends
    | ok tree =>
        refine ⟨tree, ⟨attempted, ?_⟩, kind tree (Verb.alters_of_attempt writes attempted)⟩
        rw [Verb.run_of_writes writes, attempted]
        rfl

end TeachingShell
