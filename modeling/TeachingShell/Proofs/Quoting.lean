import TeachingShell.Proofs.Atomicity
import TeachingShell.Proofs.Location
import TeachingShell.Proofs.ReadBack
import TeachingShell.Proofs.Refusals

/-!
The texts of failures. A command puts fixed words around one of its own, spelled as it was typed;
the paths that the tree would report are never seen, because a line is dispatched in a directory
that exists.
-/

namespace TeachingShell

theorem Fault.no_slash (fault : Fault) : '/' ∉ fault.phrase.toList := by
  cases fault <;> decide

namespace Verb

def complainers : List Verb := .cat :: .cd :: .ls :: writers

def opening : Verb → Fault → String
  | .cat, _ => "cat: "
  | .cd, _ => "bash: cd: "
  | .ls, _ => "ls: cannot access '"
  | .mkdir, _ => "mkdir: cannot create directory '"
  | .rmdir, _ => "rmdir: failed to remove '"
  | .touch, _ => "touch: cannot touch '"
  | .rm, _ => "rm: cannot remove '"
  | .mv, .notFound => "mv: cannot stat '"
  | .mv, _ => "mv: cannot move to '"
  | .cp, .notFound => "cp: cannot stat '"
  | .cp, .isDirectory => "cp: -r not specified; omitting directory '"
  | .cp, _ => "cp: cannot copy to '"
  | _, _ => ""

def closing : Verb → Fault → String
  | .cat, fault | .cd, fault => ": " ++ fault.phrase
  | .cp, .isDirectory => "'"
  | _, fault => "': " ++ fault.phrase

/-- What is said where no word is to blame: there are too few or too many of them, one of them has a
letter that is no option, or there is no way back. -/
def dismissal? (context : Context) (arguments : Arguments) : Verb → Option String
  | .cat => if arguments = [] then some "cat: missing operand" else none
  | .cd =>
      if arguments.head? = some "-" ∧ context.session.previous = none then
        some "bash: cd: OLDPWD not set"
      else none
  | .ls =>
      (Command.strayFlag? 'l' arguments).map fun letter =>
        "ls: invalid option -- '" ++ letter.toString ++ "'"
  | verb =>
      if verb.hasWords arguments then none else some (verb.report context.newline verb.lack)

def obstacles (context : Context) (directory : Node) (arguments : Arguments) :
    Verb → List Tree.Objection
  | .cat =>
      match arguments with
      | word :: _ =>
          let found := context.tree.lookup? (context.resolve word)
          [⟨found.isNone, .on .notFound word⟩, ⟨found.any Node.isDirectory, .on .isDirectory word⟩]
      | [] => []
  | .cd =>
      match Command.destination? arguments.head? context.session with
      | some destination =>
          let found := context.tree.lookup? destination.path
          [⟨found.isNone, .on .notFound destination.label⟩,
            ⟨found.any Node.isFile, .on .notDirectory destination.label⟩]
      | none => []
  | .ls =>
      match arguments.operands.head? with
      | some word =>
          [⟨(context.tree.lookup? (context.resolve word)).isNone, .on .notFound word⟩]
      | none => []
  | verb => verb.objections directory arguments

/-- How a command with an operand ends: it is dismissed, or it complains of the first obstacle, or
there is none and it succeeds. -/
inductive Ends (context : Context) (directory : Node) (arguments : Arguments) (verb : Verb) :
    Outcome → Prop
  | dismissed {text : String} : verb.dismissal? context arguments = some text →
      Ends context directory arguments verb (.failed text)
  | complained {fault : Fault} {word : String} : verb.dismissal? context arguments = none →
      Tree.answerTo (verb.obstacles context directory arguments) = .error (.on fault word) →
      verb.quoted? directory arguments = some word →
      Ends context directory arguments verb
        (.failed (verb.opening fault ++ word ++ verb.closing fault))
  | succeeded {outcome : Outcome} : verb.dismissal? context arguments = none →
      Tree.answerTo (verb.obstacles context directory arguments) = .ok () → outcome.ok →
      Ends context directory arguments verb outcome

theorem no_slash (verb : Verb) (fault : Fault) :
    '/' ∉ (verb.opening fault).toList ∧ '/' ∉ (verb.closing fault).toList := by
  constructor
  · unfold opening
    split <;> decide
  · have phrase := fault.no_slash
    unfold closing
    split
    · simp [phrase]
    · simp [phrase]
    · simp
    · simp [phrase]

theorem report_on {verb : Verb} (writes : verb ∈ writers) (newline : String) (fault : Fault)
    (word : String) :
    verb.report newline (.on fault word) = verb.opening fault ++ word ++ verb.closing fault := by
  have complain (lead : String) : Command.complaint lead (.on fault word) =
      lead ++ " '" ++ word ++ ("': " ++ fault.phrase) := by
    rw [Command.complaint, ← String.append_assoc]
    rfl
  cases verb, writes using writers_cases with
  | mkdir | rmdir | touch | rm => exact complain _
  | mv => cases fault <;> exact complain _
  | cp =>
      cases fault with
      | isDirectory => rfl
      | notFound | notDirectory | alreadyExists | notEmpty | badName | wouldCycle
      | unknownCommand => exact complain _

variable {verb : Verb} {context : Context} {directory : Node} {arguments : Arguments}

theorem Ends.complaint {fault : Fault} {word text : String}
    (known : verb.dismissal? context arguments = none)
    (answered : Tree.answerTo (verb.obstacles context directory arguments) =
      .error (.on fault word))
    (quoted : verb.quoted? directory arguments = some word)
    (told : text = verb.opening fault ++ word ++ verb.closing fault) :
    verb.Ends context directory arguments (.failed text) :=
  told ▸ .complained known answered quoted

theorem mem_of_quoted? {word : String} (quoted : verb.quoted? directory arguments = some word) :
    word ∈ arguments ∨ (verb = .cd ∧ arguments = [] ∧ word = "~") := by
  cases verb with
  | mv | cp =>
      left
      match arguments with
      | [] | [_] | _ :: _ :: _ :: _ => cases quoted
      | [source, destination] =>
          obtain rfl := Option.some.inj quoted
          split <;> simp
  | cd =>
      cases arguments with
      | nil => exact Or.inr ⟨rfl, rfl, (Option.some.inj quoted).symm⟩
      | cons first rest =>
          obtain rfl := Option.some.inj quoted
          exact Or.inl List.mem_cons_self
  | ls => exact Or.inl (List.mem_of_mem_filter (List.mem_of_head? quoted))
  | pwd | cat | mkdir | rmdir | touch | rm | whoami | date | clear | help | echo | history =>
      exact Or.inl (List.mem_of_head? quoted)

end Verb

namespace Command

variable {context : Context} {directory : Node}

theorem destination?_eq_none_iff {word : Option String} {session : Session} :
    destination? word session = none ↔ word = some "-" ∧ session.previous = none := by
  unfold destination?
  split <;> simp_all

theorem label_of_destination? {word : Option String} {session : Session} {destination : Destination}
    (known : destination? word session = some destination) :
    destination.label = word.getD "~" := by
  unfold destination? at known
  split at known
  · cases known
    rfl
  · obtain ⟨path, -, rfl⟩ := Option.map_eq_some_iff.mp known
    rfl
  · cases known
    rfl

theorem ends_concatenate (arguments : Arguments) :
    Verb.cat.Ends context directory arguments (concatenate arguments context) := by
  cases arguments with
  | nil => exact .dismissed rfl
  | cons word rest =>
      have first : concatenate (word :: rest) context = concatenate [word] context := rfl
      rw [first, concatenate_word]
      cases found : context.tree.lookup? (context.resolve word) with
      | none =>
          have answered : Tree.answerTo (Verb.cat.obstacles context directory (word :: rest)) =
              .error (.on .notFound word) := by
            rw [Verb.obstacles, found]
            rfl
          exact .complaint rfl answered rfl String.append_assoc
      | some node =>
          cases node with
          | file attributes content =>
              refine .succeeded rfl ?_ rfl
              rw [Verb.obstacles, found]
              rfl
          | directory attributes names child =>
              have answered : Tree.answerTo (Verb.cat.obstacles context directory (word :: rest)) =
                  .error (.on .isDirectory word) := by
                rw [Verb.obstacles, found]
                rfl
              exact .complaint rfl answered rfl String.append_assoc

theorem ends_changeDirectory (arguments : Arguments) :
    Verb.cd.Ends context directory arguments (changeDirectory arguments context).1 := by
  unfold changeDirectory
  cases known : destination? arguments.head? context.session with
  | none => exact .dismissed (if_pos (destination?_eq_none_iff.mp known))
  | some destination =>
      have stays : Verb.cd.dismissal? context arguments = none := if_neg fun lost => by
        rw [destination?_eq_none_iff.mpr lost] at known
        cases known
      have label := label_of_destination? known
      have quoted : Verb.cd.quoted? directory arguments = some destination.label := by
        rw [label]
        rfl
      simp only [Tree.directory, Tree.stat_bind]
      cases found : context.tree.lookup? destination.path with
      | none =>
          refine .complaint stays ?_ quoted String.append_assoc
          rw [Verb.obstacles, known]
          simp only [found]
          rfl
      | some node =>
          cases node with
          | file attributes content =>
              refine .complaint stays ?_ quoted String.append_assoc
              rw [Verb.obstacles, known]
              simp only [found]
              rfl
          | directory attributes names child =>
              refine .succeeded stays ?_ rfl
              rw [Verb.obstacles, known]
              simp only [found]
              rfl

theorem listing_word (word : String) (context : Context) :
    listing (some word) context =
      match context.tree.lookup? (context.resolve word) with
      | none => .error (.on .notFound word)
      | some node =>
          .ok (if node.isFile then .file (node.entry word) else .directory node.entries) := by
  simp only [listing, Tree.stat_bind]
  cases context.tree.lookup? (context.resolve word) with
  | none => rfl
  | some node => rfl

theorem ends_list (here : context.directory = .ok directory) (arguments : Arguments) :
    Verb.ls.Ends context directory arguments (list arguments context) := by
  unfold list
  cases stray : strayFlag? 'l' arguments with
  | some letter =>
      refine .dismissed ?_
      rw [Verb.dismissal?, stray]
      rfl
  | none =>
      have known : Verb.ls.dismissal? context arguments = none := by
        rw [Verb.dismissal?, stray]
        rfl
      simp only
      cases target : arguments.operands.head? with
      | none =>
          have place : context.tree.directory context.cwd = .ok directory := here
          have listed : listing none context = .ok (.directory directory.entries) := by
            simp only [listing, Tree.list, place, Bind.bind, Except.bind]
          rw [listed]
          refine .succeeded known ?_ rfl
          rw [Verb.obstacles, target]
          rfl
      | some word =>
          rw [listing_word]
          cases found : context.tree.lookup? (context.resolve word) with
          | none =>
              refine .complaint known ?_ target String.append_assoc
              rw [Verb.obstacles, target]
              simp only [found]
              rfl
          | some node =>
              refine .succeeded known ?_ rfl
              rw [Verb.obstacles, target]
              simp only [found]
              rfl

end Command

namespace Verb

variable {verb : Verb} {context : Context} {directory : Node} {arguments : Arguments}

theorem dismissal?_of_writes (writes : verb ∈ writers) :
    verb.dismissal? context arguments =
      if verb.hasWords arguments then none else some (verb.report context.newline verb.lack) := by
  cases verb, writes using writers_cases with
  | mkdir | rmdir | touch | rm | mv | cp => rfl

theorem obstacles_of_writes (writes : verb ∈ writers) :
    verb.obstacles context directory arguments = verb.objections directory arguments := by
  cases verb, writes using writers_cases with
  | mkdir | rmdir | touch | rm | mv | cp => rfl

theorem ends_of_writes (writes : verb ∈ writers) (here : context.directory = .ok directory) :
    verb.Ends context directory arguments (verb.run arguments context).1 := by
  rw [run_of_writes writes]
  have known : verb.dismissal? context arguments = _ := dismissal?_of_writes writes
  have ended := Command.ending_attempt writes here arguments
  cases enough : verb.hasWords arguments with
  | false =>
      rw [answer_of_lack writes enough, ending_eq_error_iff] at ended
      rw [ended]
      rw [enough] at known
      exact .dismissed known
  | true =>
      rw [enough] at known
      have same : verb.obstacles context directory arguments = _ := obstacles_of_writes writes
      rw [← same] at ended
      cases attempted : verb.attempt arguments context with
      | ok tree =>
          rw [attempted] at ended
          exact .succeeded known ended.symm rfl
      | error failure =>
          rw [attempted] at ended
          have answered : Tree.answerTo (verb.objections directory arguments) = .error failure := by
            rw [← same, ← ended]
            rfl
          obtain ⟨fault, -, word, quoted, rfl⟩ := fault_of_answer enough answered
          exact .complaint known ended.symm quoted (report_on writes _ fault word)

theorem ends_run (complains : verb ∈ complainers) (here : context.directory = .ok directory)
    (arguments : Arguments) :
    verb.Ends context directory arguments (verb.run arguments context).1 := by
  simp only [complainers, List.mem_cons] at complains
  rcases complains with rfl | rfl | rfl | writes
  · exact Command.ends_concatenate arguments
  · exact Command.ends_changeDirectory arguments
  · exact Command.ends_list here arguments
  · exact ends_of_writes writes here

end Verb

namespace Shell

/-- A line that fails quotes a word of its own between fixed ones, in whatever state it finds the
shell. Only the tilde of a change of directory without a word is quoted without being typed. -/
theorem failure_quotes_operand (shell : Shell) {line : String} {verb : Verb} {arguments : Arguments}
    (complains : verb ∈ Verb.complainers) (spoken : Text.words line = verb.name :: arguments) :
    let heard := (shell.record (Text.trim line)).settle
    ∃ directory, heard.context.directory = .ok directory ∧
      verb.Ends heard.context directory arguments (shell.execute line).1 ∧
      (∀ word, verb.quoted? directory arguments = some word →
        word.toList <:+: line.toList ∨ (verb = .cd ∧ arguments = [] ∧ word = "~")) ∧
      ∀ fault, '/' ∉ (verb.opening fault).toList ∧ '/' ∉ (verb.closing fault).toList := by
  intro heard
  have located : heard.Located := located_settle _
  obtain ⟨directory, here⟩ := Tree.isDirectory_iff.mp located
  have executed : shell.execute line = heard.dispatch verb.name arguments := by
    rw [execute, spoken]
  refine ⟨directory, here, ?_, ?_, verb.no_slash⟩
  · rw [executed, dispatch_verb]
    exact Verb.ends_run complains here arguments
  · intro word quoted
    rcases Verb.mem_of_quoted? quoted with typed | bare
    · have member : word ∈ Text.words line := by
        rw [spoken]
        exact List.mem_cons_of_mem _ typed
      exact Or.inl (Text.infix_of_mem_words member)
    · exact Or.inr bare

theorem failure_quotes_operand_stranded :
    Verb.mv ∈ Verb.complainers ∧ Text.words "mv ./a  b" = Verb.mv.name :: ["./a", "b"] ∧
      (∃ directory,
        ((stranded.record (Text.trim "mv ./a  b")).settle).context.directory = .ok directory ∧
        Verb.mv.Ends ((stranded.record (Text.trim "mv ./a  b")).settle).context directory
          ["./a", "b"] (stranded.execute "mv ./a  b").1) ∧
      (stranded.execute "mv ./a  b").1 =
        .failed "mv: cannot stat './a': No such file or directory" := by
  have complains : Verb.mv ∈ Verb.complainers := by decide
  have spoken : Text.words "mv ./a  b" = Verb.mv.name :: ["./a", "b"] := by decide
  obtain ⟨directory, here, ends, -, -⟩ := failure_quotes_operand stranded complains spoken
  exact ⟨complains, spoken, ⟨directory, here, ends⟩, by decide⟩

end Shell

end TeachingShell
