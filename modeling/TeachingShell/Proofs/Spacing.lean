import TeachingShell.Proofs.Remembering
import TeachingShell.Proofs.Replies

/-!
Lines with the same words. What stands between the words goes into the history and nowhere else, and
no command but `history` looks at the history; so two such lines do the same and are only remembered
as they were typed.
-/

namespace TeachingShell

namespace Context

def withHistory (context : Context) (history : List String) : Context :=
  { context with session := { context.session with history := history } }

def forget (context : Context) : Context := context.withHistory []

@[simp] theorem forget_withHistory (context : Context) (history : List String) :
    (context.withHistory history).forget = context.forget := rfl

end Context

namespace Command

variable (context : Context) (history : List String)

theorem commit_withHistory (report : Failure → String) (result : Except Failure Tree) :
    commit (context.withHistory history) report result =
      ((commit context report result).1, (commit context report result).2.withHistory history) := by
  cases result with
  | error failure => rfl
  | ok tree => rfl

theorem keep_withHistory (report : Failure → String) (result : Except Failure Unit × Tree) :
    keep (context.withHistory history) report result =
      ((keep context report result).1, (keep context report result).2.withHistory history) := by
  obtain ⟨answer, tree⟩ := result
  cases answer with
  | error failure => rfl
  | ok => rfl

theorem changeDirectory_withHistory (arguments : Arguments) :
    changeDirectory arguments (context.withHistory history) =
      ((changeDirectory arguments context).1,
        (changeDirectory arguments context).2.withHistory history) := by
  have place : destination? arguments.head? (context.withHistory history).session =
      destination? arguments.head? context.session := by
    unfold destination?
    rfl
  have trees : (context.withHistory history).tree = context.tree := rfl
  simp only [changeDirectory, place, trees]
  cases destination? arguments.head? context.session with
  | none => rfl
  | some destination =>
      simp only
      cases context.tree.directory destination.path with
      | error failure => rfl
      | ok node => rfl

end Command

/-- No command but `history` looks at the history, and none of these changes it. -/
theorem Verb.run_withHistory {verb : Verb} (other : verb ≠ .history) (arguments : Arguments)
    (context : Context) (history : List String) :
    verb.run arguments (context.withHistory history) =
      ((verb.run arguments context).1, (verb.run arguments context).2.withHistory history) := by
  cases verb with
  | ls | pwd | cat | whoami | date | clear | help | echo => rfl
  | cd => exact Command.changeDirectory_withHistory context history arguments
  | mkdir | rmdir | touch | rm | cp => exact Command.commit_withHistory context history _ _
  | mv => exact Command.keep_withHistory context history _ _
  | history => exact absurd rfl other

theorem Command.forget_history (arguments : Arguments) (context : Context) :
    (Command.history arguments context).2.forget = context.forget := by
  unfold Command.history
  split
  · rfl
  · rfl
  · rfl

theorem Verb.forget_run_withHistory (verb : Verb) (arguments : Arguments) (context : Context)
    (history : List String) :
    (verb.run arguments (context.withHistory history)).2.forget =
      (verb.run arguments context).2.forget := by
  by_cases own : verb = .history
  · subst own
    rw [run, run, Command.forget_history, Command.forget_history, Context.forget_withHistory]
  · rw [run_withHistory own, Context.forget_withHistory]

theorem Session.exists_history_record (session : Session) (line : String) :
    ∃ history, session.record line = { session with history := history } := by
  unfold Session.record
  split
  · exact ⟨session.history, rfl⟩
  · exact ⟨_, rfl⟩

namespace Shell

def withHistory (shell : Shell) (history : List String) : Shell :=
  { shell with context := shell.context.withHistory history }

def forget (shell : Shell) : Shell := { shell with context := shell.context.forget }

theorem dispatch_withHistory (shell : Shell) {word : String} (other : word ≠ "history")
    (arguments : Arguments) (history : List String) :
    ((shell.withHistory history).dispatch word arguments).1 = (shell.dispatch word arguments).1 := by
  cases found : Registry.builtins.get? word with
  | none => simp only [dispatch, found]
  | some tool =>
      obtain ⟨verb, rfl, -⟩ := Registry.verb_of_get?_builtins found
      have different : verb ≠ .history := by
        rintro rfl
        exact other rfl
      have ran := Verb.run_withHistory different arguments shell.context history
      have answer := congrArg Prod.fst ran
      rw [dispatch_verb, dispatch_verb]
      exact answer

theorem forget_dispatch_withHistory (shell : Shell) (word : String) (arguments : Arguments)
    (history : List String) :
    ((shell.withHistory history).dispatch word arguments).2.forget =
      (shell.dispatch word arguments).2.forget := by
  cases found : Registry.builtins.get? word with
  | none =>
      simp only [dispatch, found]
      rfl
  | some tool =>
      obtain ⟨verb, rfl, -⟩ := Registry.verb_of_get?_builtins found
      have ran := verb.forget_run_withHistory arguments shell.context history
      rw [dispatch_verb, dispatch_verb]
      exact congrArg (fun context => { shell with context := context }) ran

theorem settle_record (shell : Shell) (line : String) :
    (shell.record line).settle = shell.settle.withHistory (shell.session.record line).history := by
  obtain ⟨history, recorded⟩ := shell.session.exists_history_record line
  have heard : shell.record line = shell.withHistory history :=
    congrArg (fun session => { shell with context := { shell.context with session := session } })
      recorded
  rw [heard, recorded]
  rfl

theorem execute_of_words (shell : Shell) {line word : String} {arguments : Arguments}
    (spoken : Text.words line = word :: arguments) :
    shell.execute line =
      (shell.settle.withHistory (shell.session.record (Text.trim line)).history).dispatch word
        arguments := by
  rw [execute, spoken, ← settle_record]

end Shell

theorem clearsHistory_of_words {first second : String}
    (same : Text.words first = Text.words second) :
    clearsHistory first = clearsHistory second := by
  rw [clearsHistory, clearsHistory, same]

namespace Text

theorem dropBlanks_append {before : List Char} (blank : ∀ c ∈ before, isBlank c)
    (text : List Char) : dropBlanks (before ++ text) = dropBlanks text :=
  List.dropWhile_append_of_pos blank

theorem trim_append_blanks {after : String} (blank : ∀ c ∈ after.toList, isBlank c)
    (line : String) : trim (line ++ after) = trim line := by
  have nothing : dropBlanks after.toList = [] := by
    rw [← List.append_nil after.toList, dropBlanks_append blank]
    rfl
  have reversed : ∀ c ∈ after.toList.reverse, isBlank c := fun c member =>
    blank c (List.mem_reverse.mp member)
  have dropped : dropBlanks (line.toList ++ after.toList) =
      if (dropBlanks line.toList).isEmpty then dropBlanks after.toList
      else dropBlanks line.toList ++ after.toList := List.dropWhile_append
  simp only [trim, String.toList_append, dropped, nothing]
  cases kept : dropBlanks line.toList with
  | nil => rfl
  | cons first rest =>
      simp only [List.isEmpty_cons, Bool.false_eq_true, if_false, List.reverse_append,
        dropBlanks_append reversed]

theorem trim_blanks_append {before : String} (blank : ∀ c ∈ before.toList, isBlank c)
    (line : String) : trim (before ++ line) = trim line := by
  rw [trim, String.toList_append, dropBlanks_append blank, trim]

theorem words_append_blank (before : String) {c : Char} (blank : isBlank c) (after : String) :
    words (before ++ c.toString ++ after) = words before ++ words after := by
  have spelled : (before ++ c.toString ++ after).toList = before.toList ++ c :: after.toList := by
    simp
  rw [words, spelled, fields_append_separator blank, List.map_append, words, words]

end Text

namespace Shell

theorem execute_surrounded (shell : Shell) {before after : String}
    (blankBefore : ∀ c ∈ before.toList, Text.isBlank c)
    (blankAfter : ∀ c ∈ after.toList, Text.isBlank c) (line : String) :
    shell.execute (before ++ line ++ after) = shell.execute line := by
  rw [← shell.execute_trim, Text.trim_append_blanks blankAfter, Text.trim_blanks_append blankBefore,
    shell.execute_trim]

theorem execute_echo (shell : Shell) {c : Char} (blank : Text.isBlank c) (text : String) :
    (shell.execute ("echo" ++ c.toString ++ text)).1 =
      .success (" ".intercalate (Text.words text)) := by
  have own : Text.words "echo" = ["echo"] := by decide
  have spoken : Text.words ("echo" ++ c.toString ++ text) = Verb.echo.name :: Text.words text := by
    rw [Text.words_append_blank "echo" blank, own]
    rfl
  rw [execute_of_words shell spoken, dispatch_verb]
  rfl

/-- Lines with the same words do the same to all of a shell but its history, and unless they ask for
the history they get the same answer. The history gets each line as it was typed, or is cleared by
both. Blanks around a line do not even go into the history; and `echo` gives the words of any text
back with a space between them. -/
theorem spacing_makes_no_difference (shell : Shell) :
    (∀ first second, Text.words first = Text.words second → Text.words first ≠ [] →
      (shell.execute first).2.forget = (shell.execute second).2.forget ∧
      ((Text.words first).head? ≠ some "history" →
        (shell.execute first).1 = (shell.execute second).1) ∧
      clearsHistory first = clearsHistory second ∧
      ∀ line ∈ [first, second], (shell.execute line).2.session.history =
        if clearsHistory line then [] else (shell.session.record (Text.trim line)).history) ∧
      (∀ before line after : String, (∀ c ∈ before.toList, Text.isBlank c) →
        (∀ c ∈ after.toList, Text.isBlank c) →
          shell.execute (before ++ line ++ after) = shell.execute line) ∧
      ∀ (c : Char) (text : String), Text.isBlank c →
        (shell.execute ("echo" ++ c.toString ++ text)).1 =
          .success (" ".intercalate (Text.words text)) := by
  refine ⟨?_, ?_, ?_⟩
  · intro first second same visible
    obtain ⟨word, arguments, spoken⟩ := List.exists_cons_of_ne_nil visible
    have firstRun := execute_of_words shell spoken
    have secondRun := execute_of_words shell (same ▸ spoken)
    refine ⟨?_, ?_, clearsHistory_of_words same, ?_⟩
    · rw [firstRun, secondRun, forget_dispatch_withHistory, forget_dispatch_withHistory]
    · intro other
      have foreign : word ≠ "history" := by
        rintro rfl
        exact other (congrArg List.head? spoken)
      rw [firstRun, secondRun, dispatch_withHistory _ foreign, dispatch_withHistory _ foreign]
    · intro line member
      have nonblank : Text.words line ≠ [] := by
        simp only [List.mem_cons, List.not_mem_nil, or_false] at member
        rcases member with rfl | rfl
        · exact visible
        · exact same ▸ visible
      rw [history_execute, if_neg nonblank]
  · intro before line after blankBefore blankAfter
    exact shell.execute_surrounded blankBefore blankAfter line
  · intro c text blank
    exact shell.execute_echo blank text

theorem spacing_makes_no_difference_terminal :
    let shell := boot .terminal .epoch
    Text.words "cd  documents" = Text.words "\u3000cd documents" ∧
      (shell.execute "cd  documents").2.forget =
        (shell.execute "\u3000cd documents").2.forget ∧
      (shell.execute "cd  documents").2.session.history = ["cd  documents"] ∧
      (shell.execute "\u3000cd documents").2.session.history = ["cd documents"] ∧
      shell.execute ("\t" ++ "history 1" ++ "\u00a0") = shell.execute "history 1" ∧
      (shell.execute ("echo" ++ '\t'.toString ++ " a  -b ")).1 = .success "a -b" := by
  intro shell
  obtain ⟨alike, around, echoes⟩ := spacing_makes_no_difference shell
  have same : Text.words "cd  documents" = Text.words "\u3000cd documents" := by decide
  obtain ⟨state, -, -, remembered⟩ := alike _ _ same (by decide)
  have tab : ∀ c ∈ "\t".toList, Text.isBlank c := List.all_eq_true.mp (by decide)
  have space : ∀ c ∈ "\u00a0".toList, Text.isBlank c := List.all_eq_true.mp (by decide)
  refine ⟨same, state, ?_, ?_, around _ _ _ tab space, ?_⟩
  · exact (remembered _ List.mem_cons_self).trans (by decide)
  · exact (remembered _ (List.mem_cons_of_mem _ List.mem_cons_self)).trans (by decide)
  · exact (echoes '\t' _ (by decide)).trans (by decide)

end Shell

end TeachingShell
