import Mathlib.Data.List.Destutter
import Mathlib.Data.List.DropRight
import TeachingShell.Proofs.Runs

/-!
What a session remembers. The history is kept one line at a time, and yet it can be read off all the
lines that were typed: those since it was last cleared, without repeats, and the last thousand.
-/

namespace TeachingShell

section

variable {α : Type}

theorem getLast?_rtake (list : List α) {count : Nat} (positive : 0 < count) :
    (list.rtake count).getLast? = list.getLast? := by
  rw [List.rtake, List.getLast?_drop]
  split
  next short =>
    have empty : list = [] := List.length_eq_zero_iff.mp (by omega)
    rw [empty, List.getLast?_nil]
  next => rfl

theorem rtake_concat_rtake (list : List α) (last : α) (count : Nat) :
    (list.rtake count ++ [last]).rtake count = (list ++ [last]).rtake count := by
  cases count with
  | zero => simp only [List.rtake_zero]
  | succ count =>
      rw [List.rtake_concat_succ, List.rtake_concat_succ]
      congr 1
      rw [List.rtake, List.rtake, List.drop_drop, List.rtake, List.length_drop]
      congr 1
      omega

variable [DecidableEq α]

def extend (list : List α) (last : α) : List α :=
  if list.getLast? = some last then list else list ++ [last]

theorem extend_cons_cons (first second : α) (rest : List α) (last : α) :
    extend (first :: second :: rest) last = first :: extend (second :: rest) last := by
  simp only [extend, List.getLast?_cons_cons]
  split <;> rfl

theorem rtake_extend (list : List α) (last : α) {count : Nat} (positive : 0 < count) :
    (extend list last).rtake count =
      if (list.rtake count).getLast? = some last then list.rtake count
      else (list.rtake count ++ [last]).rtake count := by
  rw [getLast?_rtake list positive, rtake_concat_rtake, extend]
  split <;> rfl

theorem destutter'_concat (first : α) (rest : List α) (last : α) :
    (rest ++ [last]).destutter' (· ≠ ·) first =
      extend (rest.destutter' (· ≠ ·) first) last := by
  induction rest generalizing first with
  | nil =>
      by_cases same : first = last
      · simp [extend, same]
      · simp [extend, same]
  | cons second rest ih =>
      by_cases same : first = second
      · rw [List.cons_append, List.destutter'_cons_neg _ (not_not.mpr same), ih,
          List.destutter'_cons_neg _ (not_not.mpr same)]
      · rw [List.cons_append, List.destutter'_cons_pos _ same, ih,
          List.destutter'_cons_pos _ same]
        cases kept : rest.destutter' (· ≠ ·) second with
        | nil => exact absurd kept (List.destutter'_ne_nil rest _)
        | cons third more => exact (extend_cons_cons first third more last).symm

theorem destutter_concat (list : List α) (last : α) :
    (list ++ [last]).destutter (· ≠ ·) = extend (list.destutter (· ≠ ·)) last := by
  cases list with
  | nil => rfl
  | cons first rest => exact destutter'_concat first rest last

end

def clearsHistory (line : String) : Bool :=
  match Text.words line with
  | "history" :: words => !(Arguments.flags words).isEmpty && (Arguments.flags words).all (· == 'c')
  | _ => false

/-- The lines since the history was last cleared, without blank ones and without repeats. -/
def worthRemembering (lines : List String) : List String :=
  let recent := lines.rtakeWhile fun line => !clearsHistory line
  let spoken := recent.filter fun line => !(Text.words line).isEmpty
  (spoken.map Text.trim).destutter (· ≠ ·)

def remembered (lines : List String) : List String := (worthRemembering lines).rtake 1000

theorem worthRemembering_concat (lines : List String) (last : String) :
    worthRemembering (lines ++ [last]) =
      if clearsHistory last then []
      else if Text.words last = [] then worthRemembering lines
      else extend (worthRemembering lines) (Text.trim last) := by
  by_cases clears : clearsHistory last = true
  · simp [worthRemembering, clears]
  · by_cases blank : Text.words last = []
    · simp [worthRemembering, clears, blank]
    · simp [worthRemembering, clears, blank, destutter_concat]

theorem remembered_concat (lines : List String) (last : String) :
    remembered (lines ++ [last]) =
      if clearsHistory last then []
      else if Text.words last = [] then remembered lines
      else if (remembered lines).getLast? = some (Text.trim last) then remembered lines
      else (remembered lines ++ [Text.trim last]).rtake 1000 := by
  rw [remembered, worthRemembering_concat]
  split
  · exact List.rtake_nil 1000
  · split
    · rfl
    · exact rtake_extend (worthRemembering lines) (Text.trim last) (Nat.succ_pos 999)

theorem length_remembered (lines : List String) : (remembered lines).length ≤ 1000 := by
  rw [remembered, List.rtake, List.length_drop]
  omega

theorem isChain_remembered (lines : List String) : (remembered lines).IsChain (· ≠ ·) :=
  (List.isChain_destutter (· ≠ ·) _).drop _

theorem of_mem_remembered {lines : List String} {line : String}
    (member : line ∈ remembered lines) :
    Text.trim line = line ∧ ∃ c ∈ line.toList, ¬ Text.isBlank c := by
  have distinct : line ∈ worthRemembering lines := List.mem_of_mem_drop member
  have spoken := (List.destutter_sublist (· ≠ ·) _).subset distinct
  obtain ⟨typed, kept, rfl⟩ := List.mem_map.mp spoken
  have visible : Text.words typed ≠ [] := by
    simpa using (List.mem_filter.mp kept).2
  refine ⟨Text.trim_trim typed, ?_⟩
  rw [← Text.words_trim, ne_eq, Text.words_eq_nil_iff] at visible
  push Not at visible
  exact visible

theorem history_record (session : Session) (line : String) :
    (session.record line).history =
      if session.history.getLast? = some line then session.history
      else (session.history ++ [line]).rtake 1000 := by
  unfold Session.record
  split
  · rfl
  · simp only [Session.keepLast, Session.capacity, List.rtake]

theorem Command.historyRequest_cases (arguments : Arguments) :
    (historyRequest arguments = .ok .clear ∧
        (!arguments.flags.isEmpty && arguments.flags.all (· == 'c')) = true) ∨
      (historyRequest arguments ≠ .ok .clear ∧
        (!arguments.flags.isEmpty && arguments.flags.all (· == 'c')) = false) := by
  unfold historyRequest strayFlag?
  cases stray : arguments.flags.find? (· != 'c') with
  | some letter =>
      right
      have member := List.mem_of_find?_eq_some stray
      have other := List.find?_some stray
      have mixed : arguments.flags.all (· == 'c') = false :=
        List.all_eq_false.mpr ⟨letter, member, by simpa using other⟩
      exact ⟨nofun, by rw [mixed, Bool.and_false]⟩
  | none =>
      have pure : arguments.flags.all (· == 'c') = true := by
        simpa using List.find?_eq_none.mp stray
      cases empty : arguments.flags.isEmpty with
      | false =>
          left
          simp [pure]
      | true =>
          right
          refine ⟨?_, rfl⟩
          simp only [Bool.not_true, Bool.false_eq_true, if_false]
          split
          · nofun
          · split <;> nofun

theorem Command.history_history (arguments : Arguments) (context : Context) :
    (Command.history arguments context).2.session.history =
      if !arguments.flags.isEmpty && arguments.flags.all (· == 'c') then []
      else context.session.history := by
  rcases historyRequest_cases arguments with ⟨asked, letters⟩ | ⟨unasked, letters⟩
  · rw [Command.history, asked, letters]
    rfl
  · rw [Command.history, letters]
    split
    next asked => exact absurd asked unasked
    · rfl
    · rfl

theorem Effect.history_of_ne {context after : Context} {verb : Verb} {arguments : Arguments}
    {outcome : Outcome} (effect : Effect context verb arguments outcome after)
    (other : verb ≠ .history) : after.session.history = context.session.history := by
  cases effect with
  | refused text => rfl
  | told text tells => rfl
  | altered alters => rfl
  | entered text verb directory => rfl
  | forgotten text verb => exact absurd verb other
  | cleared verb => rfl

namespace Shell

theorem history_dispatch_of_ne (shell : Shell) {word : String} (arguments : Arguments)
    (other : word ≠ "history") :
    (shell.dispatch word arguments).2.session.history = shell.session.history := by
  rcases shell.dispatch_cases word arguments with
    ⟨text, unknown⟩ | ⟨verb, outcome, context, rfl, ran, effect⟩
  · rw [unknown]
  · rw [ran]
    refine effect.history_of_ne ?_
    rintro rfl
    exact other rfl

theorem history_settle_record (shell : Shell) (line : String) :
    ((shell.record line).settle).session.history = (shell.session.record line).history := rfl

theorem history_execute (shell : Shell) (line : String) :
    (shell.execute line).2.session.history =
      if clearsHistory line then []
      else if Text.words line = [] then shell.session.history
      else (shell.session.record (Text.trim line)).history := by
  unfold clearsHistory
  rcases shell.execute_cases line with ⟨blank, executed⟩ | ⟨verb, arguments, split, dispatched⟩
  · simp only [executed, blank, Bool.false_eq_true, if_false, if_true]
  · rw [dispatched, split]
    by_cases own : verb = "history"
    · subst own
      have ran := ((shell.record (Text.trim line)).settle).dispatch_verb .history arguments
      rw [show Verb.history.name = "history" from rfl] at ran
      rw [ran]
      exact Command.history_history arguments _
    · rw [history_dispatch_of_ne _ _ own, history_settle_record]
      simp [own]

theorem history_acceptAll {config : Config} {now : Instant} {shell : Shell}
    (started : start config now = .ok shell) (lines : List Typed) :
    (shell.acceptAll lines).session.history = remembered (lines.map Typed.line) := by
  -- From the end, as the specification cuts its list there: one more line is one more step of both.
  induction lines using List.reverseRecOn with
  | nil =>
      obtain ⟨-, -, -, rfl⟩ := start_eq_ok_iff.mp started
      rfl
  | append_singleton lines last ih =>
      rw [acceptAll_concat, List.map_append, List.map_singleton, remembered_concat, ← ih]
      exact (history_execute _ last.line).trans (by rw [history_record]; rfl)

/-- After every line, the history is what is worth remembering of the lines so far: a thousand of
them at most, each different from the one before it, and none of them blank or untrimmed. -/
theorem history_refines_remembered {config : Config} {now : Instant} {shell : Shell}
    (started : start config now = .ok shell) (lines : List Typed) :
    (shell.acceptAll lines).session.history = remembered (lines.map Typed.line) ∧
      (shell.acceptAll lines).session.history.length ≤ 1000 ∧
      (shell.acceptAll lines).session.history.IsChain (· ≠ ·) ∧
      ∀ line ∈ (shell.acceptAll lines).session.history,
        Text.trim line = line ∧ ∃ c ∈ line.toList, ¬ Text.isBlank c := by
  have same := history_acceptAll started lines
  refine ⟨same, ?_, ?_, ?_⟩
  · rw [same]
    exact length_remembered _
  · rw [same]
    exact isChain_remembered _
  · intro line member
    rw [same] at member
    exact of_mem_remembered member

theorem history_refines_remembered_terminal :
    start .terminal .epoch = .ok (boot .terminal .epoch) ∧
      ((boot .terminal .epoch).acceptAll
        [⟨.epoch, "ls"⟩, ⟨.epoch, "history -c 2"⟩, ⟨.epoch, " pwd"⟩, ⟨.epoch, "pwd "⟩,
          ⟨.epoch, " "⟩, ⟨.epoch, "cat -c"⟩]).session.history = ["pwd", "cat -c"] := by
  have started := start_terminal .epoch
  obtain ⟨same, -⟩ := history_refines_remembered started
    [⟨.epoch, "ls"⟩, ⟨.epoch, "history -c 2"⟩, ⟨.epoch, " pwd"⟩, ⟨.epoch, "pwd "⟩,
      ⟨.epoch, " "⟩, ⟨.epoch, "cat -c"⟩]
  exact ⟨started, same.trans (by decide)⟩

end Shell

end TeachingShell
