import TeachingShell.Proofs.Footprint
import TeachingShell.Proofs.Reading
import TeachingShell.Proofs.Replies
import TeachingShell.Terminal.CommandLine

/-!
A conversation is the fold of its replies. The lines before the first one that leaves or is no text
are answered one after the other, each by the shell that the line before it left behind; what stands
after that line is never looked at.
-/

namespace TeachingShell

theorem Transcript.out_append (text : String) (later : Transcript) :
    Transcript.out text ++ later = ⟨text ++ later.stdout, later.stderr⟩ := by
  have quiet : (out text ++ later).stderr = "" ++ later.stderr := rfl
  rw [String.empty_append] at quiet
  exact congrArg (Transcript.mk (text ++ later.stdout)) quiet

theorem forShell_of_clear {line : String} (first : (Text.words line).head? = some "clear") :
    ForShell line := by
  rw [← Text.words_trim] at first
  rcases forShell_or line with slash | leaving | blank | forShell
  · obtain ⟨word, rest, split, opening⟩ := Text.words_of_slash slash
    rw [split] at first
    obtain rfl := Option.some.inj first
    exact absurd opening (by decide)
  · rcases leaving with same | same
    · rw [same] at first
      exact absurd first (by decide)
    · rw [same] at first
      exact absurd first (by decide)
  · rw [blank] at first
    exact absurd first (by decide)
  · exact forShell

namespace Shell

theorem clears_dispatch (shell : Shell) (word : String) (arguments : Arguments) :
    (shell.dispatch word arguments).2.context.clears =
      shell.context.clears + if word = "clear" then 1 else 0 := by
  rcases shell.dispatch_word word arguments with ⟨foreign, unknown⟩ | ⟨verb, rfl, ran⟩
  · have silent : word ≠ "clear" := by
      rintro rfl
      exact absurd foreign (by decide)
    rw [unknown, if_neg silent, Nat.add_zero]
  · rw [ran]
    exact (verb.footprint_run arguments shell.context).clears

theorem clears_execute (shell : Shell) (line : String) :
    (shell.execute line).2.context.clears =
      shell.context.clears + if (Text.words line).head? = some "clear" then 1 else 0 := by
  rcases shell.execute_cases line with ⟨blank, silent⟩ | ⟨word, arguments, split, dispatched⟩
  · rw [silent, blank]
    rfl
  · rw [dispatched, clears_dispatch, split]
    simp only [List.head?_cons, Option.some.injEq]
    rfl

theorem ok_of_clear (shell : Shell) {line : String}
    (first : (Text.words line).head? = some "clear") : (shell.execute line).1.ok := by
  rcases shell.execute_cases line with ⟨blank, _⟩ | ⟨word, arguments, split, dispatched⟩
  · rw [blank] at first
    cases first
  · rw [split] at first
    obtain rfl := Option.some.inj first
    have ran := ((shell.record (Text.trim line)).settle).dispatch_verb .clear arguments
    rw [dispatched, show "clear" = Verb.clear.name from rfl, ran]
    rfl

def respond (shell : Shell) (typed : Typed) : Reply × Shell :=
  (shell.setClock typed.now).reply typed.line

def respondAll (shell : Shell) (lines : List Typed) : Shell :=
  lines.foldl (fun shell typed => (shell.respond typed).2) shell

theorem respondAll_cons (shell : Shell) (typed : Typed) (later : List Typed) :
    shell.respondAll (typed :: later) = (shell.respond typed).2.respondAll later := by
  rw [respondAll, respondAll, List.foldl_cons]

def RanClear (shell : Shell) (typed : Typed) : Prop :=
  (Text.words typed.line).head? = some "clear" ∧ (shell.accept typed).1.ok

instance (shell : Shell) (typed : Typed) : Decidable (shell.RanClear typed) :=
  inferInstanceAs (Decidable (_ ∧ _))

theorem ranClear_iff {shell : Shell} {typed : Typed} :
    shell.RanClear typed ↔ (Text.words typed.line).head? = some "clear" := by
  constructor
  · rintro ⟨first, _⟩
    exact first
  · intro first
    exact ⟨first, ok_of_clear _ first⟩

theorem clears_respond (shell : Shell) (typed : Typed) :
    (shell.respond typed).2.context.clears =
      shell.context.clears + if shell.RanClear typed then 1 else 0 := by
  simp only [ranClear_iff]
  by_cases forShell : ForShell typed.line
  · rw [respond, reply_of_forShell _ forShell]
    exact clears_execute _ typed.line
  · have untouched : (shell.respond typed).2 = shell.setClock typed.now :=
      reply_of_not_forShell _ forShell
    rw [untouched, if_neg (mt forShell_of_clear forShell)]
    rfl

end Shell

namespace Terminal

def printed (shell : Shell) (typed : Typed) : String :=
  (if shell.RanClear typed then "\x1b[2J\x1b[H" else "") ++
    match (shell.respond typed).1 with
    | .proceed (some text) => text ++ "\n"
    | _ => ""

def printedAll (shell : Shell) : List Typed → String
  | [] => ""
  | typed :: later => printed shell typed ++ printedAll (shell.respond typed).2 later

theorem cleared_respond (shell : Shell) (typed : Typed) :
    cleared (shell.setClock typed.now) (shell.respond typed).2 =
      if shell.RanClear typed then "\x1b[2J\x1b[H" else "" := by
  have before : (shell.setClock typed.now).context.clears = shell.context.clears := rfl
  rw [cleared, before, shell.clears_respond typed]
  by_cases ran : shell.RanClear typed
  · simp [ran, clearSequence]
  · simp [ran]

theorem turn_bytesOf (shell : Shell) (typed : Typed) :
    turn (shell.setClock typed.now) (bytesOf typed.line) =
      if (shell.respond typed).1 = .leave then ⟨{}, none⟩
      else ⟨.out (printed shell typed), some (shell.respond typed).2⟩ := by
  have cleared := cleared_respond shell typed
  have replied : shell.respond typed = (shell.setClock typed.now).reply typed.line := rfl
  simp only [printed, turn, decode?_bytesOf, ← replied]
  generalize shell.respond typed = answer at *
  obtain ⟨reply, next⟩ := answer
  cases reply with
  | leave => rfl
  | proceed shown =>
      cases shown with
      | none => simp [← cleared]
      | some text => simp [← cleared, String.append_assoc]

inductive Ending where
  | ranOut
  | left
  | garbled

def Ending.stdout : Ending → String
  | ranOut => "^D\n"
  | left | garbled => ""

def Ending.stderr : Ending → String
  | garbled => "Error: stream did not contain valid UTF-8\n"
  | ranOut | left => ""

inductive Ends (shell : Shell) (now : Instant) : List (List UInt8) → Ending → Prop
  | ranOut : Ends shell now [] .ranOut
  | left {text : String} {rest : List (List UInt8)} : (shell.respond ⟨now, text⟩).1 = .leave →
      Ends shell now (bytesOf text :: rest) .left
  | garbled {line : List UInt8} {rest : List (List UInt8)} : (∀ text, bytesOf text ≠ line) →
      Ends shell now (line :: rest) .garbled

def timed (clock : Nat → Instant) (lines : List String) : List Typed :=
  lines.mapIdx fun count line => ⟨clock count, line⟩

theorem timed_cons (clock : Nat → Instant) (line : String) (later : List String) :
    timed clock (line :: later) =
      ⟨clock 0, line⟩ :: timed (fun count => clock (count + 1)) later :=
  List.mapIdx_cons

/-- A conversation hears some lines, none of which leaves, and stops before the others. -/
structure Course (clock : Nat → Instant) (shell : Shell) (heard : List String)
    (unheard : List (List UInt8)) (ending : Ending) : Prop where
  proceeds : ∀ before typed after, timed clock heard = before ++ typed :: after →
    ((shell.respondAll before).respond typed).1 ≠ .leave
  ends : Ends (shell.respondAll (timed clock heard)) (clock heard.length) unheard ending

section

variable {clock : Nat → Instant} {shell : Shell} {heard : List String}
  {unheard : List (List UInt8)} {ending : Ending}

theorem course_nil_iff :
    Course clock shell [] unheard ending ↔ Ends shell (clock 0) unheard ending := by
  constructor
  · rintro ⟨-, ends⟩
    exact ends
  · intro ends
    refine ⟨fun before typed after split => ?_, ends⟩
    rw [timed, List.mapIdx_nil] at split
    simp at split

theorem course_cons_iff {text : String} :
    Course clock shell (text :: heard) unheard ending ↔
      (shell.respond ⟨clock 0, text⟩).1 ≠ .leave ∧
        Course (fun count => clock (count + 1)) (shell.respond ⟨clock 0, text⟩).2 heard unheard
          ending := by
  constructor
  · rintro ⟨proceeds, ends⟩
    rw [timed_cons] at proceeds ends
    rw [Shell.respondAll_cons] at ends
    refine ⟨proceeds [] _ _ rfl, ?_, ends⟩
    intro before typed after split
    have later := proceeds (⟨clock 0, text⟩ :: before) typed after (by rw [split, List.cons_append])
    rwa [Shell.respondAll_cons] at later
  · rintro ⟨stays, proceeds, ends⟩
    constructor
    · intro before typed after split
      rw [timed_cons] at split
      cases before with
      | nil =>
          obtain ⟨rfl, -⟩ := List.cons_eq_cons.mp split
          exact stays
      | cons first before =>
          obtain ⟨rfl, later⟩ := List.cons_eq_cons.mp split
          rw [Shell.respondAll_cons]
          exact proceeds before typed after later
    · rw [timed_cons, Shell.respondAll_cons]
      exact ends

theorem converse_of_ends (ends : Ends shell (clock 0) unheard ending) :
    converse clock shell unheard = ⟨ending.stdout, ending.stderr⟩ := by
  cases ends with
  | ranOut => rfl
  | @left text rest leaves =>
      have turned := turn_bytesOf shell ⟨clock 0, text⟩
      rw [if_pos leaves] at turned
      simp only [converse, turned]
      rfl
  | @garbled line rest garbled =>
      simp only [converse, turn, decode?_eq_none_iff.mpr garbled]
      rfl

theorem converse_eq (course : Course clock shell heard unheard ending) :
    converse clock shell (heard.map bytesOf ++ unheard) =
      ⟨printedAll shell (timed clock heard) ++ ending.stdout, ending.stderr⟩ := by
  induction heard generalizing clock shell with
  | nil =>
      have silent : printedAll shell (timed clock []) = "" := rfl
      rw [List.map_nil, List.nil_append, converse_of_ends (course_nil_iff.mp course), silent,
        String.empty_append]
  | cons text heard ih =>
      obtain ⟨stays, later⟩ := course_cons_iff.mp course
      have turned := turn_bytesOf shell ⟨clock 0, text⟩
      rw [if_neg stays] at turned
      simp only [List.map_cons, List.cons_append, converse, turned, ih later, timed_cons, printedAll,
        Transcript.out_append, String.append_assoc]

theorem Course.of_head {last : List UInt8} {rest : List (List UInt8)}
    (course : Course clock shell heard (last :: rest) ending) (more : List (List UInt8)) :
    Course clock shell heard (last :: more) ending := by
  obtain ⟨proceeds, ends⟩ := course
  refine ⟨proceeds, ?_⟩
  cases ends with
  | left leaves => exact .left leaves
  | garbled garbled => exact .garbled garbled

theorem runTimed_of_course {input : List UInt8}
    (course : Course (fun count => clock (count + 1)) (.boot .terminal (clock 0)) heard unheard ending)
    (reads : Text.Reads input (heard.map bytesOf ++ unheard)) :
    runTimed (.ofArguments []) input clock =
      ⟨0, "tutsh v0.1.0\nType help for commands, /quit to exit.\n\n" ++
          printedAll (.boot .terminal (clock 0)) (timed (fun count => clock (count + 1)) heard) ++
            ending.stdout,
        ending.stderr⟩ := by
  have opening : banner version =
      "tutsh v0.1.0\nType help for commands, /quit to exit.\n\n" := by decide
  simp only [runTimed, Call.ofArguments, reads.lines_eq, converse_eq course, Transcript.out_append,
    opening, String.append_assoc]

end

theorem exists_course (clock : Nat → Instant) (shell : Shell) (lines : List (List UInt8)) :
    ∃ heard unheard ending, lines = heard.map bytesOf ++ unheard ∧
      Course clock shell heard unheard ending := by
  induction lines generalizing clock shell with
  | nil => exact ⟨[], [], .ranOut, rfl, course_nil_iff.mpr .ranOut⟩
  | cons line rest ih =>
      cases decoded : decode? line with
      | none =>
          have garbled := decode?_eq_none_iff.mp decoded
          exact ⟨[], line :: rest, .garbled, rfl, course_nil_iff.mpr (.garbled garbled)⟩
      | some text =>
          obtain rfl := decode?_eq_some_iff.mp decoded
          by_cases leaves : (shell.respond ⟨clock 0, text⟩).1 = .leave
          · exact ⟨[], bytesOf text :: rest, .left, rfl, course_nil_iff.mpr (.left leaves)⟩
          · obtain ⟨heard, unheard, ending, split, course⟩ :=
              ih (fun count => clock (count + 1)) (shell.respond ⟨clock 0, text⟩).2
            refine ⟨text :: heard, unheard, ending, ?_, course_cons_iff.mpr ⟨leaves, course⟩⟩
            rw [List.map_cons, List.cons_append, split]

/-- A conversation over any bytes answers its lines up to the first that leaves or is no text: for
each of them in order the screen is cleared if the line ran `clear`, and the text of the reply is
shown if there is one. At the end of the input it says so, a line that is no text is complained of,
and the exit status is zero. Nothing after the line that ends it makes any difference. -/
theorem conversation_is_fold (input : List UInt8) (clock : Nat → Instant) :
    ∃ shell, Shell.start .terminal (clock 0) = .ok shell ∧
      (∃ heard unheard ending, Text.Reads input (heard.map bytesOf ++ unheard) ∧
        Course (fun count => clock (count + 1)) shell heard unheard ending) ∧
      ∀ heard unheard ending, Text.Reads input (heard.map bytesOf ++ unheard) →
        Course (fun count => clock (count + 1)) shell heard unheard ending →
          runTimed (.ofArguments []) input clock =
            ⟨0, "tutsh v0.1.0\nType help for commands, /quit to exit.\n\n" ++
                printedAll shell (timed (fun count => clock (count + 1)) heard) ++ ending.stdout,
              ending.stderr⟩ ∧
          ∀ last rest, unheard = last :: rest → ∀ other more,
            Text.Reads other (heard.map bytesOf ++ last :: more) →
              runTimed (.ofArguments []) other clock = runTimed (.ofArguments []) input clock := by
  refine ⟨_, Shell.start_terminal (clock 0), ?_, fun heard unheard ending reads course => ?_⟩
  · obtain ⟨heard, unheard, ending, split, course⟩ :=
      exists_course (fun count => clock (count + 1)) (.boot .terminal (clock 0)) (Text.lines input)
    have reads := Text.reads_lines input
    rw [split] at reads
    exact ⟨heard, unheard, ending, reads, course⟩
  · have run := runTimed_of_course course reads
    refine ⟨run, ?_⟩
    rintro last rest rfl other more otherReads
    rw [run, runTimed_of_course (course.of_head more) otherReads]

theorem conversation_is_fold_terminal :
    runTimed (.ofArguments []) (bytesOf "pwd\r\nclear now\nnope") (fun _ => .epoch) =
        ⟨0, "tutsh v0.1.0\nType help for commands, /quit to exit.\n\n/home/user\n\x1b[2J\x1b[H" ++
            "bash: nope: command not found\n^D\n", ""⟩ ∧
      runTimed (.ofArguments []) (bytesOf "pwd\n/quit\nls") (fun _ => .epoch) =
        ⟨0, "tutsh v0.1.0\nType help for commands, /quit to exit.\n\n/home/user\n", ""⟩ := by
  constructor
  · obtain ⟨shell, started, -, fold⟩ :=
      conversation_is_fold (bytesOf "pwd\r\nclear now\nnope") fun _ => .epoch
    obtain rfl := Except.ok.inj ((Shell.start_terminal .epoch).symm.trans started)
    have reads : Text.Reads (bytesOf "pwd\r\nclear now\nnope")
        (["pwd", "clear now", "nope"].map bytesOf ++ []) :=
      .returned (show 10 ∉ bytesOf "pwd" by decide)
        (.ended (show 10 ∉ bytesOf "clear now" by decide) (by decide)
          (.unended (show bytesOf "nope" ≠ [] by decide) (by decide)))
    have course : Course (fun _ => .epoch) (.boot .terminal .epoch) ["pwd", "clear now", "nope"] []
        .ranOut := by
      refine course_cons_iff.mpr ⟨by decide +kernel, course_cons_iff.mpr ⟨by decide +kernel, ?_⟩⟩
      exact course_cons_iff.mpr ⟨by decide +kernel, course_nil_iff.mpr .ranOut⟩
    exact (fold _ _ _ reads course).1.trans (by decide +kernel)
  · obtain ⟨shell, started, -, fold⟩ :=
      conversation_is_fold (bytesOf "pwd\n/quit") fun _ => .epoch
    obtain rfl := Except.ok.inj ((Shell.start_terminal .epoch).symm.trans started)
    have reads : Text.Reads (bytesOf "pwd\n/quit") (["pwd"].map bytesOf ++ [bytesOf "/quit"]) :=
      .ended (show 10 ∉ bytesOf "pwd" by decide) (by decide)
        (.unended (show bytesOf "/quit" ≠ [] by decide) (by decide))
    have more : Text.Reads (bytesOf "pwd\n/quit\nls")
        (["pwd"].map bytesOf ++ [bytesOf "/quit", bytesOf "ls"]) :=
      .ended (show 10 ∉ bytesOf "pwd" by decide) (by decide)
        (.ended (show 10 ∉ bytesOf "/quit" by decide) (by decide)
          (.unended (show bytesOf "ls" ≠ [] by decide) (by decide)))
    have course : Course (fun _ => .epoch) (.boot .terminal .epoch) ["pwd"] [bytesOf "/quit"]
        .left :=
      course_cons_iff.mpr ⟨by decide +kernel, course_nil_iff.mpr (.left (by decide +kernel))⟩
    obtain ⟨run, deaf⟩ := fold _ _ _ reads course
    exact ((deaf _ _ rfl _ _ more).trans run).trans (by decide +kernel)

end Terminal

end TeachingShell
