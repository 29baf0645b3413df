import TeachingShell.Proofs.Answers

/-!
Where flags may stand. The letters and the operands are taken from the words in order, and a command
with flags looks at nothing else; so a flag may stand before an operand or behind it, alone or in a
cluster.
-/

namespace TeachingShell

namespace Arguments

structure Flagged (word : String) : Prop where
  dashed : Begins "-" word
  long : 2 ≤ word.length

theorem flagged_iff {word : String} : Flagged word ↔ Begins "-" word ∧ 2 ≤ word.length :=
  ⟨fun ⟨dashed, long⟩ => ⟨dashed, long⟩, fun ⟨dashed, long⟩ => ⟨dashed, long⟩⟩

instance (word : String) : Decidable (Flagged word) := decidable_of_iff' _ flagged_iff

theorem lettersOf?_of_flagged {word : String} (flagged : Flagged word) :
    lettersOf? word = some word.toList.tail := by
  obtain ⟨⟨rest, spelled⟩, long⟩ := flagged
  rw [← String.length_toList, ← spelled] at long
  rw [lettersOf?, ← spelled]
  cases rest with
  | nil => simp at long
  | cons letter letters => rfl

theorem lettersOf?_of_not_flagged {word : String} (plain : ¬ Flagged word) :
    lettersOf? word = none := by
  unfold lettersOf?
  split
  next letter letters spelled =>
    refine absurd ⟨?_, ?_⟩ plain
    · rw [Begins, spelled]
      exact List.prefix_append ['-'] (letter :: letters)
    · rw [← String.length_toList, spelled, List.length_cons, List.length_cons]
      omega
  next => rfl

theorem isFlag_eq (word : String) : isFlag word = decide (Flagged word) := by
  by_cases flagged : Flagged word
  · simp [isFlag, lettersOf?_of_flagged flagged, flagged]
  · simp [isFlag, lettersOf?_of_not_flagged flagged, flagged]

theorem operands_eq (words : Arguments) : words.operands = words.filter (¬ Flagged ·) := by
  rw [operands]
  congr 1
  funext word
  rw [isFlag_eq, decide_not]

theorem flags_eq (words : Arguments) :
    words.flags = (words.filter (Flagged ·)).flatMap fun word => word.toList.tail := by
  induction words with
  | nil => rfl
  | cons word rest ih =>
      have split : flags (word :: rest) = (lettersOf? word).getD [] ++ flags rest := rfl
      by_cases flagged : Flagged word
      · rw [split, ih, lettersOf?_of_flagged flagged,
          List.filter_cons_of_pos (by simpa using flagged)]
        rfl
      · rw [split, ih, lettersOf?_of_not_flagged flagged,
          List.filter_cons_of_neg (by simpa using flagged)]
        rfl

end Arguments

def FirstStray (allowed : Char) (letters : List Char) (letter : Char) : Prop :=
  letter ≠ allowed ∧ ∃ before after, letters = before ++ letter :: after ∧
    ∀ other ∈ before, other = allowed

def Verb.option? : Verb → Option Char
  | .ls => some 'l'
  | .history => some 'c'
  | _ => none

def Verb.strayReport (verb : Verb) (letter : Char) : String :=
  verb.name ++ ": invalid option -- '" ++ letter.toString ++ "'"

theorem Verb.option?_cases {verb : Verb} {allowed : Char} (known : verb.option? = some allowed) :
    (verb = .ls ∧ allowed = 'l') ∨ (verb = .history ∧ allowed = 'c') := by
  cases verb with
  | ls => exact Or.inl ⟨rfl, (Option.some.inj known).symm⟩
  | history => exact Or.inr ⟨rfl, (Option.some.inj known).symm⟩
  | _ => cases known

theorem Verb.strayReport_inj {verb : Verb} {letter other : Char}
    (same : verb.strayReport letter = verb.strayReport other) : letter = other := by
  have letters := congrArg String.toList same
  simpa [strayReport] using letters

theorem Begins.eq_of_length {first second text : String} (begins : Begins first text)
    (alsoBegins : Begins second text) (length : first.length = second.length) : first = second := by
  rw [← String.length_toList, ← String.length_toList] at length
  have inside := List.prefix_of_prefix_length_le begins alsoBegins (Nat.le_of_eq length)
  exact String.toList_inj.mp (inside.eq_of_length length)

namespace Command

theorem strayFlag?_eq_some_iff {allowed letter : Char} {arguments : Arguments} :
    strayFlag? allowed arguments = some letter ↔
      FirstStray allowed arguments.takeFlags.1 letter := by
  simp [strayFlag?, FirstStray, Arguments.takeFlags, List.find?_eq_some_iff_append]

variable {context : Context} {words others : Arguments}

theorem list_of_stray {letter : Char} (stray : strayFlag? 'l' words = some letter) :
    list words context = .failed (Verb.ls.strayReport letter) := by
  simp only [list, stray]
  rfl

theorem history_of_stray {letter : Char} (stray : strayFlag? 'c' words = some letter) :
    history words context = (.failed (Verb.history.strayReport letter), context) := by
  simp only [history, historyRequest, stray]
  rfl

theorem strayFlag?_of_no_flags {allowed : Char} (bare : words.flags = []) :
    strayFlag? allowed words = none := by
  rw [strayFlag?, bare, List.find?_nil]

theorem history_of_no_flags (bare : words.flags = []) (context : Context) :
    history words context =
      match words.operands.head? with
      | none => (showHistory 0 context, context)
      | some word =>
          match Text.count? word with
          | some count => (showHistory count context, context)
          | none => (.failed ("history: " ++ word ++ ": numeric argument required"), context) := by
  have clean : strayFlag? 'c' words = none := strayFlag?_of_no_flags bare
  simp only [history, historyRequest, clean, bare, List.isEmpty_nil]
  cases words.operands.head? with
  | none => rfl
  | some word =>
      simp only
      cases Text.count? word with
      | none =>
          rw [String.append_assoc]
          rfl
      | some count => rfl

theorem list_ne_strayReport (clean : strayFlag? 'l' words = none) (letter : Char) :
    list words context ≠ .failed (Verb.ls.strayReport letter) := by
  intro same
  simp only [list, clean] at same
  split at same
  · cases congrArg Outcome.code same
  next failure _ =>
    have text := congrArg Outcome.err same
    have complains : Begins "ls: c" (Verb.ls.strayReport letter) := by
      rw [show Verb.ls.strayReport letter = _ from text.symm]
      exact begins_complaint (by decide) _
    have reports : Begins "ls: i" (Verb.ls.strayReport letter) :=
      ((show Begins "ls: i" "ls: invalid option -- '" by decide).append _).append _
    exact absurd (complains.eq_of_length reports rfl) (by decide)

theorem showHistory_ne_failed (count : Nat) (context : Context) (text : String) :
    showHistory count context ≠ .failed text := by
  have succeeds : (showHistory count context).code = 0 := by
    unfold showHistory
    simp only
    split
    · rfl
    · rfl
  intro same
  rw [same] at succeeds
  cases succeeds

theorem history_ne_strayReport (clean : strayFlag? 'c' words = none) (letter : Char) :
    (history words context).1 ≠ .failed (Verb.history.strayReport letter) := by
  cases bare : words.flags with
  | cons first rest =>
      intro same
      simp only [history, historyRequest, clean, bare, List.isEmpty_cons] at same
      cases congrArg Outcome.code same
  | nil =>
      rw [history_of_no_flags bare]
      cases words.operands.head? with
      | none => exact showHistory_ne_failed 0 context _
      | some word =>
          simp only
          cases Text.count? word with
          | some count => exact showHistory_ne_failed count context _
          | none =>
              intro same
              have last := congrArg (fun outcome => outcome.err.toList.reverse.head?) same
              simp [Outcome.failed, Outcome.failure, Verb.strayReport] at last

end Command

section

variable {verb : Verb} {allowed : Char} (known : verb.option? = some allowed)

include known

/-- A command with flags sees nothing of its words but the letters and the operands. -/
theorem Verb.run_of_takeFlags {words others : Arguments}
    (same : words.takeFlags = others.takeFlags) (context : Context) :
    verb.run words context = verb.run others context := by
  obtain ⟨flags, operands⟩ := Prod.mk.inj same
  rcases option?_cases known with ⟨rfl, -⟩ | ⟨rfl, -⟩
  · simp only [run, Command.list, Command.strayFlag?, flags, operands]
  · simp only [run, Command.history, Command.historyRequest, Command.strayFlag?, flags, operands]

theorem Verb.run_eq_strayReport_iff {words : Arguments} {context : Context} {letter : Char} :
    verb.run words context = (.failed (verb.strayReport letter), context) ↔
      FirstStray allowed words.takeFlags.1 letter := by
  rw [← Command.strayFlag?_eq_some_iff]
  cases stray : Command.strayFlag? allowed words with
  | none =>
      have other : (verb.run words context).1 ≠ .failed (verb.strayReport letter) := by
        rcases option?_cases known with ⟨rfl, rfl⟩ | ⟨rfl, rfl⟩
        · exact Command.list_ne_strayReport stray letter
        · exact Command.history_ne_strayReport stray letter
      constructor
      · intro same
        exact absurd (congrArg Prod.fst same) other
      · nofun
  | some first =>
      have told : verb.run words context = (.failed (verb.strayReport first), context) := by
        rcases option?_cases known with ⟨rfl, rfl⟩ | ⟨rfl, rfl⟩
        · rw [run, Command.list_of_stray stray]
        · exact Command.history_of_stray stray
      rw [told, Option.some.injEq]
      constructor
      · intro same
        exact strayReport_inj (congrArg (fun pair => pair.1.err) same)
      · rintro rfl
        rfl

end

/-- Taking the flags out of some words leaves the other ones in their order, and leaves nothing to
take out a second time. Words with the same letters and the same operands are the same to a command
with flags; it complains of the first letter that it does not understand, before it looks at any
operand. -/
theorem flags_may_stand_anywhere :
    (∀ words : Arguments,
      words.takeFlags =
          ((words.filter (Arguments.Flagged ·)).flatMap (fun word => word.toList.tail),
            words.filter (¬ Arguments.Flagged ·)) ∧
        words.takeFlags.2.takeFlags = ([], words.takeFlags.2)) ∧
      ¬ Arguments.Flagged "-" ∧
      ∀ (verb : Verb) (allowed : Char), verb.option? = some allowed →
        (∀ words others : Arguments, words.takeFlags = others.takeFlags →
          ∀ context, verb.run words context = verb.run others context) ∧
        ∀ (words : Arguments) (context : Context) (letter : Char),
          verb.run words context = (.failed (verb.strayReport letter), context) ↔
            FirstStray allowed words.takeFlags.1 letter := by
  refine ⟨fun words => ⟨?_, ?_⟩, by decide, fun verb allowed known => ⟨?_, ?_⟩⟩
  · rw [Arguments.takeFlags, Arguments.flags_eq, Arguments.operands_eq]
  · exact Prod.ext words.flags_operands words.operands_operands
  · intro words others same
    exact Verb.run_of_takeFlags known same
  · intro words context letter
    exact Verb.run_eq_strayReport_iff known

theorem flags_may_stand_anywhere_terminal :
    let context := (Shell.boot .terminal .epoch).context
    Arguments.takeFlags ["-l", "-", "-", "-él"] = (['l', 'é', 'l'], ["-", "-"]) ∧
      Verb.ls.run ["documents", "-l"] context = Verb.ls.run ["-l", "documents"] context ∧
      Verb.history.run ["x", "-cé", "-z"] context =
        (.failed "history: invalid option -- 'é'", context) := by
  intro context
  obtain ⟨taken, -, reads⟩ := flags_may_stand_anywhere
  refine ⟨(taken _).1.trans (by decide), ?_, ?_⟩
  · exact (reads .ls 'l' rfl).1 _ _ (by decide) context
  · refine ((reads .history 'c' rfl).2 _ context 'é').mpr ?_
    exact ⟨by decide, ['c'], ['z'], by decide, List.forall_mem_singleton.mpr rfl⟩

end TeachingShell
