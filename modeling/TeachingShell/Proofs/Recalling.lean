import Mathlib.Data.List.DropRight
import Mathlib.Data.Nat.Digits.Defs
import TeachingShell.Proofs.Flags

/-!
What `history` shows. An operand that spells a number asks for as many of the last lines. Each line
keeps the position that it has in the whole history, so what is shown of some lines is the end of what
is shown of all of them.
-/

namespace TeachingShell

namespace Text

def denoted (digits : List Char) : Nat :=
  Nat.ofDigits 10 (digits.map fun c => c.toNat - '0'.toNat).reverse

/-- A number below 2^64 as a word may spell it: digits, zeros first or not, behind at most one plus
sign. -/
def Spells (word : String) (value : Nat) : Prop :=
  ∃ digits, (word.toList = digits ∨ word.toList = '+' :: digits) ∧ digits ≠ [] ∧
    (∀ c ∈ digits, c.isDigit) ∧ value = denoted digits ∧ value < 2 ^ 64

theorem denoted_concat (digits : List Char) (last : Char) :
    denoted (digits ++ [last]) = denoted digits * 10 + (last.toNat - '0'.toNat) := by
  simp only [denoted, List.map_append, List.map_singleton, List.reverse_append,
    List.reverse_singleton, List.singleton_append, Nat.ofDigits_cons]
  omega

theorem digitsValue?_eq_some_iff {digits : List Char} {value : Nat} :
    digitsValue? digits = some value ↔ (∀ c ∈ digits, c.isDigit) ∧ value = denoted digits := by
  induction digits using List.reverseRecOn generalizing value with
  | nil =>
      have zero : digitsValue? [] = some (denoted []) := rfl
      rw [zero, Option.some.injEq, eq_comm, and_iff_right (List.forall_mem_nil _)]
  | append_singleton digits last ih =>
      have scanned : digitsValue? (digits ++ [last]) = (digitsValue? digits).bind fun before =>
          if last.isDigit then some (before * 10 + (last.toNat - '0'.toNat)) else none := by
        simp only [digitsValue?, List.foldlM_append]
        simp
      rw [scanned, Option.bind_eq_some_iff, denoted_concat, List.forall_mem_append,
        List.forall_mem_singleton]
      constructor
      · rintro ⟨before, read, added⟩
        obtain ⟨earlier, rfl⟩ := ih.mp read
        by_cases digit : last.isDigit
        · rw [if_pos digit, Option.some.injEq] at added
          exact ⟨⟨earlier, digit⟩, added.symm⟩
        · rw [if_neg digit] at added
          cases added
      · rintro ⟨⟨earlier, digit⟩, rfl⟩
        exact ⟨denoted digits, ih.mpr ⟨earlier, rfl⟩, if_pos digit⟩

def afterPlus : List Char → List Char
  | '+' :: rest => rest
  | digits => digits

theorem afterPlus_eq_iff {text digits : List Char} (digital : ∀ c ∈ digits, c.isDigit)
    (nonempty : digits ≠ []) : afterPlus text = digits ↔ text = digits ∨ text = '+' :: digits := by
  constructor
  · intro same
    unfold afterPlus at same
    split at same
    next rest => exact Or.inr (by rw [same])
    next => exact Or.inl same
  · rintro (rfl | rfl)
    · unfold afterPlus
      split
      next rest =>
        cases digital '+' List.mem_cons_self
      next => rfl
    · rfl

theorem count?_eq_some_iff {word : String} {value : Nat} :
    count? word = some value ↔ Spells word value := by
  have read : count? word = some value ↔
      afterPlus word.toList ≠ [] ∧ digitsValue? (afterPlus word.toList) = some value ∧
        value < 2 ^ 64 := by
    have scanned : count? word =
        if (afterPlus word.toList).isEmpty then none
        else (digitsValue? (afterPlus word.toList)).bind fun value =>
          if value < UInt64.size then some value else none := rfl
    have size : UInt64.size = 2 ^ 64 := rfl
    rw [scanned, size]
    cases digits : afterPlus word.toList with
    | nil => simp
    | cons first rest => simp [Option.bind_eq_some_iff]
  rw [read]
  constructor
  · rintro ⟨nonempty, digits, bound⟩
    obtain ⟨digital, same⟩ := digitsValue?_eq_some_iff.mp digits
    exact ⟨_, (afterPlus_eq_iff digital nonempty).mp rfl, nonempty, digital, same, bound⟩
  · rintro ⟨digits, spelled, nonempty, digital, same, bound⟩
    rw [(afterPlus_eq_iff digital nonempty).mpr spelled]
    exact ⟨nonempty, digitsValue?_eq_some_iff.mpr ⟨digital, same⟩, bound⟩

end Text

namespace Command

def positioned (position : Nat) (line : String) : String :=
  String.ofList (List.replicate (5 - (toString position).length) ' ') ++ toString position ++
    "  " ++ line

def lastPositioned (history : List String) (count : Nat) : List String :=
  List.zipWith positioned (List.range' (history.length - count + 1) count) (history.rtake count)

def shownOf (history : List String) (count : Nat) : Nat :=
  if count = 0 then history.length else min count history.length

theorem numbered_eq (line : String) (index : Nat) :
    numbered line index = positioned (index + 1) line := by
  rw [numbered, Text.padLeft_eq]
  rfl

theorem firstShown_eq (history : List String) (count : Nat) :
    firstShown count history.length = history.length - shownOf history count := by
  unfold firstShown shownOf
  split
  · omega
  · omega

theorem shownOf_le (history : List String) (count : Nat) :
    shownOf history count ≤ history.length := by
  unfold shownOf
  split
  · exact Nat.le_refl _
  · exact Nat.min_le_right _ _

theorem drop_numbered {history : List String} {count : Nat} (bound : count ≤ history.length) :
    (history.mapIdx fun index line => numbered line index).drop (history.length - count) =
      lastPositioned history count := by
  refine List.ext_getElem ?_ fun index left right => ?_
  · simp [lastPositioned, List.rtake]
    omega
  · simp only [lastPositioned, List.rtake, List.getElem_drop, List.getElem_mapIdx,
      List.getElem_zipWith, List.getElem_range', numbered_eq]
    congr 1
    omega

theorem lastPositioned_eq_drop {history : List String} {count : Nat}
    (bound : count ≤ history.length) :
    lastPositioned history count =
      (lastPositioned history history.length).drop (history.length - count) := by
  have all := drop_numbered (Nat.le_refl history.length)
  rw [Nat.sub_self, List.drop_zero] at all
  rw [← all, drop_numbered bound]

theorem showHistory_eq {context : Context} (spoken : context.session.history ≠ []) (count : Nat) :
    showHistory count context = .success (context.newline.intercalate
      (lastPositioned context.session.history (shownOf context.session.history count))) := by
  have visible : context.session.history.isEmpty = false := by simpa using spoken
  simp only [showHistory, visible, Context.joinLines, firstShown_eq]
  rw [drop_numbered (shownOf_le _ _)]
  rfl

end Command

theorem intercalate_drop_suffix (newline : String) (lines : List String) (count : Nat) :
    (newline.intercalate (lines.drop count)).toList <:+ (newline.intercalate lines).toList := by
  induction count generalizing lines with
  | zero => exact List.suffix_refl _
  | succ count ih =>
      cases lines with
      | nil => exact List.suffix_refl _
      | cons first rest =>
          have onward : (newline.intercalate rest).toList <:+
              (newline.intercalate (first :: rest)).toList := by
            cases rest with
            | nil => exact List.nil_suffix
            | cons second more =>
                rw [String.intercalate_cons_cons, String.toList_append]
                exact List.suffix_append _ _
          exact (ih rest).trans onward

inductive Asks : Option String → Nat → Prop
  | everything : Asks none 0
  | number {word : String} {count : Nat} : Text.Spells word count → Asks (some word) count

namespace Shell

variable {shell : Shell} {arguments : Arguments} (bare : arguments.flags = [])

include bare

theorem dispatch_history_of_asks {count : Nat} (asks : Asks arguments.operands.head? count)
    (spoken : shell.session.history ≠ []) :
    shell.dispatch "history" arguments =
      (.success (shell.context.newline.intercalate (Command.lastPositioned shell.session.history
        (Command.shownOf shell.session.history count))), shell) := by
  have shown := Command.showHistory_eq spoken count
  refine dispatch_of_run .history ?_
  rw [Verb.run, Command.history_of_no_flags bare]
  cases operand : arguments.operands.head? with
  | none =>
      rw [operand] at asks
      cases asks with
      | everything => exact Prod.ext shown rfl
  | some word =>
      rw [operand] at asks
      cases asks with
      | number spells =>
          simp only [Text.count?_eq_some_iff.mpr spells]
          exact Prod.ext shown rfl

theorem dispatch_history_of_no_number {word : String}
    (operand : arguments.operands.head? = some word) (foreign : ∀ count, ¬ Text.Spells word count) :
    shell.dispatch "history" arguments =
      (.failed ("history: " ++ word ++ ": numeric argument required"), shell) := by
  have unread : Text.count? word = none := by
    rw [Option.eq_none_iff_forall_ne_some]
    intro count read
    exact foreign count (Text.count?_eq_some_iff.mp read)
  refine dispatch_of_run .history ?_
  rw [Verb.run, Command.history_of_no_flags bare, operand]
  simp only [unread]

end Shell

namespace Shell

/-- Without a flag, `history` shows as many of the last lines as its operand says, or all of them,
each behind its own position; so it shows the end of what it shows without an operand. It refuses an
operand that spells no number, and the shell stays as it is in any case. -/
theorem history_shows_last_lines (shell : Shell) (arguments : Arguments)
    (bare : arguments.takeFlags.1 = []) :
    let history := shell.session.history
    let operand := arguments.takeFlags.2.head?
    (∀ count, Asks operand count → history ≠ [] →
      shell.dispatch "history" arguments = (.success (shell.context.newline.intercalate
        (Command.lastPositioned history (Command.shownOf history count))), shell) ∧
      (shell.dispatch "history" arguments).1.out.toList <:+
        (shell.dispatch "history" []).1.out.toList) ∧
      ∀ word, operand = some word → (∀ count, ¬ Text.Spells word count) →
        shell.dispatch "history" arguments =
          (.failed ("history: " ++ word ++ ": numeric argument required"), shell) := by
  intro history operand
  constructor
  · intro count asks spoken
    have shown := dispatch_history_of_asks bare asks spoken
    have all : shell.dispatch "history" [] =
        (.success (shell.context.newline.intercalate
          (Command.lastPositioned history history.length)), shell) := by
      have wordless : Asks (Arguments.operands []).head? 0 := .everything
      exact dispatch_history_of_asks rfl wordless spoken
    refine ⟨shown, ?_⟩
    rw [shown, all, Command.lastPositioned_eq_drop (Command.shownOf_le history count)]
    exact intercalate_drop_suffix _ _ _
  · intro word named foreign
    exact dispatch_history_of_no_number bare named foreign

theorem history_shows_last_lines_terminal :
    let shell := (((boot .terminal .epoch).record "ls").record "pwd").record "cd"
    shell.dispatch "history" ["+02", "x"] = (.success "    2  pwd\n    3  cd", shell) ∧
      "    2  pwd\n    3  cd".toList <:+ (shell.dispatch "history" []).1.out.toList ∧
      shell.dispatch "history" ["+"] =
        (.failed "history: +: numeric argument required", shell) := by
  intro shell
  obtain ⟨lines, -⟩ := history_shows_last_lines shell ["+02", "x"] (by decide)
  obtain ⟨-, refuses⟩ := history_shows_last_lines shell ["+"] (by decide)
  have two : Text.Spells "+02" 2 :=
    ⟨['0', '2'], Or.inr (by decide), by decide, List.all_eq_true.mp (by decide), by decide,
      by decide⟩
  obtain ⟨shown, suffix⟩ := lines 2 (.number two) (by decide)
  have told : shell.dispatch "history" ["+02", "x"] =
      (.success "    2  pwd\n    3  cd", shell) := shown.trans (Prod.ext (by decide) rfl)
  refine ⟨told, ?_, refuses "+" (by decide) ?_⟩
  · rwa [told] at suffix
  · intro count spells
    cases (Text.count?_eq_some_iff.mpr spells)

end Shell

end TeachingShell
