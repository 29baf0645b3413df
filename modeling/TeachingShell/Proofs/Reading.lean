import TeachingShell.Terminal.Conversation

/-!
What a stream of bytes says: the lines that it is cut into, and the texts that they are the bytes of.
-/

namespace TeachingShell

namespace Text

/-- How bytes read as lines. A line feed ends a line, and a carriage return before it is not of the
line. At the end of the bytes a line needs no line feed, unless it is empty. -/
inductive Reads : List UInt8 → List (List UInt8) → Prop
  | nothing : Reads [] []
  | unended {line : List UInt8} : line ≠ [] → 10 ∉ line → Reads line [line]
  | ended {line rest : List UInt8} {later : List (List UInt8)} : 10 ∉ line →
      line.getLast? ≠ some 13 → Reads rest later → Reads (line ++ 10 :: rest) (line :: later)
  | returned {line rest : List UInt8} {later : List (List UInt8)} : 10 ∉ line →
      Reads rest later → Reads (line ++ 13 :: 10 :: rest) (line :: later)

theorem cutLines_unended {line : List UInt8} (unbroken : 10 ∉ line) : cutLines line = ([], line) := by
  induction line with
  | nil => rfl
  | cons byte line ih =>
      obtain ⟨first, rest⟩ := List.ne_and_not_mem_of_not_mem_cons unbroken
      simp [cutLines, lineFeed, ih rest, first.symm]

theorem lines_unended {line : List UInt8} (nonempty : line ≠ []) (unbroken : 10 ∉ line) :
    lines line = [line] := by
  simp [lines, cutLines_unended unbroken, nonempty]

theorem lines_append {line : List UInt8} (unbroken : 10 ∉ line) (rest : List UInt8) :
    lines (line ++ 10 :: rest) = dropReturn line :: lines rest := by
  refine lines_ended line rest fun byte member => ?_
  rintro rfl
  exact unbroken member

theorem dropReturn_of_getLast? {line : List UInt8} (plain : line.getLast? ≠ some 13) :
    dropReturn line = line :=
  if_neg plain

theorem dropReturn_concat (line : List UInt8) : dropReturn (line ++ [13]) = line := by
  rw [dropReturn, List.getLast?_concat, List.dropLast_concat]
  exact if_pos rfl

theorem lines_append_return {line : List UInt8} (unbroken : 10 ∉ line) (rest : List UInt8) :
    lines (line ++ 13 :: 10 :: rest) = line :: lines rest := by
  have whole : 10 ∉ line ++ [13] := by
    rw [List.mem_append, not_or]
    exact ⟨unbroken, by decide⟩
  have split := lines_append whole rest
  rwa [List.append_assoc, dropReturn_concat] at split

theorem Reads.lines_eq {bytes : List UInt8} {found : List (List UInt8)} (reads : Reads bytes found) :
    lines bytes = found := by
  induction reads with
  | nothing => rfl
  | unended nonempty unbroken => exact lines_unended nonempty unbroken
  | ended unbroken plain later ih =>
      rw [lines_append unbroken, ih, dropReturn_of_getLast? plain]
  | returned unbroken later ih => rw [lines_append_return unbroken, ih]

theorem reads_lines (bytes : List UInt8) : Reads bytes (lines bytes) := by
  by_cases broken : 10 ∈ bytes
  · obtain ⟨line, rest, split, unbroken⟩ := List.eq_append_cons_of_mem broken
    rw [split]
    by_cases returned : line.getLast? = some 13
    · obtain ⟨front, rfl⟩ := List.getLast?_eq_some_iff.mp returned
      have clear : 10 ∉ front := fun member => unbroken (List.mem_append_left _ member)
      rw [List.append_assoc, List.singleton_append, lines_append_return clear]
      exact .returned clear (reads_lines rest)
    · rw [lines_append unbroken, dropReturn_of_getLast? returned]
      exact .ended unbroken returned (reads_lines rest)
  · by_cases empty : bytes = []
    · rw [empty]
      exact .nothing
    · rw [lines_unended empty broken]
      exact .unended empty broken
termination_by bytes.length
decreasing_by
  all_goals
    rw [split, List.length_append, List.length_cons]
    omega

end Text

namespace Terminal

def bytesOf (text : String) : List UInt8 := text.toUTF8.data.toList

theorem decode?_eq_some_iff {line : List UInt8} {text : String} :
    decode? line = some text ↔ bytesOf text = line := by
  constructor
  · intro decoded
    unfold decode? String.fromUTF8? at decoded
    split at decoded
    · obtain rfl := Option.some.inj decoded
      rfl
    · cases decoded
  · rintro rfl
    have written : (⟨(bytesOf text).toArray⟩ : ByteArray) = text.toUTF8 := rfl
    rw [decode?, written, String.fromUTF8?, String.toUTF8_eq_toByteArray, dif_pos text.isValidUTF8]
    rfl

@[simp] theorem decode?_bytesOf (text : String) : decode? (bytesOf text) = some text :=
  decode?_eq_some_iff.mpr rfl

theorem decode?_eq_none_iff {line : List UInt8} :
    decode? line = none ↔ ∀ text, bytesOf text ≠ line := by
  rw [Option.eq_none_iff_forall_not_mem]
  exact forall_congr' fun text => not_congr decode?_eq_some_iff

end Terminal

end TeachingShell
