import TeachingShell.Text.Fields

/-!
Blank characters, the words of a line, and a line without its outer blanks.
-/

namespace TeachingShell.Text

/-- The characters with the Unicode property White_Space. -/
def isBlank (c : Char) : Bool :=
  let code := c.toNat
  (0x09 ≤ code && code ≤ 0x0D) || code == 0x20 || code == 0x85 || code == 0xA0 ||
    code == 0x1680 || (0x2000 ≤ code && code ≤ 0x200A) || code == 0x2028 || code == 0x2029 ||
    code == 0x202F || code == 0x205F || code == 0x3000

def words (line : String) : List String :=
  (fields isBlank line.toList).map String.ofList

def dropBlanks (text : List Char) : List Char :=
  text.dropWhile isBlank

def trim (line : String) : String :=
  String.ofList (dropBlanks (dropBlanks line.toList).reverse).reverse

theorem fields_dropBlanks (text : List Char) :
    fields isBlank (dropBlanks text) = fields isBlank text := by
  induction text with
  | nil => rfl
  | cons c text ih =>
      by_cases blank : isBlank c = true
      · rw [fields_cons_of_separates blank, ← ih, dropBlanks, List.dropWhile_cons_of_pos blank]
        rfl
      · rw [dropBlanks, List.dropWhile_cons_of_neg blank]

theorem fields_append_blank {c : Char} (blank : isBlank c) (text : List Char) :
    fields isBlank (text ++ [c]) = fields isBlank text := by
  rw [fields_append_separator blank, fields_nil, List.append_nil]

theorem fields_dropBlanks_reverse (text : List Char) :
    fields isBlank (dropBlanks text).reverse = fields isBlank text.reverse := by
  induction text with
  | nil => rfl
  | cons c text ih =>
      by_cases blank : isBlank c = true
      · rw [List.reverse_cons, fields_append_blank blank, ← ih, dropBlanks,
          List.dropWhile_cons_of_pos blank]
        rfl
      · rw [dropBlanks, List.dropWhile_cons_of_neg blank]

theorem words_trim (line : String) : words (trim line) = words line := by
  simp only [words, trim, String.toList_ofList, fields_dropBlanks_reverse, List.reverse_reverse,
    fields_dropBlanks]

theorem head?_dropBlanks {text : List Char} {c : Char} (first : (dropBlanks text).head? = some c) :
    isBlank c = false := by
  have shown := List.head?_dropWhile_not isBlank text
  rw [← dropBlanks, first] at shown
  exact shown

theorem dropBlanks_of_head? {text : List Char}
    (visible : ∀ c, text.head? = some c → isBlank c = false) : dropBlanks text = text := by
  cases text with
  | nil => rfl
  | cons c text => exact List.dropWhile_cons_of_neg (by simp [visible c rfl])

theorem trim_trim (line : String) : trim (trim line) = trim line := by
  have kept : dropBlanks (dropBlanks (dropBlanks line.toList).reverse).reverse =
      (dropBlanks (dropBlanks line.toList).reverse).reverse := by
    refine dropBlanks_of_head? fun c first => ?_
    have below : dropBlanks (dropBlanks line.toList).reverse <:+ (dropBlanks line.toList).reverse :=
      List.dropWhile_suffix isBlank
    obtain ⟨after, whole⟩ := List.reverse_prefix.mpr below
    rw [List.reverse_reverse] at whole
    have start : (dropBlanks line.toList).head? = some c := by
      rw [← whole, List.head?_append, first, Option.some_or]
    exact head?_dropBlanks start
  have settled : dropBlanks (dropBlanks (dropBlanks line.toList).reverse) =
      dropBlanks (dropBlanks line.toList).reverse :=
    dropBlanks_of_head? fun c first => head?_dropBlanks first
  simp only [trim, String.toList_ofList, kept, List.reverse_reverse, settled]

theorem words_eq_nil_iff {line : String} :
    words line = [] ↔ ∀ c ∈ line.toList, isBlank c := by
  rw [words, List.map_eq_nil_iff, fields_eq_nil_iff]

structure IsWord (word : String) : Prop where
  nonempty : word ≠ ""
  unbroken : ∀ c ∈ word.toList, isBlank c = false

theorem isWord_iff {word : String} :
    IsWord word ↔ (word ≠ "" && word.toList.all fun c => !isBlank c) = true := by
  simp only [Bool.and_eq_true, decide_eq_true_eq, List.all_eq_true, Bool.not_eq_true']
  exact ⟨fun ⟨nonempty, unbroken⟩ => ⟨nonempty, unbroken⟩,
    fun ⟨nonempty, unbroken⟩ => ⟨nonempty, unbroken⟩⟩

instance (word : String) : Decidable (IsWord word) := decidable_of_iff' _ isWord_iff

theorem IsWord.fields {word : String} (isWord : IsWord word) :
    fields isBlank word.toList = [word.toList] :=
  fields_run (by simpa using isWord.nonempty) isWord.unbroken

theorem isWord_of_mem_words {line word : String} (member : word ∈ words line) : IsWord word := by
  obtain ⟨field, inLine, rfl⟩ := List.mem_map.mp member
  obtain ⟨nonempty, unbroken⟩ := unbroken_of_mem_fields inLine
  constructor
  · simpa using nonempty
  · simpa using unbroken

theorem infix_of_mem_words {line word : String} (member : word ∈ words line) :
    word.toList <:+: line.toList := by
  obtain ⟨field, inLine, rfl⟩ := List.mem_map.mp member
  rw [String.toList_ofList]
  exact infix_of_mem_fields inLine

theorem words_intercalate {spoken : List String} (isWord : ∀ word ∈ spoken, IsWord word) :
    words (" ".intercalate spoken) = spoken := by
  induction spoken with
  | nil => rfl
  | cons word rest ih =>
      have own := (isWord word List.mem_cons_self).fields
      have later := ih fun other member => isWord other (List.mem_cons_of_mem _ member)
      cases rest with
      | nil => rw [String.intercalate_singleton, words, own, List.map_singleton, String.ofList_toList]
      | cons second rest =>
          rw [words] at later
          rw [String.intercalate_cons_cons, words, String.toList_append, String.toList_append,
            List.append_assoc]
          have space : " ".toList = [' '] := rfl
          rw [space, List.singleton_append, fields_append_separator (by decide), own,
            List.map_append, later, List.map_singleton, String.ofList_toList, List.singleton_append]

end TeachingShell.Text
