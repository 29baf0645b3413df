/-!
Cutting a text at separators. The fields of a text are its maximal runs of characters that are not
separators, in order; leading, trailing and repeated separators leave no trace.
-/

namespace TeachingShell.Text

def consField (run : List Char) (later : List (List Char)) : List (List Char) :=
  if run.isEmpty then later else run :: later

def scan (separates : Char → Bool) : List Char → List Char × List (List Char)
  | [] => ([], [])
  | c :: rest =>
      let (run, later) := scan separates rest
      if separates c then ([], consField run later) else (c :: run, later)

def fields (separates : Char → Bool) (text : List Char) : List (List Char) :=
  consField (scan separates text).1 (scan separates text).2

theorem consField_append (run : List Char) (later more : List (List Char)) :
    consField run (later ++ more) = consField run later ++ more := by
  unfold consField
  split <;> rfl

theorem mem_consField {run field : List Char} {later : List (List Char)} :
    field ∈ consField run later ↔ (field = run ∧ run ≠ []) ∨ field ∈ later := by
  unfold consField
  cases run <;> simp

@[simp]
theorem fields_nil (separates : Char → Bool) : fields separates [] = [] := rfl

theorem fields_cons_of_separates {separates : Char → Bool} {c : Char} (separator : separates c)
    (rest : List Char) : fields separates (c :: rest) = fields separates rest := by
  simp [fields, scan, separator, consField]

theorem scan_append_separator {separates : Char → Bool} {c : Char} (separator : separates c)
    (before after : List Char) :
    scan separates (before ++ c :: after) =
      ((scan separates before).1, (scan separates before).2 ++ fields separates after) := by
  induction before with
  | nil => simp [scan, separator, fields]
  | cons first before ih =>
      simp only [List.cons_append, scan, ih]
      split <;> simp [consField_append]

theorem fields_append_separator {separates : Char → Bool} {c : Char} (separator : separates c)
    (before after : List Char) :
    fields separates (before ++ c :: after) = fields separates before ++ fields separates after := by
  simp only [fields, scan_append_separator separator, consField_append]

theorem scan_run {separates : Char → Bool} {run : List Char}
    (unbroken : ∀ c ∈ run, separates c = false) : scan separates run = (run, []) := by
  induction run with
  | nil => rfl
  | cons c run ih =>
      have tail := ih fun c' member => unbroken c' (List.mem_cons_of_mem _ member)
      simp [scan, tail, unbroken c List.mem_cons_self]

theorem fields_run {separates : Char → Bool} {run : List Char} (nonempty : run ≠ [])
    (unbroken : ∀ c ∈ run, separates c = false) : fields separates run = [run] := by
  simp [fields, scan_run unbroken, consField, nonempty]

theorem fields_eq_nil_iff {separates : Char → Bool} {text : List Char} :
    fields separates text = [] ↔ ∀ c ∈ text, separates c := by
  induction text with
  | nil => simp
  | cons c text ih =>
      by_cases separator : separates c = true
      · rw [fields_cons_of_separates separator, ih]
        simp [separator]
      · simp [fields, scan, separator, consField]

theorem scan_unbroken (separates : Char → Bool) (text : List Char) :
    (∀ c ∈ (scan separates text).1, separates c = false) ∧
      ∀ field ∈ (scan separates text).2, field ≠ [] ∧ ∀ c ∈ field, separates c = false := by
  induction text with
  | nil => simp [scan]
  | cons c text ih =>
      simp only [scan]
      by_cases separator : separates c = true
      · simp only [separator, if_true]
        refine ⟨by simp, fun field member => ?_⟩
        rcases mem_consField.mp member with ⟨rfl, nonempty⟩ | member
        · exact ⟨nonempty, ih.1⟩
        · exact ih.2 field member
      · simp only [separator]
        refine ⟨fun c' member => ?_, ih.2⟩
        rcases List.mem_cons.mp member with rfl | member
        · simpa using separator
        · exact ih.1 c' member

theorem unbroken_of_mem_fields {separates : Char → Bool} {text field : List Char}
    (member : field ∈ fields separates text) :
    field ≠ [] ∧ ∀ c ∈ field, separates c = false := by
  rcases mem_consField.mp member with ⟨rfl, nonempty⟩ | member
  · exact ⟨nonempty, (scan_unbroken separates text).1⟩
  · exact (scan_unbroken separates text).2 field member

theorem scan_infix (separates : Char → Bool) (text : List Char) :
    (scan separates text).1 <+: text ∧ ∀ field ∈ (scan separates text).2, field <:+: text := by
  induction text with
  | nil => simp [scan]
  | cons c text ih =>
      obtain ⟨first, others⟩ := ih
      have later (field) (found : field ∈ (scan separates text).2) : field <:+: c :: text :=
        List.infix_cons (others field found)
      rw [scan]
      by_cases separator : separates c = true
      · simp only [separator, if_true]
        refine ⟨List.nil_prefix, fun field member => ?_⟩
        rcases mem_consField.mp member with ⟨rfl, -⟩ | member
        · exact List.infix_cons first.isInfix
        · exact later field member
      · simp only [separator]
        exact ⟨List.cons_prefix_cons.mpr ⟨rfl, first⟩, later⟩

theorem infix_of_mem_fields {separates : Char → Bool} {text field : List Char}
    (member : field ∈ fields separates text) : field <:+: text := by
  obtain ⟨first, others⟩ := scan_infix separates text
  rcases mem_consField.mp member with ⟨rfl, -⟩ | later
  · exact first.isInfix
  · exact others field later

end TeachingShell.Text
