import TeachingShell.Path.Basic

/-!
Paths and the texts that spell them. A path is read back from its text exactly if each of its names
can stand between slashes. Among such paths, the ones below another are those whose text goes on
with a slash.
-/

namespace TeachingShell.Path

structure IsPiece (name : String) : Prop where
  nonempty : name ≠ ""
  unbroken : '/' ∉ name.toList

def Legible (path : Path) : Prop := ∀ name ∈ path.segments, IsPiece name

theorem legible_iff {path : Path} :
    path.Legible ↔ ∀ name ∈ path.segments, name ≠ "" ∧ '/' ∉ name.toList := by
  constructor
  · intro legible name member
    exact ⟨(legible name member).nonempty, (legible name member).unbroken⟩
  · intro proper name member
    exact ⟨(proper name member).1, (proper name member).2⟩

instance (path : Path) : Decidable path.Legible := decidable_of_iff' _ legible_iff

def spell (names : List String) : String := String.join (names.map ("/" ++ ·))

theorem pieces_append_slash (before after : String) :
    pieces (before ++ "/" ++ after) = pieces before ++ pieces after := by
  have slash : "/".toList = ['/'] := rfl
  simp only [pieces, String.toList_append, slash, List.append_assoc, List.singleton_append]
  rw [Text.fields_append_separator (by decide), List.map_append]

theorem isPiece_of_mem_pieces {text piece : String} (member : piece ∈ pieces text) :
    IsPiece piece := by
  obtain ⟨field, inText, rfl⟩ := List.mem_map.mp member
  obtain ⟨nonempty, unbroken⟩ := Text.unbroken_of_mem_fields inText
  constructor
  · simpa using nonempty
  · rw [String.toList_ofList]
    intro slash
    cases unbroken '/' slash

theorem IsPiece.pieces {name : String} (isPiece : IsPiece name) : pieces name = [name] := by
  have run : Text.fields (· == '/') name.toList = [name.toList] := by
    refine Text.fields_run (by simpa using isPiece.nonempty) fun c member => ?_
    simp only [beq_eq_false_iff_ne]
    rintro rfl
    exact isPiece.unbroken member
  rw [Path.pieces, run, List.map_singleton, String.ofList_toList]

theorem legible_parse (text : String) : (parse text).Legible :=
  fun _ member => isPiece_of_mem_pieces member

theorem spell_cons (name : String) (rest : List String) :
    spell (name :: rest) = "/" ++ (name ++ spell rest) := by
  rw [spell, List.map_cons, String.join_cons, String.append_assoc]
  rfl

theorem spell_append (first second : List String) :
    spell (first ++ second) = spell first ++ spell second := by
  rw [spell, List.map_append, String.join_append]
  rfl

theorem display_of_ne_root {path : Path} (below : path ≠ root) :
    path.display = spell path.segments := by
  cases path with
  | mk segments =>
      cases segments with
      | nil => exact absurd rfl below
      | cons name rest => rfl

theorem pieces_append_spell (before : String) {names : List String}
    (legible : ∀ name ∈ names, IsPiece name) :
    pieces (before ++ spell names) = pieces before ++ names := by
  induction names generalizing before with
  | nil => simp [spell]
  | cons name rest ih =>
      obtain ⟨own, later⟩ := List.forall_mem_cons.mp legible
      rw [spell_cons, ← String.append_assoc, pieces_append_slash, ih name later, own.pieces,
        List.singleton_append]

theorem pieces_display {path : Path} (legible : path.Legible) :
    pieces path.display = path.segments := by
  by_cases rooted : path = root
  · subst rooted
    rfl
  · have read := pieces_append_spell "" legible
    rwa [String.empty_append, ← display_of_ne_root rooted] at read

theorem parse_display_iff {path : Path} : parse path.display = path ↔ path.Legible := by
  constructor
  · intro same
    rw [← same]
    exact legible_parse path.display
  · intro legible
    rw [parse, pieces_display legible]

theorem eq_of_display_eq {path other : Path} (legible : path.Legible) (otherLegible : other.Legible)
    (same : path.display = other.display) : path = other := by
  rw [← parse_display_iff.mpr legible, same, parse_display_iff.mpr otherLegible]

theorem display_extend {path : Path} (below : path ≠ root) (rest : List String) :
    (path.extend rest).display = path.display ++ spell rest := by
  have alsoBelow : path.extend rest ≠ root := by
    intro same
    have empty : path.segments ++ rest = [] := congrArg segments same
    exact below (congrArg mk (List.append_eq_nil_iff.mp empty).1)
  rw [display_of_ne_root alsoBelow, display_of_ne_root below]
  exact spell_append path.segments rest

theorem startsWith_iff_display {path other : Path} (legible : path.Legible)
    (otherLegible : other.Legible) :
    path.startsWith other ↔ other = root ∨ path.display = other.display ∨
      ∃ rest, path.display = other.display ++ "/" ++ rest := by
  constructor
  · intro inside
    obtain ⟨rest, rfl⟩ := startsWith_iff_extend.mp inside
    by_cases rooted : other = root
    · exact Or.inl rooted
    · cases rest with
      | nil =>
          rw [extend_nil]
          exact Or.inr (Or.inl rfl)
      | cons name rest =>
          refine Or.inr (Or.inr ⟨name ++ spell rest, ?_⟩)
          rw [display_extend rooted, spell_cons, String.append_assoc]
  · rintro (rfl | same | ⟨rest, longer⟩)
    · exact startsWith_iff.mpr ⟨path.segments, rfl⟩
    · rw [eq_of_display_eq legible otherLegible same]
      exact startsWith_self other
    · have read := congrArg pieces longer
      rw [pieces_append_slash, pieces_display legible, pieces_display otherLegible] at read
      exact startsWith_iff.mpr ⟨pieces rest, read.symm⟩

/-- A path comes back from its text if and only if its names are not empty and have no slash, and so
does each path that was itself read. Texts of such paths tell them apart, and show which ones are
below which. -/
theorem display_determines_path :
    (∀ path : Path, parse path.display = path ↔
        ∀ name ∈ path.segments, name ≠ "" ∧ '/' ∉ name.toList) ∧
      (∀ text, parse (parse text).display = parse text) ∧
      ∀ path other : Path, path.Legible → other.Legible →
        (path.display = other.display → path = other) ∧
          (path.startsWith other ↔ other = root ∨ path.display = other.display ∨
            ∃ rest, path.display = other.display ++ "/" ++ rest) := by
  refine ⟨fun path => ?_, fun text => ?_, fun path other legible otherLegible => ⟨?_, ?_⟩⟩
  · exact parse_display_iff.trans legible_iff
  · exact parse_display_iff.mpr (legible_parse text)
  · exact eq_of_display_eq legible otherLegible
  · exact startsWith_iff_display legible otherLegible

theorem display_determines_path_user :
    parse (display ⟨["home", "user/a"]⟩) ≠ ⟨["home", "user/a"]⟩ ∧
      (⟨["home", "user", "a"]⟩ : Path).Legible ∧ (⟨["home", "user"]⟩ : Path).Legible ∧
      (⟨["home", "user", "a"]⟩ : Path).startsWith ⟨["home", "user"]⟩ := by
  obtain ⟨comesBack, -, between⟩ := display_determines_path
  have below : (⟨["home", "user", "a"]⟩ : Path).Legible := by decide
  have above : (⟨["home", "user"]⟩ : Path).Legible := by decide
  refine ⟨fun same => ?_, below, above, ?_⟩
  · obtain ⟨-, unbroken⟩ := (comesBack _).mp same "user/a" (by decide)
    exact unbroken (by decide)
  · exact (between _ _ below above).2.mpr (Or.inr (Or.inr ⟨"a", by decide⟩))

end TeachingShell.Path
