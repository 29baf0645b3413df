import TeachingShell.Path.Basic
import TeachingShell.Proofs.Spelling

/-!
What targets mean, piece by piece. A target in two parts leads to where its second part leads from
the place that the first part names. From plain places targets lead to plain places, and those are
found under their own text from everywhere.
-/

namespace TeachingShell.Path

theorem isAbsolute_append {first : String} (nonempty : first ≠ "") (second : String) :
    isAbsolute (first ++ second) = isAbsolute first := by
  have start : first.toList ≠ [] := by simpa using nonempty
  obtain ⟨c, rest, letters⟩ := List.exists_cons_of_ne_nil start
  rw [isAbsolute, isAbsolute, String.toList_append, letters, List.cons_append, List.head?_cons,
    List.head?_cons]

theorem resolve_append_slash {first second : String} (nonempty : first ≠ "")
    (relative : isAbsolute second = false) (location home : Path) :
    resolve (first ++ "/" ++ second) location home =
      resolve second (resolve first location home) home := by
  have start : isAbsolute (first ++ "/" ++ second) = isAbsolute first := by
    rw [String.append_assoc, isAbsolute_append nonempty]
  simp only [resolve, start, relative, pieces_append_slash, walk_append, Bool.false_eq_true,
    if_false]

theorem pop_eq_parent? (path : Path) : path.pop = path.parent?.getD root := by
  by_cases rooted : path = root
  · subst rooted
    rfl
  · obtain ⟨parent, name, rfl⟩ := exists_join rooted
    rw [pop_join, parent?_join, Option.getD_some]

/-- A target in two parts, of which the second does not start again at the root, is followed one
part after the other. A slash or a dot behind it changes nothing, and two dots lead one step up if
there is one. -/
theorem resolve_in_parts {first : String} (nonempty : first ≠ "") (location home : Path) :
    (∀ second, isAbsolute second = false →
        resolve (first ++ "/" ++ second) location home =
          resolve second (resolve first location home) home) ∧
      resolve (first ++ "/") location home = resolve first location home ∧
      resolve (first ++ "/.") location home = resolve first location home ∧
      resolve (first ++ "/..") location home =
        (resolve first location home).parent?.getD root := by
  have parts (second : String) (relative : isAbsolute second = false) :=
    resolve_append_slash nonempty relative location home
  refine ⟨parts, ?_, ?_, ?_⟩
  · have slash := parts "" (by decide)
    rwa [String.append_empty] at slash
  · have dot := parts "." (by decide)
    rwa [String.append_assoc] at dot
  · have dots := parts ".." (by decide)
    rw [String.append_assoc] at dots
    exact dots.trans (pop_eq_parent? _)

theorem resolve_in_parts_home :
    "~/../x" ≠ "" ∧ isAbsolute ".//a/.." = false ∧
      resolve "~/../x/.//a/.." ⟨["tmp"]⟩ defaultHome = ⟨["home", "x"]⟩ ∧
      resolve "~/../x/.." ⟨["tmp"]⟩ defaultHome = ⟨["home"]⟩ := by
  have nonempty : "~/../x" ≠ "" := by decide
  have relative : isAbsolute ".//a/.." = false := by decide
  obtain ⟨parts, -, -, up⟩ := resolve_in_parts nonempty ⟨["tmp"]⟩ defaultHome
  exact ⟨nonempty, relative, (parts ".//a/.." relative).trans (by decide), up.trans (by decide)⟩

def markers : List String := [".", "..", "~"]

structure IsPlain (name : String) : Prop extends IsPiece name where
  literal : name ∉ markers

def Plain (path : Path) : Prop := ∀ name ∈ path.segments, IsPlain name

theorem plain_iff {path : Path} :
    path.Plain ↔ ∀ name ∈ path.segments, name ≠ "" ∧ '/' ∉ name.toList ∧ name ∉ markers := by
  constructor
  · intro plain name member
    obtain ⟨⟨nonempty, unbroken⟩, literal⟩ := plain name member
    exact ⟨nonempty, unbroken, literal⟩
  · intro proper name member
    obtain ⟨nonempty, unbroken, literal⟩ := proper name member
    exact ⟨⟨nonempty, unbroken⟩, literal⟩

instance (path : Path) : Decidable path.Plain := decidable_of_iff' _ plain_iff

theorem Plain.legible {path : Path} (plain : path.Plain) : path.Legible :=
  fun name member => (plain name member).toIsPiece

theorem plain_root : root.Plain := fun _ member => absurd member List.not_mem_nil

theorem Plain.join {path : Path} (plain : path.Plain) {name : String} (own : IsPlain name) :
    (path.join name).Plain := by
  intro other member
  rcases List.mem_append.mp member with higher | last
  · exact plain other higher
  · rw [List.mem_singleton.mp last]
    exact own

theorem Plain.above {path above : Path} (plain : path.Plain) (onTheWay : path.startsWith above) :
    above.Plain := by
  obtain ⟨below, segments⟩ := startsWith_iff.mp onTheWay
  intro name member
  refine plain name ?_
  rw [← segments]
  exact List.mem_append_left below member

theorem startsWith_pop (path : Path) : path.startsWith path.pop :=
  List.isPrefixOf_iff_prefix.mpr (List.dropLast_prefix path.segments)

theorem step_of_literal {name : String} (literal : name ∉ markers) (home location : Path) :
    step home location name = location.join name := by
  simp only [markers, List.mem_cons, List.not_mem_nil, or_false, not_or] at literal
  rw [step, if_neg literal.1, if_neg literal.2.1, if_neg literal.2.2]

theorem walk_of_literal {names : List String} (literal : ∀ name ∈ names, name ∉ markers)
    (home location : Path) : walk home location names = location.extend names := by
  induction names generalizing location with
  | nil => rw [walk_nil, extend_nil]
  | cons name rest ih =>
      obtain ⟨own, later⟩ := List.forall_mem_cons.mp literal
      have onward := ih later (location.join name)
      rw [← step_of_literal own home location] at onward
      refine onward.trans ?_
      rw [step_of_literal own, extend, extend, segments_join, List.append_assoc,
        List.singleton_append]

theorem plain_step {home location : Path} (plainHome : home.Plain) (plain : location.Plain)
    {piece : String} (isPiece : IsPiece piece) : (step home location piece).Plain := by
  unfold step
  split
  · exact plain
  · split
    · exact plain.above (startsWith_pop location)
    · split
      · exact plainHome
      next notHere notUp notHome =>
        refine plain.join ⟨isPiece, ?_⟩
        simp only [markers, List.mem_cons, List.not_mem_nil, or_false, not_or]
        exact ⟨notHere, notUp, notHome⟩

theorem plain_walk {home location : Path} (plainHome : home.Plain) (plain : location.Plain)
    {names : List String} (legible : ∀ name ∈ names, IsPiece name) :
    (walk home location names).Plain := by
  induction names generalizing location with
  | nil => exact plain
  | cons name rest ih =>
      obtain ⟨own, later⟩ := List.forall_mem_cons.mp legible
      exact ih (plain_step plainHome plain own) later

theorem plain_resolve {home location : Path} (plainHome : home.Plain) (plain : location.Plain)
    (target : String) : (resolve target location home).Plain := by
  refine plain_walk plainHome ?_ fun _ member => isPiece_of_mem_pieces member
  split
  · exact plain_root
  · exact plain

theorem isAbsolute_display (path : Path) : isAbsolute path.display := by
  cases path with
  | mk segments =>
      cases segments with
      | nil => rfl
      | cons name rest =>
          have spelled : display ⟨name :: rest⟩ = "/" ++ (name ++ spell rest) := spell_cons name rest
          rw [spelled, isAbsolute_append (by decide)]
          rfl

theorem display_ne {text : String} (relative : isAbsolute text = false) (path : Path) :
    path.display ≠ text := by
  rintro rfl
  rw [isAbsolute_display] at relative
  cases relative

/-- A plain path is found under its own text, wherever one stands. -/
theorem resolve_display {path : Path} (plain : path.Plain) (location home : Path) :
    resolve path.display location home = path := by
  rw [resolve, if_pos (isAbsolute_display path), pieces_display plain.legible,
    walk_of_literal fun name member => (plain name member).literal]
  rfl

end TeachingShell.Path
