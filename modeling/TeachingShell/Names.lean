/-!
Finite sets of names, kept in ascending order. Equal sets are equal values, so the order in which
names came and went leaves no trace.
-/

namespace TeachingShell

structure Names where
  toList : List String
  ascending : toList.Pairwise (· < ·)

namespace Names

instance : Membership String Names := ⟨fun names name => name ∈ names.toList⟩

theorem mem_def {name : String} {names : Names} : name ∈ names ↔ name ∈ names.toList := Iff.rfl

instance (name : String) (names : Names) : Decidable (name ∈ names) :=
  inferInstanceAs (Decidable (name ∈ names.toList))

def empty : Names := ⟨[], .nil⟩

def isEmpty (names : Names) : Bool := names.toList.isEmpty

theorem not_mem_empty (name : String) : name ∉ empty := List.not_mem_nil

theorem isEmpty_iff {names : Names} : names.isEmpty = true ↔ ∀ name, name ∉ names := by
  rw [isEmpty, List.isEmpty_iff, List.eq_nil_iff_forall_not_mem]
  rfl

theorem nodup (names : Names) : names.toList.Nodup :=
  names.ascending.imp String.ne_of_lt

theorem ext {left right : Names} (same : ∀ name, name ∈ left ↔ name ∈ right) : left = right := by
  have perm : left.toList.Perm right.toList :=
    (List.perm_ext_iff_of_nodup left.nodup right.nodup).mpr same
  have equal : left.toList = right.toList :=
    perm.eq_of_pairwise
      (fun _ _ _ _ below above => absurd above (String.lt_asymm below))
      left.ascending right.ascending
  cases left
  cases right
  simp_all

def place (name : String) : List String → List String
  | [] => [name]
  | first :: rest =>
      if name < first then name :: first :: rest
      else if name = first then first :: rest
      else first :: place name rest

theorem mem_place {name other : String} {names : List String} :
    other ∈ place name names ↔ other = name ∨ other ∈ names := by
  induction names with
  | nil => simp [place]
  | cons first rest ih =>
      simp only [place]
      split
      · simp
      · split
        next equal => simp [equal]
        next => simp [ih, or_left_comm]

theorem ascending_place {name : String} {names : List String}
    (ascending : names.Pairwise (· < ·)) : (place name names).Pairwise (· < ·) := by
  induction names with
  | nil => simp [place]
  | cons first rest ih =>
      obtain ⟨below, ascendingRest⟩ := List.pairwise_cons.mp ascending
      simp only [place]
      split
      next before =>
        refine List.pairwise_cons.mpr ⟨fun other member => ?_, ascending⟩
        rcases List.mem_cons.mp member with rfl | member
        · exact before
        · exact String.lt_trans before (below other member)
      next notBefore =>
        split
        next => exact ascending
        next different =>
          refine List.pairwise_cons.mpr ⟨fun other member => ?_, ih ascendingRest⟩
          rcases mem_place.mp member with rfl | member
          · exact Decidable.byContradiction fun notAfter =>
              different (String.le_antisymm (String.not_lt.mp notAfter) (String.not_lt.mp notBefore))
          · exact below other member

def insert (name : String) (names : Names) : Names :=
  ⟨place name names.toList, ascending_place names.ascending⟩

def erase (name : String) (names : Names) : Names :=
  ⟨names.toList.filter (· ≠ name), names.ascending.filter _⟩

@[simp] theorem mem_insert {name other : String} {names : Names} :
    other ∈ names.insert name ↔ other = name ∨ other ∈ names := mem_place

@[simp] theorem mem_erase {name other : String} {names : Names} :
    other ∈ names.erase name ↔ other ∈ names ∧ other ≠ name := by
  simp [mem_def, erase]

end Names

end TeachingShell
