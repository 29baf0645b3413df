import Mathlib.Algebra.BigOperators.Group.List.Basic
import Mathlib.Algebra.Order.Group.Multiset
import TeachingShell.Proofs.Mutators
import TeachingShell.Tree.Survey

/-!
Sums over all nodes of a tree. A node that is attached under a free name adds its own sum, and a node
that is taken out takes its own sum along, wherever in the tree that is.
-/

namespace TeachingShell

variable {M : Type} [AddCancelCommMonoid M]

namespace Node

def total (weight : Attributes → Option String → M) : Node → M
  | file attributes content => weight attributes (some content)
  | directory attributes names child =>
      weight attributes none +
        (names.toList.pmap (fun name member => (child name member).total weight)
          fun _ member => member).sum

variable (weight : Attributes → Option String → M)

theorem total_eq (node : Node) :
    node.total weight =
      weight node.attributes node.content? + (node.children.map (·.2.total weight)).sum := by
  cases node with
  | file attributes content => simp [total, children, Node.attributes, content?]
  | directory attributes names child =>
      simp only [total, children, Node.attributes, content?, List.map_pmap]

theorem sum_survey (node : Node) (path : Path) :
    ((node.survey path).map fun entry => weight entry.2.attributes entry.2.content?).sum =
      node.total weight := by
  induction node generalizing path with
  | file attributes content => simp [survey, total, Node.attributes, content?]
  | directory attributes names child ih =>
      simp only [survey, total, List.map_cons, List.sum_cons, List.map_flatten, List.sum_flatten,
        List.map_pmap, Node.attributes, content?]
      congr 2
      exact List.pmap_congr_left _ fun name _ member _ => ih name member _

theorem children_perm {node other child : Node} {name : String}
    (fresh : other.child? name = none)
    (found : ∀ query, node.child? query = if query = name then some child else other.child? query) :
    node.children.Perm ((name, child) :: other.children) := by
  have absent : (name, child) ∉ other.children := by
    rw [mem_children, fresh]
    exact nofun
  refine (List.perm_ext_iff_of_nodup node.nodup_children
    (List.nodup_cons.mpr ⟨absent, other.nodup_children⟩)).mpr ?_
  rintro ⟨query, answer⟩
  rw [List.mem_cons, mem_children, mem_children, found, Prod.mk.injEq]
  by_cases own : query = name
  · simp [own, fresh, eq_comm]
  · simp [own]

theorem total_eq_add {node other child : Node} {name : String}
    (sameAttributes : node.attributes = other.attributes)
    (sameContent : node.content? = other.content?) (fresh : other.child? name = none)
    (found : ∀ query, node.child? query = if query = name then some child else other.child? query) :
    node.total weight = child.total weight + other.total weight := by
  have sums : (node.children.map (·.2.total weight)).sum =
      child.total weight + (other.children.map (·.2.total weight)).sum := by
    rw [((children_perm fresh found).map _).sum_eq, List.map_cons, List.sum_cons]
  rw [total_eq, total_eq weight other, sums, sameAttributes, sameContent]
  exact add_left_comm _ _ _

theorem total_bind {node : Node} (directory : node.isDirectory) {name : String}
    (free : node.child? name = none) (child : Node) :
    (node.bind name child).total weight = child.total weight + node.total weight :=
  total_eq_add weight (attributes_bind node name child) (content?_bind node name child) free
    fun query => child?_bind directory name query child

theorem total_unbind {node child : Node} {name : String} (found : node.child? name = some child) :
    node.total weight = child.total weight + (node.unbind name).total weight := by
  refine total_eq_add weight (attributes_unbind node name).symm (content?_unbind node name).symm
    (by rw [child?_unbind, if_pos rfl]) fun query => ?_
  rw [child?_unbind]
  by_cases own : query = name
  · rw [if_pos own, own, found]
  · rw [if_neg own, if_neg own]

theorem total_update {node found : Node} {way : List String} (change : Node → Node)
    (reached : node.descend? way = some found) :
    (node.update way change).total weight + found.total weight =
      node.total weight + (change found).total weight := by
  induction way generalizing node with
  | nil =>
      rw [descend?_nil, Option.some.injEq] at reached
      rw [update_nil, reached]
      exact add_comm _ _
  | cons name way ih =>
      rw [descend?_cons] at reached
      obtain ⟨child, present, below⟩ := Option.bind_eq_some_iff.mp reached
      have before : node.total weight = child.total weight + (node.unbind name).total weight :=
        total_unbind weight present
      have after : (node.update (name :: way) change).total weight =
          (child.update way change).total weight + (node.unbind name).total weight := by
        refine total_eq_add weight ?_ ?_ (by rw [child?_unbind, if_pos rfl]) fun query => ?_
        · rw [attributes_update_cons, attributes_unbind]
        · rw [content?_update_cons, content?_unbind]
        · rw [child?_update_cons, child?_unbind]
          by_cases own : query = name
          · rw [if_pos own, if_pos own, own, present, Option.map_some]
          · rw [if_neg own, if_neg own, if_neg own]
      rw [before, after, add_right_comm, ih below, add_right_comm]

end Node

end TeachingShell
