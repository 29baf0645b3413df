import TeachingShell.Node.Basic

/-!
Going down from a node along a list of names, and changing the node at the end of the way. A change
leaves every node alone that is neither on the way nor below its end.
-/

namespace TeachingShell.Node

def descend? : Node → List String → Option Node
  | node, [] => some node
  | node, name :: rest => (node.child? name).bind fun child => child.descend? rest

def update : Node → List String → (Node → Node) → Node
  | node, [], change => change node
  | file attributes content, _ :: _, _ => file attributes content
  | directory attributes names child, name :: rest, change =>
      let changed := directory attributes names fun other member =>
        if other = name then (child other member).update rest change else child other member
      changed.stored

@[simp] theorem descend?_nil (node : Node) : node.descend? [] = some node := by
  cases node <;> rfl

theorem descend?_cons (node : Node) (name : String) (rest : List String) :
    node.descend? (name :: rest) = (node.child? name).bind (·.descend? rest) := by
  cases node <;> rfl

theorem descend?_append (node : Node) (first second : List String) :
    node.descend? (first ++ second) = (node.descend? first).bind (·.descend? second) := by
  induction first generalizing node with
  | nil => simp
  | cons name first ih =>
      simp only [List.cons_append, descend?_cons]
      cases node.child? name with
      | none => rfl
      | some child => exact ih child

theorem update_nil (node : Node) (change : Node → Node) : node.update [] change = change node := by
  cases node <;> rfl

theorem attributes_update_cons (node : Node) (name : String) (rest : List String)
    (change : Node → Node) : (node.update (name :: rest) change).attributes = node.attributes := by
  cases node <;> simp [update, attributes]

theorem content?_update_cons (node : Node) (name : String) (rest : List String)
    (change : Node → Node) : (node.update (name :: rest) change).content? = node.content? := by
  cases node <;> simp [update, content?]

theorem kind_update_cons (node : Node) (name : String) (rest : List String)
    (change : Node → Node) : (node.update (name :: rest) change).kind = node.kind := by
  cases node <;> simp [update, kind]

theorem kind_update {change : Node → Node} (keeps : ∀ node, (change node).kind = node.kind)
    (node : Node) (way : List String) : (node.update way change).kind = node.kind := by
  cases way with
  | nil => rw [update_nil, keeps]
  | cons name rest => exact kind_update_cons node name rest change

theorem child?_update_cons (node : Node) (name other : String) (rest : List String)
    (change : Node → Node) :
    (node.update (name :: rest) change).child? other =
      if other = name then (node.child? other).map (·.update rest change) else node.child? other := by
  cases node with
  | file => simp [update, child?]
  | directory attributes names child =>
      by_cases member : other ∈ names
      · by_cases equal : other = name <;> simp [update, child?, member, equal]
      · simp [update, child?, member]

theorem descend?_update_below (node : Node) (way below : List String) (change : Node → Node) :
    (node.update way change).descend? (way ++ below) =
      (node.descend? way).bind fun found => (change found).descend? below := by
  induction way generalizing node with
  | nil => simp [update_nil]
  | cons name way ih =>
      simp only [List.cons_append, descend?_cons, child?_update_cons, if_true]
      cases node.child? name with
      | none => rfl
      | some child => exact ih child

theorem descend?_update_above (node : Node) (above rest : List String) (change : Node → Node) :
    (node.update (above ++ rest) change).descend? above =
      (node.descend? above).map (·.update rest change) := by
  induction above generalizing node with
  | nil => simp
  | cons name above ih =>
      simp only [List.cons_append, descend?_cons, child?_update_cons, if_true]
      cases node.child? name with
      | none => rfl
      | some child => exact ih child

theorem descend?_update_beside {way other : List String} (notAbove : ¬ other <+: way)
    (notBelow : ¬ way <+: other) (node : Node) (change : Node → Node) :
    (node.update way change).descend? other = node.descend? other := by
  induction way generalizing node other with
  | nil => exact absurd List.nil_prefix notBelow
  | cons name way ih =>
      cases other with
      | nil => exact absurd List.nil_prefix notAbove
      | cons first other =>
          simp only [descend?_cons, child?_update_cons]
          by_cases equal : first = name
          · subst equal
            simp only [if_true]
            cases node.child? first with
            | none => rfl
            | some child =>
                refine ih (fun h => notAbove ?_) (fun h => notBelow ?_) child
                · exact (List.prefix_cons_inj first).mpr h
                · exact (List.prefix_cons_inj first).mpr h
          · simp [equal]

/-- A way finds the same before and after a change, unless it ends on the way to it or goes on by a
child that the change can make another one. -/
theorem descend?_update_elsewhere {way other : List String} {change : Node → Node}
    (notAbove : ¬ other <+: way)
    (kept : ∀ name rest, other = way ++ name :: rest →
      ∀ node, (change node).child? name = node.child? name) (node : Node) :
    (node.update way change).descend? other = node.descend? other := by
  by_cases inside : way <+: other
  · obtain ⟨below, rfl⟩ := inside
    cases below with
    | nil =>
        rw [List.append_nil] at notAbove
        exact absurd (List.prefix_refl way) notAbove
    | cons name rest =>
        rw [descend?_update_below, descend?_append]
        cases node.descend? way with
        | none => rfl
        | some found =>
            simp only [Option.bind_some, descend?_cons, kept name rest rfl found]
  · exact descend?_update_beside notAbove inside node change

end TeachingShell.Node
