import TeachingShell.Verb

/-!
Finding a tool by its name. A slot of the index always holds a tool of the indexed name, so that a
registration shows under its own name and under no other.
-/

namespace TeachingShell

namespace Registry

structure Indexed (registry : Registry) : Prop where
  slots : ∀ name slot, registry.index.lookup name = some slot →
    ∃ tool, registry.tools[slot]? = some tool ∧ tool.name = name

theorem indexed_empty : empty.Indexed := by
  constructor
  intro name slot indexed
  simp [empty] at indexed

theorem get?_eq_of_lookup {registry : Registry} {name : String} {slot : Nat}
    (indexed : registry.index.lookup name = some slot) :
    registry.get? name = registry.tools[slot]? := by
  rw [get?, indexed]
  rfl

theorem get?_eq_none_of_lookup {registry : Registry} {name : String}
    (absent : registry.index.lookup name = none) : registry.get? name = none := by
  rw [get?, absent]
  rfl

theorem lookup_register {registry : Registry} (indexed : registry.Indexed) (tool : Tool)
    (name : String) :
    ∃ slot, (registry.register tool).index.lookup tool.name = some slot ∧
      (registry.register tool).tools[slot]? = some tool ∧
      (name ≠ tool.name →
        (registry.register tool).index.lookup name = registry.index.lookup name ∧
        ∀ other, registry.index.lookup name = some other →
          (registry.register tool).tools[other]? = registry.tools[other]?) := by
  cases present : registry.index.lookup tool.name with
  | some slot =>
      obtain ⟨old, held, named⟩ := indexed.slots tool.name slot present
      obtain ⟨bound, _⟩ := Array.getElem?_eq_some_iff.mp held
      refine ⟨slot, ?_, ?_, ?_⟩
      · simp [register, present]
      · simp [register, present, bound]
      · intro different
        refine ⟨by simp [register, present], ?_⟩
        intro other indexedOther
        have apart : slot ≠ other := by
          intro equal
          subst equal
          obtain ⟨holder, heldOther, namedOther⟩ := indexed.slots name slot indexedOther
          have same : holder = old := Option.some.inj (heldOther.symm.trans held)
          exact different (by rw [← namedOther, same, named])
        simp [register, present, apart]
  | none =>
      refine ⟨registry.tools.size, ?_, ?_, ?_⟩
      · simp [register, present]
      · simp [register, present]
      · intro different
        constructor
        · simp [register, present, List.lookup_cons, beq_eq_false_iff_ne.mpr different]
        · intro other indexedOther
          obtain ⟨holder, held, _⟩ := indexed.slots name other indexedOther
          obtain ⟨bound, _⟩ := Array.getElem?_eq_some_iff.mp held
          simp [register, present, Array.getElem?_push, Nat.ne_of_lt bound]

theorem get?_register {registry : Registry} (indexed : registry.Indexed) (tool : Tool)
    (name : String) :
    (registry.register tool).get? name =
      if name = tool.name then some tool else registry.get? name := by
  obtain ⟨slot, placed, held, elsewhere⟩ := lookup_register indexed tool name
  by_cases own : name = tool.name
  · subst own
    rw [if_pos rfl, get?_eq_of_lookup placed, held]
  · obtain ⟨sameIndex, sameTools⟩ := elsewhere own
    rw [if_neg own]
    cases present : registry.index.lookup name with
    | none =>
        rw [get?_eq_none_of_lookup present, get?_eq_none_of_lookup (sameIndex.trans present)]
    | some other =>
        rw [get?_eq_of_lookup present, get?_eq_of_lookup (sameIndex.trans present),
          sameTools other present]

theorem Indexed.register {registry : Registry} (indexed : registry.Indexed) (tool : Tool) :
    (registry.register tool).Indexed := by
  constructor
  intro name slot present
  obtain ⟨own, placed, held, elsewhere⟩ := lookup_register indexed tool name
  by_cases equal : name = tool.name
  · subst equal
    have same : slot = own := Option.some.inj (present.symm.trans placed)
    exact ⟨tool, same ▸ held, rfl⟩
  · obtain ⟨sameIndex, sameTools⟩ := elsewhere equal
    rw [sameIndex] at present
    rw [sameTools slot present]
    exact indexed.slots name slot present

theorem get?_foldl_register {registry : Registry} (indexed : registry.Indexed) {tools : List Tool}
    {name : String} {tool : Tool}
    (found : (tools.foldl Registry.register registry).get? name = some tool) :
    (tool ∈ tools ∧ tool.name = name) ∨ registry.get? name = some tool := by
  induction tools generalizing registry with
  | nil => exact Or.inr found
  | cons first rest ih =>
      rcases ih (indexed.register first) found with ⟨member, named⟩ | older
      · exact Or.inl ⟨List.mem_cons_of_mem _ member, named⟩
      · rw [get?_register indexed] at older
        by_cases own : name = first.name
        · rw [if_pos own, Option.some.injEq] at older
          subst older
          exact Or.inl ⟨List.mem_cons_self, own.symm⟩
        · rw [if_neg own] at older
          exact Or.inr older

theorem verb_of_get?_builtins {name : String} {tool : Tool}
    (found : builtins.get? name = some tool) :
    ∃ verb : Verb, verb.name = name ∧ tool = verb.tool := by
  rcases get?_foldl_register indexed_empty found with ⟨member, named⟩ | impossible
  · obtain ⟨verb, _, rfl⟩ := List.mem_map.mp member
    exact ⟨verb, named, rfl⟩
  · rw [get?_eq_none_of_lookup rfl] at impossible
    cases impossible

theorem get?_builtins (verb : Verb) : builtins.get? verb.name = some verb.tool := by
  cases verb <;> rfl

theorem mem_names_builtins {name : String} :
    name ∈ builtins.names ↔ ∃ verb : Verb, verb.name = name := by
  have names : builtins.names = Verb.all.map Verb.name := rfl
  rw [names, List.mem_map]
  constructor
  · rintro ⟨verb, _, named⟩
    exact ⟨verb, named⟩
  · rintro ⟨verb, named⟩
    exact ⟨verb, verb.mem_all, named⟩

end Registry

end TeachingShell
