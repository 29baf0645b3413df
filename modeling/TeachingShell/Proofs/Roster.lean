import Mathlib.Data.List.Find
import Mathlib.Data.List.Induction
import Mathlib.Data.List.Nodup
import TeachingShell.Proofs.Answers
import TeachingShell.Proofs.Footprint

/-!
The registry as an ordered map from names to tools. The names stand in the order in which they were
first registered, and each of them leads to the tool that was registered last under it. Help goes
through the list of the schemas and running goes through the index; both find the same tool.
-/

namespace TeachingShell

theorem eraseDups_concat (list : List String) (last : String) :
    (list ++ [last]).eraseDups =
      if last ∈ list then list.eraseDups else list.eraseDups ++ [last] := by
  rw [List.eraseDups_append]
  by_cases known : last ∈ list
  · simp [List.removeAll, known]
  · simp [List.removeAll, known, List.eraseDups_cons]

namespace Registry

/-- The index has an entry for each name at its place, and no other; and no name has two places. -/
structure Faithful (registry : Registry) : Prop where
  graph : ∀ name slot, (name, slot) ∈ registry.index ↔ registry.names[slot]? = some name
  distinct : registry.names.Nodup

theorem faithful_empty : empty.Faithful := by
  constructor
  · intro name slot
    simp [empty, names]
  · exact List.nodup_nil

theorem length_names (registry : Registry) : registry.names.length = registry.size := by
  simp [names, size]

theorem getElem?_names (registry : Registry) (slot : Nat) :
    registry.names[slot]? = registry.tools[slot]?.map Tool.name := by
  simp [names]

theorem names_register_known {registry : Registry} {tool : Tool} {slot : Nat}
    (known : registry.index.lookup tool.name = some slot)
    (placed : registry.names[slot]? = some tool.name) :
    (registry.register tool).names = registry.names := by
  obtain ⟨bound, own⟩ := List.getElem?_eq_some_iff.mp placed
  calc (registry.register tool).names
    _ = registry.names.set slot tool.name := by
      simp [register, known, names, List.map_set]
    _ = registry.names := by rw [← own, List.set_getElem_self]

theorem names_register_new {registry : Registry} {tool : Tool}
    (new : registry.index.lookup tool.name = none) :
    (registry.register tool).names = registry.names ++ [tool.name] := by
  simp [register, new, names]

namespace Faithful

variable {registry : Registry} (faithful : registry.Faithful)

include faithful

theorem lookup_eq_some_iff {name : String} {slot : Nat} :
    registry.index.lookup name = some slot ↔ registry.names[slot]? = some name := by
  have sound (place : Nat) (found : registry.index.lookup name = some place) :
      registry.names[place]? = some name := by
    obtain ⟨before, after, split, -⟩ := List.lookup_eq_some_iff.mp found
    refine (faithful.graph name place).mp ?_
    rw [split]
    exact List.mem_append_right before List.mem_cons_self
  constructor
  · exact sound slot
  · intro placed
    have listed := (faithful.graph name slot).mpr placed
    have known : (registry.index.lookup name).isSome :=
      List.lookup_isSome_iff.mpr ⟨(name, slot), listed, beq_self_eq_true name⟩
    obtain ⟨place, found⟩ := Option.isSome_iff_exists.mp known
    obtain ⟨bound, -⟩ := List.getElem?_eq_some_iff.mp placed
    have same := (List.getElem?_inj bound faithful.distinct).mp (placed.trans (sound place found).symm)
    rw [found, same]

theorem indexed : registry.Indexed := by
  constructor
  intro name slot found
  have placed := faithful.lookup_eq_some_iff.mp found
  rwa [getElem?_names, Option.map_eq_some_iff] at placed

theorem contains_iff (name : String) : registry.contains name ↔ name ∈ registry.names := by
  rw [contains, Option.isSome_iff_exists, List.mem_iff_getElem?]
  exact exists_congr fun slot => faithful.lookup_eq_some_iff

theorem not_mem_names {name : String} (new : registry.index.lookup name = none) :
    name ∉ registry.names := by
  rw [← faithful.contains_iff, contains, new]
  exact Bool.false_ne_true

theorem names_register (tool : Tool) :
    (registry.register tool).names =
      if tool.name ∈ registry.names then registry.names else registry.names ++ [tool.name] := by
  cases found : registry.index.lookup tool.name with
  | some slot =>
      have placed := faithful.lookup_eq_some_iff.mp found
      rw [names_register_known found placed, if_pos (List.mem_of_getElem? placed)]
  | none => rw [names_register_new found, if_neg (faithful.not_mem_names found)]

theorem register (tool : Tool) : (registry.register tool).Faithful := by
  cases found : registry.index.lookup tool.name with
  | some slot =>
      have names := names_register_known found (faithful.lookup_eq_some_iff.mp found)
      have index : (registry.register tool).index = registry.index := by
        simp [Registry.register, found]
      constructor
      · rw [names, index]
        exact faithful.graph
      · rw [names]
        exact faithful.distinct
  | none =>
      have names := names_register_new found
      have index : (registry.register tool).index =
          (tool.name, registry.names.length) :: registry.index := by
        simp [Registry.register, found, length_names, size]
      constructor
      · intro name slot
        rw [names, index, List.mem_cons, faithful.graph, Prod.mk.injEq]
        rcases Nat.lt_trichotomy slot registry.names.length with below | rfl | above
        · simp [List.getElem?_append_left below, Nat.ne_of_lt below]
        · simp [eq_comm]
        · have beyond : (registry.names ++ [tool.name])[slot]? = none := by
            rw [List.getElem?_eq_none_iff, List.length_append, List.length_singleton]
            exact above
          rw [beyond, List.getElem?_eq_none_iff.mpr (Nat.le_of_lt above)]
          simp [Nat.ne_of_gt above]
      · rw [names]
        have new := faithful.not_mem_names found
        rw [List.nodup_append]
        refine ⟨faithful.distinct, List.nodup_singleton _, fun name member last only => ?_⟩
        obtain rfl := List.mem_singleton.mp only
        rintro rfl
        exact new member

theorem get?_of_mem {tool : Tool} (held : tool ∈ registry.tools.toList) :
    registry.get? tool.name = some tool := by
  obtain ⟨slot, placed⟩ := List.mem_iff_getElem?.mp held
  rw [Array.getElem?_toList] at placed
  have named : registry.names[slot]? = some tool.name := by
    rw [getElem?_names, placed, Option.map_some]
  rw [get?_eq_of_lookup (faithful.lookup_eq_some_iff.mpr named), placed]

theorem isSome_get? (name : String) : (registry.get? name).isSome ↔ registry.contains name := by
  rw [contains]
  cases found : registry.index.lookup name with
  | none => simp [get?_eq_none_of_lookup found]
  | some slot =>
      obtain ⟨tool, held, -⟩ := faithful.indexed.slots name slot found
      simp [get?_eq_of_lookup found, held]

theorem map_get?_names : registry.names.map registry.get? = registry.tools.toList.map some := by
  rw [names, List.map_map]
  exact List.map_congr_left fun tool held => faithful.get?_of_mem held

theorem get?_eq_find? (name : String) :
    registry.get? name = registry.tools.toList.find? fun tool => tool.name == name := by
  cases listed : registry.tools.toList.find? fun tool => tool.name == name with
  | some tool =>
      have named : tool.name = name := by simpa using List.find?_some listed
      rw [← named]
      exact faithful.get?_of_mem (List.mem_of_find?_eq_some listed)
  | none =>
      cases found : registry.index.lookup name with
      | none => exact get?_eq_none_of_lookup found
      | some slot =>
          obtain ⟨tool, held, named⟩ := faithful.indexed.slots name slot found
          have absent := List.find?_eq_none.mp listed tool
            (Array.mem_toList_iff.mpr (Array.mem_of_getElem? held))
          exact absurd (by simpa using named) absent

theorem find?_schemas (own : ∀ tool ∈ registry.tools.toList, tool.schema.name = tool.name)
    (word : String) :
    Schema.find? registry.schemas word = (registry.get? word).map Tool.schema := by
  have alike : ∀ tool ∈ registry.tools.toList,
      ((fun schema : Schema => schema.name == word) ∘ Tool.schema) tool = (tool.name == word) := by
    intro tool held
    rw [Function.comp_apply, own tool held]
  rw [faithful.get?_eq_find?, Schema.find?, schemas, List.find?_map, List.find?_congr alike]

end Faithful

theorem ofTools_concat (tools : List Tool) (last : Tool) :
    ofTools (tools ++ [last]) = (ofTools tools).register last := by
  rw [ofTools, ofTools, List.foldl_append, List.foldl_cons, List.foldl_nil]

theorem faithful_ofTools (tools : List Tool) : (ofTools tools).Faithful := by
  induction tools using List.reverseRecOn with
  | nil => exact faithful_empty
  | append_singleton tools last ih =>
      rw [ofTools_concat]
      exact ih.register last

theorem names_ofTools (tools : List Tool) :
    (ofTools tools).names = (tools.map Tool.name).eraseDups := by
  induction tools using List.reverseRecOn with
  | nil => rfl
  | append_singleton tools last ih =>
      rw [ofTools_concat, (faithful_ofTools tools).names_register, ih, List.map_append,
        List.map_singleton, eraseDups_concat]
      simp only [List.mem_eraseDups]

theorem get?_ofTools (tools : List Tool) (name : String) :
    (ofTools tools).get? name = tools.reverse.find? fun tool => tool.name == name := by
  induction tools using List.reverseRecOn with
  | nil => rfl
  | append_singleton tools last ih =>
      rw [ofTools_concat, get?_register (faithful_ofTools tools).indexed, List.reverse_append,
        List.reverse_singleton, List.singleton_append, List.find?_cons, ih]
      by_cases own : name = last.name
      · simp [own]
      · rw [if_neg own, beq_eq_false_iff_ne.mpr (Ne.symm own)]

theorem mem_of_mem_ofTools {tools : List Tool} {tool : Tool}
    (held : tool ∈ (ofTools tools).tools.toList) : tool ∈ tools := by
  have found := (faithful_ofTools tools).get?_of_mem held
  rw [get?_ofTools] at found
  exact List.mem_reverse.mp (List.mem_of_find?_eq_some found)

/-- What a registry shows of the registrations it comes from, which stand in their order. -/
structure Records (registry : Registry) (calls : List Tool) : Prop where
  names : registry.names = (calls.map Tool.name).eraseDups
  size : registry.size = registry.names.length
  contains : ∀ name, registry.contains name ↔ name ∈ calls.map Tool.name
  get? : ∀ name, registry.get? name = calls.reverse.find? fun tool => tool.name == name
  schemas : registry.schemas.map some =
    registry.names.map fun name => (registry.get? name).map Tool.schema
  slots : ∀ name slot, (name, slot) ∈ registry.index →
    ∃ bound : slot < registry.tools.size, registry.tools[slot].name = name

theorem Faithful.schemas {registry : Registry} (faithful : registry.Faithful) :
    registry.schemas.map some =
      registry.names.map fun name => (registry.get? name).map Tool.schema := by
  calc registry.schemas.map some
    _ = (registry.tools.toList.map some).map (Option.map Tool.schema) := by simp [Registry.schemas]
    _ = (registry.names.map registry.get?).map (Option.map Tool.schema) := by
      rw [faithful.map_get?_names]
    _ = registry.names.map fun name => (registry.get? name).map Tool.schema := by
      rw [List.map_map]
      rfl

theorem Faithful.slots {registry : Registry} (faithful : registry.Faithful) {name : String}
    {slot : Nat} (listed : (name, slot) ∈ registry.index) :
    ∃ bound : slot < registry.tools.size, registry.tools[slot].name = name := by
  have placed := (faithful.graph name slot).mp listed
  rw [getElem?_names, Option.map_eq_some_iff] at placed
  obtain ⟨tool, held, named⟩ := placed
  obtain ⟨bound, here⟩ := Array.getElem?_eq_some_iff.mp held
  exact ⟨bound, here ▸ named⟩

theorem records_ofTools (calls : List Tool) : (ofTools calls).Records calls := by
  have faithful := faithful_ofTools calls
  have names := names_ofTools calls
  refine ⟨names, (length_names _).symm, fun name => ?_, get?_ofTools calls, faithful.schemas,
    fun name slot => faithful.slots⟩
  rw [faithful.contains_iff, names, List.mem_eraseDups]

section Help

variable {calls : List Tool} (own : ∀ tool ∈ calls, tool.schema.name = tool.name)

include own

theorem topic?_schemas (word newline : String) :
    Schema.topic? (ofTools calls).schemas word newline =
      ((ofTools calls).get? word).map fun tool => tool.schema.detail newline := by
  have held : ∀ tool ∈ (ofTools calls).tools.toList, tool.schema.name = tool.name :=
    fun tool member => own tool (mem_of_mem_ofTools member)
  rw [Schema.topic?, (faithful_ofTools calls).find?_schemas held, Option.map_map]
  rfl

theorem isSome_topic?_schemas (word newline : String) :
    (Schema.topic? (ofTools calls).schemas word newline).isSome ↔
      (ofTools calls).contains word := by
  rw [topic?_schemas own, Option.isSome_map, (faithful_ofTools calls).isSome_get?]

end Help

theorem isSome_topic?_builtins (word newline : String) :
    (Schema.topic? builtins.schemas word newline).isSome ↔ word ∈ builtins.names := by
  have own : ∀ tool ∈ Verb.all.map Verb.tool, tool.schema.name = tool.name := by
    intro tool member
    obtain ⟨verb, -, rfl⟩ := List.mem_map.mp member
    exact verb.name_schema
  have faithful : builtins.Faithful := faithful_ofTools _
  rw [← faithful.contains_iff]
  exact isSome_topic?_schemas own word newline

end Registry

theorem Command.ok_help (word : String) (rest : Arguments) (context : Context) :
    (help (word :: rest) context).ok =
      (Schema.topic? context.schemas word context.newline).isSome := by
  simp only [help, List.head?_cons]
  cases Schema.topic? context.schemas word context.newline with
  | some text => rfl
  | none => rfl

namespace Shell

theorem schemas_dispatch (shell : Shell) (word : String) (arguments : Arguments) :
    (shell.dispatch word arguments).2.context.schemas = shell.context.schemas := by
  rcases shell.dispatch_word word arguments with ⟨-, unknown⟩ | ⟨verb, rfl, ran⟩
  · rw [unknown]
  · rw [ran]
    exact (verb.footprint_run arguments shell.context).schemas

theorem schemas_after (shell : Shell) (step : Step) :
    (shell.after step).context.schemas = shell.context.schemas := by
  cases step with
  | execute line =>
      rw [after]
      rcases shell.execute_cases line with ⟨-, silent⟩ | ⟨verb, arguments, -, dispatched⟩
      · rw [silent]
      · rw [dispatched, schemas_dispatch]
        rfl
  | dispatch word arguments => exact shell.schemas_dispatch word arguments
  | change change => rfl
  | wait now => rfl

theorem schemas_run {config : Config} {now : Instant} {first : Shell}
    (started : start config now = .ok first) (steps : List Step) :
    (first.run steps).context.schemas = Registry.builtins.schemas := by
  obtain ⟨-, -, -, rfl⟩ := start_eq_ok_iff.mp started
  have kept : ∀ shell : Shell, ∀ step, True →
      shell.context.schemas = Registry.builtins.schemas →
        (shell.after step).context.schemas = Registry.builtins.schemas :=
    fun shell step _ told => (shell.schemas_after step).trans told
  exact run_preserves kept rfl fun _ _ => trivial

theorem ok_help_iff {shell : Shell} (told : shell.context.schemas = Registry.builtins.schemas)
    (other : Shell) (word : String) (rest arguments : Arguments) :
    (shell.dispatch "help" (word :: rest)).1.ok ↔ (other.dispatch word arguments).1.code ≠ 127 := by
  have answered : (shell.dispatch "help" (word :: rest)).1 =
      Command.help (word :: rest) shell.context := by
    rw [show "help" = Verb.help.name from rfl, dispatch_verb]
    rfl
  rw [answered, Command.ok_help, told, Registry.isSome_topic?_builtins, Ne,
    (other.shaped_dispatch word arguments).2, not_not]

end Shell

/-- A registry is a map that keeps the order in which its names first came, and the last tool of each
name. If the schemas go by the names of their tools, help describes just the words that lead to a
tool, and describes that tool. So in a shell `help` knows a word if and only if the word can be
run. -/
theorem help_describes_what_runs :
    (∀ calls : List Tool, (Registry.ofTools calls).Records calls ∧
      ((∀ tool ∈ calls, tool.schema.name = tool.name) → ∀ word newline,
        ((Schema.topic? (Registry.ofTools calls).schemas word newline).isSome ↔
          (Registry.ofTools calls).contains word) ∧
        Schema.topic? (Registry.ofTools calls).schemas word newline =
          ((Registry.ofTools calls).get? word).map fun tool => tool.schema.detail newline)) ∧
    ∀ config now first steps, Shell.start config now = .ok first →
      let shell := first.run steps
      ∀ word rest arguments,
        ((shell.dispatch "help" (word :: rest)).1.ok ↔
          (shell.dispatch word arguments).1.code ≠ 127) ∧
        ∀ asked line, Text.words asked = "help" :: word :: rest →
          Text.words line = word :: arguments →
            ((shell.execute asked).1.ok ↔ (shell.execute line).1.code ≠ 127) := by
  constructor
  · intro calls
    refine ⟨Registry.records_ofTools calls, fun own word newline => ?_⟩
    exact ⟨Registry.isSome_topic?_schemas own word newline,
      Registry.topic?_schemas own word newline⟩
  · intro config now first steps started shell word rest arguments
    have told := Shell.schemas_run started steps
    refine ⟨Shell.ok_help_iff told shell word rest arguments, fun asked line inquiry spoken => ?_⟩
    rw [Shell.execute, Shell.execute, inquiry, spoken]
    exact Shell.ok_help_iff told _ word rest arguments

theorem help_describes_what_runs_terminal :
    let later : Tool := { Verb.ls.tool with schema := ⟨"ls", "Look around.", "ls", []⟩ }
    let registry := Registry.ofTools [Verb.ls.tool, Verb.cd.tool, later]
    let shell := (Shell.boot .terminal .epoch).run [.execute "cd documents"]
    registry.names = ["ls", "cd"] ∧ registry.get? "ls" = some later ∧
      Schema.topic? registry.schemas "ls" "\n" = some "ls - Look around." ∧
      (shell.dispatch "help" ["ls", "-l"]).1.ok ∧
      ¬ (shell.execute "help  nope").1.ok := by
  intro later registry shell
  obtain ⟨registered, shells⟩ := help_describes_what_runs
  obtain ⟨records, described⟩ := registered [Verb.ls.tool, Verb.cd.tool, later]
  have own : ∀ tool ∈ [Verb.ls.tool, Verb.cd.tool, later], tool.schema.name = tool.name := by
    simp [later, Verb.tool, Verb.name_schema, Verb.name]
  have found : registry.get? "ls" = some later := (records.get? "ls").trans rfl
  have asked := shells .terminal .epoch _ [.execute "cd documents"] (Shell.start_terminal _)
  refine ⟨records.names.trans (by decide), found, ?_, ?_, ?_⟩
  · rw [(described own "ls" "\n").2, found, Option.map_some]
    decide
  · exact (asked "ls" ["-l"] []).1.mpr (by decide)
  · rw [(asked "nope" [] []).2 "help  nope" "nope" (by decide) (by decide)]
    decide

end TeachingShell
