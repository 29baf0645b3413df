import TeachingShell.Command.Operand

/-!
A tool is a named thing that a verb can run: it takes words and a context, and gives an answer and
the context after it. A registry keeps tools in the order in which their names were first registered,
with an index from each name to its slot; registering a name again puts the new tool into the old
slot.
-/

namespace TeachingShell

structure Tool where
  name : String
  schema : Schema
  run : Arguments → Context → Outcome × Context

structure Registry where
  tools : Array Tool
  index : List (String × Nat)

namespace Registry

def empty : Registry := ⟨#[], []⟩

def register (registry : Registry) (tool : Tool) : Registry :=
  match registry.index.lookup tool.name with
  | some slot => { registry with tools := registry.tools.setIfInBounds slot tool }
  | none => ⟨registry.tools.push tool, (tool.name, registry.tools.size) :: registry.index⟩

def ofTools (tools : List Tool) : Registry := tools.foldl register empty

def get? (registry : Registry) (name : String) : Option Tool := do
  let slot ← registry.index.lookup name
  registry.tools[slot]?

def contains (registry : Registry) (name : String) : Bool :=
  (registry.index.lookup name).isSome

def names (registry : Registry) : List String := registry.tools.toList.map Tool.name

def schemas (registry : Registry) : List Schema := registry.tools.toList.map Tool.schema

def size (registry : Registry) : Nat := registry.tools.size

def isEmpty (registry : Registry) : Bool := registry.tools.isEmpty

end Registry

end TeachingShell
