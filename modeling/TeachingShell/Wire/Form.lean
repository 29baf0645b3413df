import TeachingShell.Interface
import TeachingShell.Wire.Value

/-!
The wire forms of outcomes, kinds and entries. Each is written in one way. It may be read in more:
fields in any order among others, or a record as the array of its fields.
-/

namespace TeachingShell

open Wire (Value)

namespace Kind

def name : Kind → String
  | file => "file"
  | directory => "directory"

def ofName? : String → Option Kind
  | "file" => some file
  | "directory" => some directory
  | _ => none

def toWire (kind : Kind) : Value := .string kind.name

def ofWire? : Value → Option Kind
  | .string name => ofName? name
  | .object [(name, .null)] => ofName? name
  | _ => none

theorem ofName?_name (kind : Kind) : ofName? kind.name = some kind := by
  cases kind <;> rfl

theorem ofWire?_toWire (kind : Kind) : ofWire? kind.toWire = some kind :=
  ofName?_name kind

end Kind

namespace Outcome

def toWire (outcome : Outcome) : Value :=
  .object [("code", .integer outcome.code.toInt), ("out", .string outcome.out),
    ("err", .string outcome.err)]

def ofWire? (value : Value) : Option Outcome := do
  match ← value.record? ["code", "out", "err"] with
  | [code, out, err] => some ⟨← code.signed?, ← out.string?, ← err.string?⟩
  | _ => none

theorem ofWire?_toWire (outcome : Outcome) : ofWire? outcome.toWire = some outcome := by
  simp [ofWire?, toWire, Value.record?, Value.field?, Value.string?]

end Outcome

namespace Entry

def toWire (entry : Entry) : Value :=
  .object [("name", .string entry.name), ("kind", entry.kind.toWire),
    ("permissions", .string entry.attributes.permissions),
    ("owner", .string entry.attributes.owner), ("group", .string entry.attributes.group),
    ("size", .integer entry.attributes.size.toNat),
    ("modified", .string entry.attributes.modified)]

def ofWire? (value : Value) : Option Entry := do
  match ← value.record? ["name", "kind", "permissions", "owner", "group", "size", "modified"] with
  | [name, kind, permissions, owner, group, size, modified] =>
      some ⟨← name.string?, ← Kind.ofWire? kind, ← permissions.string?, ← owner.string?,
        ← group.string?, ← size.unsigned?, ← modified.string?⟩
  | _ => none

theorem ofWire?_toWire (entry : Entry) : ofWire? entry.toWire = some entry := by
  simp [ofWire?, toWire, Value.record?, Value.field?, Value.string?, Kind.ofWire?_toWire]

end Entry

end TeachingShell
