import TeachingShell.Wire.Form

/-!
What is read from the wire. A record may be laid out in many ways and a kind spelled in two; reading
tells from each of them the same values, and accepts nothing else. So each value has one canonical
form, and whatever is read can be written again in it.
-/

namespace TeachingShell

namespace Wire

/-- The layouts of a record: the row of its values, or an object that has each value under its name, in
any order and among fields of other names. -/
inductive LaidOut (names : List String) (values : List Value) : Value → Prop
  | row (complete : values.length = names.length) : LaidOut names values (.array values)
  | object {fields extra : List (String × Value)} (complete : values.length = names.length)
      (placed : fields.Perm (names.zip values ++ extra))
      (unknown : ∀ field ∈ extra, field.1 ∉ names) : LaidOut names values (.object fields)

structure Relaxed {α : Type} (names : List String) (read? : Value → Option α) : Prop where
  order : ∀ {fields others : List (String × Value)}, fields.Perm others →
    read? (.object fields) = read? (.object others)
  unknown : ∀ {fields extra : List (String × Value)}, (∀ field ∈ extra, field.1 ∉ names) →
    read? (.object (fields ++ extra)) = read? (.object fields)
  row : ∀ {values : List Value}, values.length = names.length →
    read? (.array values) = read? (.object (names.zip values))

/-- Reading undoes writing and accepts the given spellings and no others; what has been read is written
in its canonical form, which is read as the same again and as nothing else. -/
structure Recovers {α : Type} (canonical : α → Value) (Spells : Value → α → Prop)
    (write : α → Value) (read? : Value → Option α) : Prop where
  written : ∀ x, read? (write x) = some x
  accepted : ∀ value x, read? value = some x ↔ Spells value x
  rewritten : ∀ value x, (read? value).map write = some (canonical x) ↔ read? value = some x
  stable : ∀ x, read? (canonical x) = some x

theorem Recovers.of_accepted {α : Type} {canonical : α → Value} {Spells : Value → α → Prop}
    {write : α → Value} {read? : Value → Option α} (form : ∀ x, write x = canonical x)
    (written : ∀ x, read? (write x) = some x)
    (accepted : ∀ value x, read? value = some x ↔ Spells value x) :
    Recovers canonical Spells write read? := by
  refine ⟨written, accepted, fun value x => ⟨fun rewritten => ?_, fun read => ?_⟩, fun x => ?_⟩
  · obtain ⟨y, read, same⟩ := Option.map_eq_some_iff.mp rewritten
    have equal : some y = some x := by rw [← written y, same, ← form x, written x]
    rw [read, equal]
  · rw [read, Option.map_some, form]
  · rw [← form, written]

namespace Value

theorem string?_eq_some_iff {value : Value} {text : String} :
    value.string? = some text ↔ value = .string text := by
  cases value <;> simp [string?]

theorem signed?_eq_some_iff {value : Value} {number : Int64} :
    value.signed? = some number ↔ value = .integer number.toInt := by
  constructor
  · intro read
    cases value with
    | integer held =>
        rw [signed?] at read
        split at read
        next range =>
          obtain rfl := Option.some.inj read
          rw [Int64.toInt_ofInt_of_le range.1 (Int.lt_add_one_of_le range.2)]
        next => cases read
    | _ => cases read
  · rintro rfl
    exact signed?_integer number

theorem unsigned?_eq_some_iff {value : Value} {number : UInt64} :
    value.unsigned? = some number ↔ value = .integer number.toNat := by
  constructor
  · intro read
    cases value with
    | integer held =>
        rw [unsigned?] at read
        split at read
        next range =>
          obtain rfl := Option.some.inj read
          have bound : held.toNat < UInt64.size := by omega
          rw [UInt64.toNat_ofNat_of_lt' bound, Int.toNat_of_nonneg range.1]
        next => cases read
    | _ => cases read
  · rintro rfl
    exact unsigned?_integer number

section Fields

variable {fields others extra : List (String × Value)} {name : String} {value : Value}

theorem field?_eq_some_iff_filter :
    field? fields name = some value ↔
      fields.filter (fun field => field.1 = name) = [(name, value)] := by
  rw [field?]
  constructor
  · intro found
    split at found
    next key held only =>
      obtain rfl := Option.some.inj found
      have member : (key, held) ∈ fields.filter (fun field => field.1 = name) := by simp [only]
      obtain rfl : key = name := by simpa using (List.mem_filter.mp member).2
      exact only
    next => cases found
  · intro only
    rw [only]

theorem field?_perm (order : fields.Perm others) : field? fields = field? others := by
  funext name
  apply Option.ext
  intro value
  have kept := order.filter fun field : String × Value => field.1 = name
  rw [field?_eq_some_iff_filter, field?_eq_some_iff_filter, ← List.perm_singleton,
    ← List.perm_singleton]
  exact ⟨kept.symm.trans, kept.trans⟩

theorem field?_append (unknown : ∀ field ∈ extra, field.1 ≠ name) :
    field? (fields ++ extra) name = field? fields name := by
  have dropped : extra.filter (fun field => field.1 = name) = [] := by
    simpa [List.filter_eq_nil_iff] using unknown
  rw [field?, field?, List.filter_append, dropped, List.append_nil]

theorem field?_cons_of_ne {key : String} (other : key ≠ name) :
    field? ((key, value) :: fields) name = field? fields name := by
  rw [field?_perm (List.perm_append_singleton (key, value) fields).symm]
  exact field?_append (by simpa using other)

theorem field?_cons_self (absent : ∀ field ∈ fields, field.1 ≠ name) :
    field? ((name, value) :: fields) name = some value := by
  have dropped : fields.filter (fun field => field.1 = name) = [] := by
    simpa [List.filter_eq_nil_iff] using absent
  rw [field?_eq_some_iff_filter, List.filter_cons_of_pos (by simp), dropped]

theorem exists_perm_of_field? (found : field? fields name = some value) :
    ∃ others, fields.Perm ((name, value) :: others) ∧ ∀ other ∈ others, other.1 ≠ name := by
  have split := List.filter_append_perm (fun field : String × Value => field.1 = name) fields
  rw [field?_eq_some_iff_filter.mp found] at split
  exact ⟨_, split.symm, fun other member => by simpa using (List.mem_filter.mp member).2⟩

end Fields

section Record

variable {names : List String} {fields : List (String × Value)} {values : List Value}

theorem mapM_congr {first second : String → Option Value}
    (same : ∀ name ∈ names, first name = second name) : names.mapM first = names.mapM second := by
  induction names with
  | nil => rfl
  | cons name names ih =>
      rw [List.mapM_cons, List.mapM_cons, same name List.mem_cons_self,
        ih fun other member => same other (List.mem_cons_of_mem name member)]

theorem mapM_field?_append {extra : List (String × Value)}
    (unknown : ∀ field ∈ extra, field.1 ∉ names) :
    names.mapM (field? (fields ++ extra)) = names.mapM (field? fields) :=
  mapM_congr fun _ member => field?_append fun field listed same =>
    unknown field listed (same ▸ member)

theorem mapM_field?_cons {name : String} {value : Value} (absent : name ∉ names) :
    names.mapM (field? ((name, value) :: fields)) = names.mapM (field? fields) :=
  mapM_congr fun _ member => field?_cons_of_ne fun same => absent (same ▸ member)

theorem mapM_field?_zip (distinct : names.Nodup) (complete : values.length = names.length) :
    names.mapM (field? (names.zip values)) = some values := by
  induction names generalizing values with
  | nil =>
      obtain rfl := List.length_eq_zero_iff.mp complete
      rfl
  | cons name names ih =>
      obtain ⟨value, values, rfl⟩ := List.exists_cons_of_length_eq_add_one complete
      obtain ⟨absent, distinct⟩ := List.nodup_cons.mp distinct
      have elsewhere : ∀ field ∈ names.zip values, field.1 ≠ name := by
        rintro ⟨key, held⟩ member rfl
        exact absent (List.of_mem_zip member).1
      rw [List.zip_cons_cons, List.mapM_cons, field?_cons_self elsewhere, mapM_field?_cons absent,
        ih distinct (Nat.succ.inj complete)]
      rfl

theorem perm_of_mapM_field? (distinct : names.Nodup)
    (found : names.mapM (field? fields) = some values) :
    values.length = names.length ∧ ∃ extra, fields.Perm (names.zip values ++ extra) ∧
      ∀ field ∈ extra, field.1 ∉ names := by
  induction names generalizing fields values with
  | nil =>
      obtain rfl : [] = values := Option.some.inj found
      exact ⟨rfl, fields, .refl _, by simp⟩
  | cons name names ih =>
      obtain ⟨absent, distinct⟩ := List.nodup_cons.mp distinct
      -- The first name takes its field out of the object; the others are looked up in what is left.
      rw [List.mapM_cons] at found
      obtain ⟨value, here, later⟩ := Option.bind_eq_some_iff.mp found
      obtain ⟨rest, there, same⟩ := Option.bind_eq_some_iff.mp later
      obtain rfl := Option.some.inj same
      obtain ⟨others, placed, elsewhere⟩ := exists_perm_of_field? here
      rw [field?_perm placed, mapM_field?_cons absent] at there
      obtain ⟨complete, extra, spread, unknown⟩ := ih distinct there
      refine ⟨congrArg Nat.succ complete, extra, placed.trans (spread.cons _), ?_⟩
      intro field member
      have beside := elsewhere field (spread.mem_iff.mpr (List.mem_append_right _ member))
      exact List.not_mem_cons_of_ne_of_not_mem beside (unknown field member)

theorem record?_eq_some_iff (distinct : names.Nodup) {value : Value} :
    value.record? names = some values ↔ LaidOut names values value := by
  constructor
  · intro read
    cases value with
    | array items =>
        rw [record?] at read
        split at read
        next complete =>
          obtain rfl := Option.some.inj read
          exact .row complete
        next => cases read
    | object fields =>
        obtain ⟨complete, extra, placed, unknown⟩ := perm_of_mapM_field? distinct read
        exact .object complete placed unknown
    | _ => cases read
  · rintro (complete | ⟨complete, placed, unknown⟩)
    · rw [record?, if_pos complete]
    · rw [record?, field?_perm placed, mapM_field?_append unknown,
        mapM_field?_zip distinct complete]

end Record

end Value

theorem Relaxed.of_record {α : Type} {names : List String} {read? : Value → Option α}
    (distinct : names.Nodup)
    (same : ∀ {value other : Value}, value.record? names = other.record? names →
      read? value = read? other) :
    Relaxed names read? where
  order placed := same (by rw [Value.record?, Value.record?, Value.field?_perm placed])
  unknown other := same (Value.mapM_field?_append other)
  row complete := same (by
    rw [(Value.record?_eq_some_iff distinct).mpr (.row complete), Value.record?,
      Value.mapM_field?_zip distinct complete])

end Wire

open Wire

namespace Kind

inductive Spelled : Value → Kind → Prop
  | word (kind : Kind) : Spelled (.string kind.name) kind
  | tag (kind : Kind) : Spelled (.object [(kind.name, .null)]) kind

theorem ofName?_eq_some_iff {name : String} {kind : Kind} :
    ofName? name = some kind ↔ name = kind.name := by
  constructor
  · intro read
    unfold ofName? at read
    split at read
    · obtain rfl := Option.some.inj read
      rfl
    · obtain rfl := Option.some.inj read
      rfl
    · cases read
  · rintro rfl
    exact ofName?_name kind

theorem ofWire?_eq_some_iff {value : Value} {kind : Kind} :
    ofWire? value = some kind ↔ Spelled value kind := by
  constructor
  · intro read
    unfold ofWire? at read
    split at read
    next name =>
      obtain rfl := ofName?_eq_some_iff.mp read
      exact .word kind
    next name =>
      obtain rfl := ofName?_eq_some_iff.mp read
      exact .tag kind
    next => cases read
  · rintro (_ | _)
    · exact ofName?_name kind
    · exact ofName?_name kind

end Kind

namespace Outcome

def fieldNames : List String := ["code", "out", "err"]

def cells (outcome : Outcome) : List Value :=
  [.integer outcome.code.toInt, .string outcome.out, .string outcome.err]

theorem ofWire?_eq_some_iff {value : Value} {outcome : Outcome} :
    ofWire? value = some outcome ↔ LaidOut fieldNames outcome.cells value := by
  rw [← Value.record?_eq_some_iff (by decide)]
  constructor
  · intro read
    obtain ⟨values, recorded, read⟩ := Option.bind_eq_some_iff.mp read
    split at read
    next code out err =>
      simp only [Option.bind_eq_bind, Option.bind_eq_some_iff, Value.signed?_eq_some_iff,
        Value.string?_eq_some_iff] at read
      obtain ⟨_, rfl, _, rfl, _, rfl, same⟩ := read
      obtain rfl := Option.some.inj same
      exact recorded
    next => cases read
  · intro recorded
    rw [fieldNames] at recorded
    simp [ofWire?, recorded, cells, Value.string?]

theorem relaxed_ofWire? : Relaxed fieldNames ofWire? := by
  refine .of_record (by decide) fun same => ?_
  rw [fieldNames] at same
  rw [ofWire?, ofWire?, same]

end Outcome

namespace Entry

def fieldNames : List String :=
  ["name", "kind", "permissions", "owner", "group", "size", "modified"]

def cells (entry : Entry) (kind : Value) : List Value :=
  [.string entry.name, kind, .string entry.attributes.permissions, .string entry.attributes.owner,
    .string entry.attributes.group, .integer entry.attributes.size.toNat,
    .string entry.attributes.modified]

theorem ofWire?_eq_some_iff {value : Value} {entry : Entry} :
    ofWire? value = some entry ↔
      ∃ kind, Kind.Spelled kind entry.kind ∧ LaidOut fieldNames (entry.cells kind) value := by
  constructor
  · intro read
    obtain ⟨values, recorded, read⟩ := Option.bind_eq_some_iff.mp read
    split at read
    next name kind permissions owner group size modified =>
      simp only [Option.bind_eq_bind, Option.bind_eq_some_iff, Value.unsigned?_eq_some_iff,
        Value.string?_eq_some_iff] at read
      obtain ⟨_, rfl, _, spelled, _, rfl, _, rfl, _, rfl, _, rfl, _, rfl, same⟩ := read
      obtain rfl := Option.some.inj same
      exact ⟨kind, Kind.ofWire?_eq_some_iff.mp spelled,
        (Value.record?_eq_some_iff (by decide)).mp recorded⟩
    next => cases read
  · rintro ⟨kind, spelled, laid⟩
    have recorded := (Value.record?_eq_some_iff (by decide)).mpr laid
    rw [fieldNames] at recorded
    simp [ofWire?, recorded, cells, Value.string?, Kind.ofWire?_eq_some_iff.mpr spelled]

theorem relaxed_ofWire? : Relaxed fieldNames ofWire? := by
  refine .of_record (by decide) fun same => ?_
  rw [fieldNames] at same
  rw [ofWire?, ofWire?, same]

end Entry

/-- What goes over the wire comes back. Reading undoes writing. It accepts every layout of the fields of a
record, each of its exact type and within its range, and either spelling of a kind, and nothing else.
What has been read is written again in one form. -/
theorem wire_forms_read_back :
    Recovers (fun kind : Kind => .string kind.name) Kind.Spelled Kind.toWire Kind.ofWire? ∧
      Recovers (fun outcome => .object (Outcome.fieldNames.zip outcome.cells))
        (fun value outcome => LaidOut Outcome.fieldNames outcome.cells value)
        Outcome.toWire Outcome.ofWire? ∧
      Recovers
        (fun entry => .object (Entry.fieldNames.zip (entry.cells (.string entry.kind.name))))
        (fun value entry => ∃ kind, Kind.Spelled kind entry.kind ∧
          LaidOut Entry.fieldNames (entry.cells kind) value)
        Entry.toWire Entry.ofWire? ∧
      Relaxed Outcome.fieldNames Outcome.ofWire? ∧ Relaxed Entry.fieldNames Entry.ofWire? := by
  refine ⟨?_, ?_, ?_, Outcome.relaxed_ofWire?, Entry.relaxed_ofWire?⟩
  · exact .of_accepted (fun _ => rfl) Kind.ofWire?_toWire fun _ _ => Kind.ofWire?_eq_some_iff
  · exact .of_accepted (fun _ => rfl) Outcome.ofWire?_toWire fun _ _ => Outcome.ofWire?_eq_some_iff
  · exact .of_accepted (fun _ => rfl) Entry.ofWire?_toWire fun _ _ => Entry.ofWire?_eq_some_iff

theorem wire_forms_read_back_extremes :
    let outcome : Outcome := ⟨Int64.minValue, "", "no"⟩
    let fields := [("code", Value.integer (-9223372036854775808)), ("out", .string ""),
      ("err", .string "no")]
    Outcome.ofWire? (.object (fields.reverse ++ [("more", .null)])) = some outcome ∧
      Outcome.ofWire? (.array [.integer 9223372036854775808, .string "", .string "no"]) = none ∧
      (Entry.ofWire? (.array [.string "a", .object [("directory", .null)], .string "d", .string "u",
        .string "g", .integer 18446744073709551615, .string "m"])).map Entry.toWire =
          some (.object [("name", .string "a"), ("kind", .string "directory"),
            ("permissions", .string "d"), ("owner", .string "u"), ("group", .string "g"),
            ("size", .integer 18446744073709551615), ("modified", .string "m")]) := by
  intro outcome fields
  obtain ⟨-, outcomes, entries, relaxed, -⟩ := wire_forms_read_back
  refine ⟨?_, rfl, ?_⟩
  · calc Outcome.ofWire? (.object (fields.reverse ++ [("more", .null)]))
      _ = Outcome.ofWire? (.object fields.reverse) := relaxed.unknown (by simp [Outcome.fieldNames])
      _ = Outcome.ofWire? (.object fields) := relaxed.order (List.reverse_perm fields)
      _ = some outcome := outcomes.stable outcome
  · let entry : Entry := ⟨"a", .directory, ⟨"d", "u", "g", 18446744073709551615, "m"⟩⟩
    have laid : LaidOut Entry.fieldNames (entry.cells (.object [("directory", .null)])) (.array _) :=
      .row rfl
    have read := (entries.accepted _ entry).mpr ⟨_, .tag .directory, laid⟩
    exact (entries.rewritten _ entry).mpr read

end TeachingShell
