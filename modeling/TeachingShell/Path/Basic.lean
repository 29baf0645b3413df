import TeachingShell.Text.Fields

/-!
Locations in a tree. A path is the list of the names on the way down from the root; the root itself
is the empty list. Building a path looks at no tree, so a path need not lead anywhere.

A typed target that opens with a slash starts at the root and any other at the current location; its
pieces are then taken in order.
-/

namespace TeachingShell

structure Path where
  segments : List String
deriving DecidableEq, Repr

namespace Path

def root : Path := ⟨[]⟩

instance : Inhabited Path := ⟨root⟩

def isRoot (path : Path) : Bool := path.segments.isEmpty

def length (path : Path) : Nat := path.segments.length

def ofSegments (names : List String) : Path :=
  ⟨names.filter (· ≠ "")⟩

def pieces (text : String) : List String :=
  (Text.fields (· == '/') text.toList).map String.ofList

/-- Reads a path. No piece is special, and a leading slash changes nothing. -/
def parse (text : String) : Path := ⟨pieces text⟩

def display (path : Path) : String :=
  match path.segments with
  | [] => "/"
  | segments => String.join (segments.map ("/" ++ ·))

instance : ToString Path := ⟨display⟩

def join (path : Path) (name : String) : Path := ⟨path.segments ++ [name]⟩

def extend (path : Path) (rest : List String) : Path := ⟨path.segments ++ rest⟩

def pop (path : Path) : Path := ⟨path.segments.dropLast⟩

def split? (path : Path) : Option (Path × String) :=
  path.segments.getLast?.map fun name => (path.pop, name)

def parent? (path : Path) : Option Path := path.split?.map Prod.fst

def name? (path : Path) : Option String := path.split?.map Prod.snd

def startsWith (path ancestor : Path) : Bool := ancestor.segments.isPrefixOf path.segments

instance : Ord Path := ⟨fun left right => compare left.segments right.segments⟩

@[simp] theorem segments_root : root.segments = [] := rfl

@[simp] theorem segments_join (path : Path) (name : String) :
    (path.join name).segments = path.segments ++ [name] := rfl

@[simp] theorem extend_nil (path : Path) : path.extend [] = path := by
  simp [extend]

@[simp] theorem pop_join (path : Path) (name : String) : (path.join name).pop = path := by
  simp [pop]

theorem split?_eq_some_iff {path parent : Path} {name : String} :
    path.split? = some (parent, name) ↔ path = parent.join name := by
  constructor
  · intro split
    obtain ⟨last, found, equal⟩ := Option.map_eq_some_iff.mp split
    obtain ⟨before, segments⟩ := List.getLast?_eq_some_iff.mp found
    simp only [Prod.mk.injEq] at equal
    obtain ⟨rfl, rfl⟩ := equal
    cases path
    simp_all [join, pop]
  · rintro rfl
    simp [split?]

theorem split?_eq_none_iff {path : Path} : path.split? = none ↔ path = root := by
  cases path
  simp [split?, root]

@[simp] theorem split?_join (path : Path) (name : String) :
    (path.join name).split? = some (path, name) := split?_eq_some_iff.mpr rfl

@[simp] theorem parent?_join (path : Path) (name : String) :
    (path.join name).parent? = some path := by
  simp [parent?]

theorem parent?_eq_some_iff {path parent : Path} :
    path.parent? = some parent ↔ ∃ name, path = parent.join name := by
  constructor
  · intro above
    obtain ⟨⟨_, name⟩, split, rfl⟩ := Option.map_eq_some_iff.mp above
    exact ⟨name, split?_eq_some_iff.mp split⟩
  · rintro ⟨name, rfl⟩
    exact parent?_join parent name

theorem parent?_eq_none_iff {path : Path} : path.parent? = none ↔ path = root :=
  Option.map_eq_none_iff.trans split?_eq_none_iff

theorem length_lt_of_parent? {path parent : Path} (above : path.parent? = some parent) :
    parent.length < path.length := by
  obtain ⟨name, rfl⟩ := parent?_eq_some_iff.mp above
  rw [length, length, segments_join, List.length_append]
  exact Nat.lt_succ_self _

@[simp] theorem name?_join (path : Path) (name : String) : (path.join name).name? = some name := by
  simp [name?]

theorem startsWith_iff {path ancestor : Path} :
    path.startsWith ancestor = true ↔ ∃ below, ancestor.segments ++ below = path.segments :=
  List.isPrefixOf_iff_prefix

@[simp] theorem isRoot_join (path : Path) (name : String) : (path.join name).isRoot = false := by
  simp [isRoot]

theorem join_ne_root {path : Path} {name : String} : path.join name ≠ root := by
  intro same
  have rooted : (path.join name).isRoot = true := by rw [same]; rfl
  rw [isRoot_join] at rooted
  cases rooted

theorem exists_join {path : Path} (below : path ≠ root) :
    ∃ (parent : Path) (name : String), path = parent.join name := by
  cases split : path.split? with
  | none => exact absurd (split?_eq_none_iff.mp split) below
  | some pair => exact ⟨pair.1, pair.2, split?_eq_some_iff.mp split⟩

theorem join_inj {path other : Path} {name otherName : String} :
    path.join name = other.join otherName ↔ path = other ∧ name = otherName := by
  constructor
  · intro same
    have split := congrArg split? same
    simpa using split
  · rintro ⟨rfl, rfl⟩
    rfl

@[simp] theorem startsWith_self (path : Path) : path.startsWith path = true :=
  startsWith_iff.mpr ⟨[], List.append_nil _⟩

@[simp] theorem startsWith_join (path : Path) (name : String) :
    (path.join name).startsWith path = true :=
  startsWith_iff.mpr ⟨[name], rfl⟩

theorem startsWith_trans {path middle ancestor : Path} (lower : path.startsWith middle = true)
    (upper : middle.startsWith ancestor = true) : path.startsWith ancestor = true :=
  startsWith_iff.mpr (List.IsPrefix.trans (startsWith_iff.mp upper) (startsWith_iff.mp lower))

theorem startsWith_antisymm {path other : Path} (below : path.startsWith other = true)
    (above : other.startsWith path = true) : path = other := by
  have upper : other.segments <+: path.segments := startsWith_iff.mp below
  have lower : path.segments <+: other.segments := startsWith_iff.mp above
  have same := lower.eq_of_length (Nat.le_antisymm lower.length_le upper.length_le)
  cases path
  cases other
  simpa using same

theorem startsWith_iff_extend {path ancestor : Path} :
    path.startsWith ancestor = true ↔ ∃ rest, path = ancestor.extend rest := by
  rw [startsWith_iff]
  constructor
  · rintro ⟨rest, segments⟩
    exact ⟨rest, by rw [extend, segments]⟩
  · rintro ⟨rest, rfl⟩
    exact ⟨rest, rfl⟩

theorem startsWith_join_iff {path ancestor : Path} {name : String} :
    (path.join name).startsWith ancestor = true ↔
      ancestor = path.join name ∨ path.startsWith ancestor = true := by
  simp only [startsWith, List.isPrefixOf_iff_prefix, segments_join, List.prefix_concat_iff]
  refine or_congr_left ?_
  cases ancestor
  simp [join]

theorem startsWith_or_startsWith {path first second : Path}
    (below : path.startsWith first = true) (alsoBelow : path.startsWith second = true) :
    first.startsWith second = true ∨ second.startsWith first = true := by
  simp only [startsWith, List.isPrefixOf_iff_prefix] at below alsoBelow ⊢
  exact (List.prefix_or_prefix_of_prefix below alsoBelow).symm

@[simp] theorem startsWith_join_join (path : Path) (name other : String) :
    (path.join name).startsWith (path.join other) = true ↔ name = other := by
  constructor
  · intro inside
    obtain ⟨below, segments⟩ := startsWith_iff.mp inside
    have length := congrArg List.length segments
    simp only [segments_join, List.length_append, List.length_singleton] at length
    have empty : below = [] := List.length_eq_zero_iff.mp (by omega)
    simpa [empty, eq_comm] using segments
  · rintro rfl
    exact startsWith_self _

@[simp] theorem not_startsWith_join (path : Path) (name : String) :
    path.startsWith (path.join name) = false := by
  rw [Bool.eq_false_iff]
  intro inside
  obtain ⟨below, segments⟩ := startsWith_iff.mp inside
  have length := congrArg List.length segments
  simp only [segments_join, List.length_append, List.length_singleton] at length
  omega

def defaultHome : Path := ⟨["home", "user"]⟩

def step (home location : Path) (piece : String) : Path :=
  if piece = "." then location
  else if piece = ".." then location.pop
  else if piece = "~" then home
  else location.join piece

def isAbsolute (text : String) : Bool := text.toList.head? == some '/'

def walk (home location : Path) (pieces : List String) : Path :=
  pieces.foldl (step home) location

def resolve (target : String) (location home : Path) : Path :=
  walk home (if isAbsolute target then root else location) (pieces target)

@[simp] theorem walk_nil (home location : Path) : walk home location [] = location := rfl

theorem walk_append (home location : Path) (first second : List String) :
    walk home location (first ++ second) = walk home (walk home location first) second :=
  List.foldl_append

end Path

end TeachingShell
