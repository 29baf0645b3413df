import Mathlib.Data.List.DropRight
import TeachingShell.Proofs.Listings

/-!
Reading a short listing. A directory is shown with a slash, which no name has, and a tab stands between
two children; so the text alone tells the children and their kinds. A name may imitate the style of
a directory, but it cannot imitate the slash.
-/

namespace TeachingShell

namespace Command.Listing

def cells (text : String) : List String :=
  if text = "" then [] else (text.toList.splitOn '\t').map String.ofList

def kindIn (cell : String) : Kind := if '/' ∈ cell.toList then .directory else .file

/-- The name in a cell: all of it for a file, and what is left without the style for a directory. -/
def nameIn (cell : String) : String :=
  match kindIn cell with
  | .file => cell
  | .directory =>
      String.ofList ((cell.toList.drop directoryStyle.length).rdrop ("/" ++ plainStyle).length)

def read (text : String) : List (String × Kind) :=
  (cells text).map fun cell => (nameIn cell, kindIn cell)

/-- A name that can be told from what a short listing puts around it. -/
structure Separable (name : String) : Prop where
  nonempty : name ≠ ""
  unslashed : '/' ∉ name.toList
  untabbed : '\t' ∉ name.toList

theorem separable_iff {name : String} :
    Separable name ↔ name ≠ "" ∧ '/' ∉ name.toList ∧ '\t' ∉ name.toList :=
  ⟨fun ⟨nonempty, unslashed, untabbed⟩ => ⟨nonempty, unslashed, untabbed⟩,
    fun ⟨nonempty, unslashed, untabbed⟩ => ⟨nonempty, unslashed, untabbed⟩⟩

instance (name : String) : Decidable (Separable name) := decidable_of_iff' _ separable_iff

theorem toList_styled (name : String) :
    (styled (name ++ "/")).toList =
      directoryStyle.toList ++ (name.toList ++ ("/" ++ plainStyle).toList) := by
  simp only [styled, String.toList_append, List.append_assoc]

section

variable {entry : Entry} (separable : Separable entry.name)

include separable

theorem kindIn_shortName : kindIn (shortName entry) = entry.kind := by
  unfold kindIn shortName Entry.isDirectory
  cases entry.kind with
  | file => simp [separable.unslashed]
  | directory => simp [toList_styled]

theorem nameIn_shortName : nameIn (shortName entry) = entry.name := by
  unfold nameIn
  rw [kindIn_shortName separable]
  unfold shortName Entry.isDirectory
  cases entry.kind with
  | file => rfl
  | directory =>
      simp only [BEq.rfl, if_true, toList_styled, ← String.length_toList, List.drop_left,
        List.rdrop, List.length_append, Nat.add_sub_cancel, List.take_left, String.ofList_toList]

theorem shortName_ne : shortName entry ≠ "" := by
  unfold shortName
  split
  · intro empty
    have slashed : '/' ∈ (styled (entry.name ++ "/")).toList := by simp [toList_styled]
    rw [empty] at slashed
    exact List.not_mem_nil slashed
  · exact separable.nonempty

theorem untabbed_shortName : '\t' ∉ (shortName entry).toList := by
  have style : '\t' ∉ directoryStyle.toList ∧ '\t' ∉ ("/" ++ plainStyle).toList := by decide
  unfold shortName
  split
  · rw [toList_styled, List.mem_append, List.mem_append, not_or, not_or]
    exact ⟨style.1, separable.untabbed, style.2⟩
  · exact separable.untabbed

end

def cellOf (child : String × Kind) : String :=
  if child.2 == .directory then styled (child.1 ++ "/") else child.1

theorem map_shortName (entries : List Entry) :
    entries.map shortName = (entries.map fun entry => (entry.name, entry.kind)).map cellOf := by
  rw [List.map_map]
  rfl

theorem cells_short {entries : List Entry} (separable : ∀ entry ∈ entries, Separable entry.name) :
    cells (directory entries).short = entries.map shortName := by
  cases entries with
  | nil => rfl
  | cons first rest =>
      have tabs : ((directory (first :: rest)).short.toList).splitOn '\t' =
          ((first :: rest).map shortName).map String.toList := by
        rw [short, String.toList_intercalate]
        refine List.splitOn_intercalate '\t' (fun cell member => ?_) (List.cons_ne_nil _ _)
        simp only [List.mem_map] at member
        obtain ⟨_, ⟨entry, listed, rfl⟩, rfl⟩ := member
        exact untabbed_shortName (separable entry listed)
      have nonempty : (directory (first :: rest)).short ≠ "" := by
        intro empty
        rw [empty] at tabs
        have own : (shortName first).toList = [] := (List.cons.inj tabs).1.symm
        exact shortName_ne (separable first List.mem_cons_self) (String.toList_eq_nil_iff.mp own)
      rw [cells, if_neg nonempty, tabs, List.map_map]
      simp

theorem read_short {entries : List Entry} (separable : ∀ entry ∈ entries, Separable entry.name) :
    read (directory entries).short = entries.map fun entry => (entry.name, entry.kind) := by
  rw [read, cells_short separable, List.map_map]
  refine List.map_congr_left fun entry member => ?_
  rw [Function.comp_apply, nameIn_shortName (separable entry member),
    kindIn_shortName (separable entry member)]

end Command.Listing

namespace Node

def kinds (node : Node) : List (String × Kind) :=
  node.entries.map fun entry => (entry.name, entry.kind)

theorem map_fst_kinds (node : Node) : node.kinds.map Prod.fst = node.entries.map Entry.name := by
  rw [kinds, List.map_map]
  rfl

theorem mem_kinds {node : Node} {name : String} {kind : Kind} :
    (name, kind) ∈ node.kinds ↔ (node.child? name).map Node.kind = some kind := by
  rw [kinds, List.mem_map, Option.map_eq_some_iff]
  constructor
  · rintro ⟨entry, member, same⟩
    cases same
    obtain ⟨child, present, shown, -⟩ := mem_entries.mp member
    exact ⟨child, present, shown.symm⟩
  · rintro ⟨child, present, rfl⟩
    exact ⟨child.entry name, mem_entries.mpr ⟨child, present, rfl, rfl⟩, rfl⟩

theorem ascending_kinds (node : Node) :
    node.kinds.Pairwise fun first second => first.1 < second.1 := by
  have ascending : (node.kinds.map Prod.fst).Pairwise (· < ·) := by
    rw [map_fst_kinds, map_name_entries]
    exact node.names.ascending
  exact List.pairwise_map.mp ascending

theorem kinds_eq_iff {first second : Node} :
    first.kinds = second.kinds ↔
      ∀ name, (first.child? name).map kind = (second.child? name).map kind := by
  constructor
  · intro same name
    refine Option.ext fun kind => ?_
    rw [← mem_kinds, ← mem_kinds, same]
  · intro same
    have distinct (node : Node) : node.kinds.Nodup :=
      node.ascending_kinds.imp fun below equal =>
        String.ne_of_lt below (congrArg Prod.fst equal)
    have perm : first.kinds.Perm second.kinds := by
      refine (List.perm_ext_iff_of_nodup (distinct first) (distinct second)).mpr ?_
      rintro ⟨name, kind⟩
      rw [mem_kinds, mem_kinds, same]
    exact perm.eq_of_pairwise (fun _ _ _ _ below above => absurd above (String.lt_asymm below))
      first.ascending_kinds second.ascending_kinds

def Separable (node : Node) : Prop :=
  ∀ name ∈ node.names.toList, Command.Listing.Separable name

theorem Separable.entry {node : Node} (separable : node.Separable) :
    ∀ entry ∈ node.entries, Command.Listing.Separable entry.name := by
  intro entry member
  refine separable entry.name ?_
  rw [← map_name_entries]
  exact List.mem_map_of_mem member

theorem Separable.read {node : Node} (separable : node.Separable) :
    Command.Listing.read (Command.Listing.directory node.entries).short = node.kinds :=
  Command.Listing.read_short separable.entry

/-- Directories with separable names look the same in short form if and only if they have the same
names with the same kinds. -/
theorem short_eq_iff {first second : Node} (separable : first.Separable)
    (alsoSeparable : second.Separable) :
    (Command.Listing.directory first.entries).short =
        (Command.Listing.directory second.entries).short ↔
      ∀ name, (first.child? name).map kind = (second.child? name).map kind := by
  rw [← kinds_eq_iff]
  constructor
  · intro same
    rw [← separable.read, same, alsoSeparable.read]
  · intro same
    rw [Command.Listing.short, Command.Listing.short, Command.Listing.map_shortName,
      Command.Listing.map_shortName, ← kinds, ← kinds, same]

end Node

namespace Shell

/-- Whether `ls` with some words and no flags is about a directory that it can show. -/
structure Tells (shell : Shell) (arguments : Arguments) (directory : Node) : Prop where
  short : arguments.flags = []
  found : shell.tree.directory (shell.context.viewed arguments) = .ok directory
  separable : directory.Separable

theorem Tells.dispatch {shell : Shell} {arguments : Arguments} {directory : Node}
    (tells : shell.Tells arguments directory) :
    shell.dispatch "ls" arguments =
      (.success (Command.Listing.directory directory.entries).short, shell) := by
  have letters : ∀ letter ∈ arguments.flags, letter = 'l' := by
    rw [tells.short]
    exact List.forall_mem_nil _
  refine dispatch_of_run .ls ?_
  rw [Verb.run, Command.list_viewed tells.found letters, tells.short]
  rfl

/-- Cut at its tabs, a short listing is read back as the children of the directory with their kinds,
in the order of the bytes of their names. So it is the same for two directories, of one shell or of
two, just if these have the same names with the same kinds. -/
theorem short_listing_read_back :
    (∀ (shell : Shell) (arguments : Arguments) (directory : Node),
      shell.Tells arguments directory →
        ∃ text, shell.dispatch "ls" arguments = (.success text, shell) ∧
          ((Command.Listing.read text).Pairwise fun first second =>
            Terminal.bytesOf first.1 < Terminal.bytesOf second.1) ∧
          ∀ name kind, (name, kind) ∈ Command.Listing.read text ↔
            (directory.child? name).map Node.kind = some kind) ∧
      ∀ (shell other : Shell) (arguments otherArguments : Arguments) (first second : Node),
        shell.Tells arguments first → other.Tells otherArguments second →
          ((shell.dispatch "ls" arguments).1 = (other.dispatch "ls" otherArguments).1 ↔
            ∀ name, (first.child? name).map Node.kind = (second.child? name).map Node.kind) := by
  constructor
  · intro shell arguments directory tells
    refine ⟨_, tells.dispatch, ?_, ?_⟩
    · rw [tells.separable.read]
      exact directory.ascending_kinds.imp Terminal.bytesOf_lt
    · intro name kind
      rw [tells.separable.read]
      exact Node.mem_kinds
  · intro shell other arguments otherArguments first second tells otherTells
    rw [tells.dispatch, otherTells.dispatch, ← Node.short_eq_iff tells.separable otherTells.separable]
    constructor
    · intro same
      exact congrArg Outcome.out same
    · intro same
      exact congrArg Outcome.success same

theorem short_listing_read_back_terminal :
    let shell := boot .terminal .epoch
    (∃ text, shell.dispatch "ls" [] = (.success text, shell) ∧
      ("README.txt", .file) ∈ Command.Listing.read text ∧
      ("projects", .directory) ∈ Command.Listing.read text) ∧
      (shell.dispatch "ls" ["downloads"]).1 =
        (shell.dispatch "ls" ["projects/game_dev/assets"]).1 ∧
      (shell.dispatch "ls" []).1 ≠ (shell.dispatch "ls" ["downloads"]).1 := by
  intro shell
  obtain ⟨readBack, alike⟩ := short_listing_read_back
  let home : Node := Tutorial.home Instant.epoch.stamp
  let empty : Node := Tutorial.folder Instant.epoch.stamp []
  have here : shell.Tells [] home := ⟨rfl, rfl, by unfold Node.Separable; decide +kernel⟩
  have downloads : shell.Tells ["downloads"] empty :=
    ⟨rfl, rfl, by unfold Node.Separable; decide⟩
  have assets : shell.Tells ["projects/game_dev/assets"] empty :=
    ⟨rfl, rfl, by unfold Node.Separable; decide⟩
  have readme : (home.child? "README.txt").map Node.kind = some .file := rfl
  refine ⟨?_, ?_, ?_⟩
  · obtain ⟨text, told, -, children⟩ := readBack shell [] home here
    exact ⟨text, told, (children _ _).mpr readme, (children _ _).mpr rfl⟩
  · exact (alike shell shell _ _ empty empty downloads assets).mpr fun _ => rfl
  · intro same
    have both := (alike shell shell _ _ home empty here downloads).mp same "README.txt"
    have absent : (empty.child? "README.txt").map Node.kind = none := rfl
    cases readme.symm.trans (both.trans absent)

end Shell

end TeachingShell
