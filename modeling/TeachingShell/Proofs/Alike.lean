import TeachingShell.Proofs.Agreement
import TeachingShell.Proofs.Runs
import TeachingShell.Proofs.Stamps

/-!
Shells that differ in nothing but who uses them, how they end a line and what time it is there. Typed
the same lines, they stay so: no command looks at any of this except to show it.
-/

namespace TeachingShell

structure Context.Alike (left right : Context) : Prop where
  tree : left.tree.unstamped = right.tree.unstamped
  cwd : left.cwd = right.cwd
  previous : left.session.previous = right.session.previous
  home : left.session.home = right.session.home
  history : left.session.history = right.session.history
  schemas : left.schemas = right.schemas
  clears : left.clears = right.clears

namespace Context.Alike

variable {left right : Context} (alike : left.Alike right)

include alike

theorem symm : right.Alike left :=
  ⟨alike.tree.symm, alike.cwd.symm, alike.previous.symm, alike.home.symm, alike.history.symm,
    alike.schemas.symm, alike.clears.symm⟩

theorem withTree {leftTree rightTree : Tree} (same : leftTree.unstamped = rightTree.unstamped) :
    Context.Alike { left with tree := leftTree } { right with tree := rightTree } :=
  { alike with tree := same }

theorem resolve (word : String) : left.resolve word = right.resolve word := by
  have cwd := alike.cwd
  rw [Context.cwd, Context.cwd] at cwd
  rw [Context.resolve, Context.resolve, Session.resolve, Session.resolve, cwd, alike.home]

theorem stat (path : Path) :
    Parallel (fun node other : Node => node.unstamped = other.unstamped)
      (left.tree.stat path) (right.tree.stat path) := by
  have same : (left.tree.lookup? path).map Node.unstamped =
      (right.tree.lookup? path).map Node.unstamped := by
    rw [← Tree.lookup?_unstamped, ← Tree.lookup?_unstamped, alike.tree]
  unfold Tree.stat
  cases inLeft : left.tree.lookup? path with
  | none =>
      cases inRight : right.tree.lookup? path with
      | none => exact .failed _
      | some other => simp [inLeft, inRight] at same
  | some node =>
      cases inRight : right.tree.lookup? path with
      | none => simp [inLeft, inRight] at same
      | some other => exact .answered (by simpa [inLeft, inRight] using same)

theorem directory (path : Path) :
    Parallel (fun node other : Node => node.unstamped = other.unstamped)
      (left.tree.directory path) (right.tree.directory path) := by
  refine (alike.stat path).bind fun node other same => ?_
  rw [Node.seen_of_unstamped Node.isDirectory_unstamped same]
  cases other.isDirectory with
  | true => exact .answered same
  | false => exact .failed _

theorem found {path : Path} {node : Node} (found : left.tree.lookup? path = some node) :
    ∃ other, right.tree.lookup? path = some other ∧ node.unstamped = other.unstamped := by
  have parallel := alike.stat path
  rw [Tree.stat_eq_ok_iff.mpr found] at parallel
  generalize answered : right.tree.stat path = answer at parallel
  cases parallel with
  | answered same => exact ⟨_, Tree.stat_eq_ok_iff.mp answered, same⟩

theorem child {name : String} {node : Node}
    (found : left.tree.lookup? (left.cwd.join name) = some node) :
    ∃ other, right.tree.lookup? (right.cwd.join name) = some other ∧
      node.unstamped = other.unstamped := by
  rw [← alike.cwd]
  exact alike.found found

theorem missing {path : Path} (missing : left.tree.lookup? path = none) :
    right.tree.lookup? path = none := by
  cases inRight : right.tree.lookup? path with
  | none => rfl
  | some other =>
      obtain ⟨node, inLeft, _⟩ := alike.symm.found inRight
      rw [missing] at inLeft
      cases inLeft

theorem isDirectory {path : Path} (directory : left.tree.IsDirectory path) :
    right.tree.IsDirectory path := by
  obtain ⟨node, found, holds⟩ := directory
  obtain ⟨other, inRight, same⟩ := alike.found found
  exact ⟨other, inRight, Node.seen_of_unstamped Node.isDirectory_unstamped same ▸ holds⟩

theorem vacant {name : String} (vacant : Vacant left name) : Vacant right name := by
  obtain ⟨directory, valid, free⟩ := vacant
  rw [alike.cwd] at directory free
  exact ⟨alike.isDirectory directory, valid, alike.missing free⟩

end Context.Alike

theorem Alters.alike {left right : Context} {verb : Verb} {arguments : Arguments} {tree : Tree}
    (alters : Alters left verb arguments tree) (alike : left.Alike right) :
    ∃ other, Alters right verb arguments other ∧ tree.unstamped = other.unstamped := by
  cases alters with
  | makeDirectory vacant =>
      refine ⟨_, .makeDirectory (alike.vacant vacant), ?_⟩
      rw [Tree.unstamped_bind, Tree.unstamped_bind, alike.tree, alike.cwd,
        Node.unstamped_newDirectory, Node.unstamped_newDirectory]
  | makeFile vacant =>
      refine ⟨_, .makeFile (alike.vacant vacant), ?_⟩
      rw [Tree.unstamped_bind, Tree.unstamped_bind, alike.tree, alike.cwd,
        Node.unstamped_newFile, Node.unstamped_newFile]
  | stampFile found file =>
      obtain ⟨other, inRight, same⟩ := alike.child found
      rw [Node.seen_of_unstamped Node.isFile_unstamped same] at file
      refine ⟨_, .stampFile inRight file, ?_⟩
      rw [Tree.unstamped_restamp, Tree.unstamped_restamp, alike.tree, alike.cwd]
  | removeFile found file =>
      obtain ⟨other, inRight, same⟩ := alike.child found
      rw [Node.seen_of_unstamped Node.isFile_unstamped same] at file
      refine ⟨_, .removeFile inRight file, ?_⟩
      rw [Tree.unstamped_unbind, Tree.unstamped_unbind, alike.tree, alike.cwd]
  | removeDirectory found empty =>
      obtain ⟨other, inRight, same⟩ := alike.child found
      rw [Node.seen_of_unstamped Node.isEmptyDirectory_unstamped same] at empty
      refine ⟨_, .removeDirectory inRight empty, ?_⟩
      rw [Tree.unstamped_unbind, Tree.unstamped_unbind, alike.tree, alike.cwd]
  | rename found vacant =>
      obtain ⟨other, inRight, same⟩ := alike.child found
      refine ⟨_, .rename inRight (alike.vacant vacant), ?_⟩
      rw [Tree.unstamped_bind, Tree.unstamped_bind, Tree.unstamped_unbind, Tree.unstamped_unbind,
        alike.tree, alike.cwd, same]
  | copyFile found file vacant =>
      obtain ⟨other, inRight, same⟩ := alike.child found
      rw [Node.seen_of_unstamped Node.isFile_unstamped same] at file
      refine ⟨_, .copyFile inRight file (alike.vacant vacant), ?_⟩
      rw [Tree.unstamped_bind, Tree.unstamped_bind, alike.tree, alike.cwd,
        Node.unstamped_restamp, Node.unstamped_restamp, same]

theorem Node.shortNames_eq {node other : Node} (same : node.unstamped = other.unstamped) :
    node.entries.map Command.Listing.shortName = other.entries.map Command.Listing.shortName := by
  have blind (node : Node) : node.unstamped.entries.map Command.Listing.shortName =
      node.entries.map Command.Listing.shortName := by
    rw [Node.entries_unstamped, List.map_map]
    rfl
  rw [← blind node, same, blind other]

/-- Whether a command answers with nothing but names and contents. -/
def Verb.isPlain (arguments : Arguments) : Verb → Bool
  | .pwd | .cat | .echo => true
  | .ls => !arguments.flags.contains 'l'
  | _ => false

namespace Context.Alike

variable {left right : Context} (alike : left.Alike right) (arguments : Arguments)

include alike

theorem run_writer {verb : Verb} (writes : verb ∈ Verb.writers) :
    (verb.run arguments left).1.code = (verb.run arguments right).1.code ∧
      (verb.run arguments left).2.Alike (verb.run arguments right).2 := by
  rcases Verb.run_cases writes arguments left with ⟨text, refused⟩ | ⟨tree, alters, ran⟩
  · rcases Verb.run_cases writes arguments right with ⟨other, alsoRefused⟩ | ⟨tree, alters, _⟩
    · rw [refused, alsoRefused]
      exact ⟨rfl, alike⟩
    · -- An alteration on the right is one on the left, where the command was refused.
      obtain ⟨other, altersLeft, _⟩ := alters.alike alike.symm
      rw [altersLeft.run] at refused
      cases refused
  · obtain ⟨other, altersRight, same⟩ := alters.alike alike
    rw [ran, altersRight.run]
    exact ⟨rfl, alike.withTree same⟩

theorem concatenate : Command.concatenate arguments left = Command.concatenate arguments right := by
  have same : Command.content arguments left = Command.content arguments right := by
    refine Parallel.eq ((Parallel.refl (Command.one arguments)).bind fun word _ same => ?_)
    subst same
    rw [alike.resolve word]
    refine ((alike.stat _).mapError _).bind fun node other same => ?_
    rw [Node.seen_of_unstamped Node.content?_unstamped same]
    exact Parallel.refl _
  rw [Command.concatenate, Command.concatenate, same]

theorem listing (target : Option String) :
    Parallel (fun first second : Command.Listing => first.short = second.short)
      (Command.listing target left) (Command.listing target right) := by
  cases target with
  | none =>
      have read : Parallel (fun first second => first.map Command.Listing.shortName =
          second.map Command.Listing.shortName) (left.tree.list left.cwd) (right.tree.list left.cwd) :=
        (alike.directory left.cwd).bind fun node other same => .answered (Node.shortNames_eq same)
      rw [Command.listing, Command.listing, ← alike.cwd]
      refine read.bind fun first second same => .answered ?_
      rw [Command.Listing.short, Command.Listing.short, same]
  | some word =>
      rw [Command.listing, Command.listing, ← alike.resolve word]
      refine ((alike.stat (left.resolve word)).bind fun node other same => .answered ?_).mapError _
      rw [Node.seen_of_unstamped Node.isFile_unstamped same]
      split
      · rfl
      · rw [Command.Listing.short, Command.Listing.short, Node.shortNames_eq same]

theorem list :
    (Command.list arguments left).code = (Command.list arguments right).code ∧
      ('l' ∉ arguments.flags → Command.list arguments left = Command.list arguments right) := by
  unfold Command.list
  split
  · exact ⟨rfl, fun _ => rfl⟩
  next stray =>
    have parallel := alike.listing arguments.operands.head?
    simp only
    generalize Command.listing arguments.operands.head? left = first at parallel
    generalize Command.listing arguments.operands.head? right = second at parallel
    cases parallel with
    | failed failure => exact ⟨rfl, fun _ => rfl⟩
    | answered same =>
        refine ⟨rfl, fun short => ?_⟩
        have empty : arguments.flags = [] := by
          refine List.eq_nil_iff_forall_not_mem.mpr fun letter member => ?_
          have own : letter = 'l' := by simpa using List.find?_eq_none.mp stray letter member
          exact short (own ▸ member)
        simp only [empty, List.isEmpty_nil, if_true, same]

theorem changeDirectory :
    (Command.changeDirectory arguments left).1.code =
        (Command.changeDirectory arguments right).1.code ∧
      (Command.changeDirectory arguments left).2.Alike
        (Command.changeDirectory arguments right).2 := by
  have same : Command.destination? arguments.head? left.session =
      Command.destination? arguments.head? right.session := by
    unfold Command.destination?
    split
    · rw [alike.home]
    · rw [alike.previous]
    next word _ _ =>
      exact congrArg (fun path => some (Command.Destination.mk path word false)) (alike.resolve word)
  unfold Command.changeDirectory
  rw [← same]
  cases Command.destination? arguments.head? left.session with
  | none => exact ⟨rfl, alike⟩
  | some destination =>
      have parallel := alike.directory destination.path
      simp only
      generalize left.tree.directory destination.path = first at parallel
      generalize right.tree.directory destination.path = second at parallel
      cases parallel with
      | failed failure => exact ⟨rfl, alike⟩
      | answered _ =>
          exact ⟨rfl, { alike with cwd := rfl, previous := congrArg some alike.cwd }⟩

theorem help_code : (Command.help arguments left).code = (Command.help arguments right).code := by
  unfold Command.help Schema.topic?
  rw [← alike.schemas]
  cases arguments.head? with
  | none => rfl
  | some topic =>
      simp only
      cases Schema.find? left.schemas topic with
      | none => rfl
      | some schema => rfl

theorem runHistory :
    (Command.history arguments left).1.code = (Command.history arguments right).1.code ∧
      (Command.history arguments left).2.Alike (Command.history arguments right).2 := by
  unfold Command.history
  split
  · exact ⟨rfl, { alike with history := rfl }⟩
  next count _ =>
    refine ⟨?_, alike⟩
    rw [Command.showHistory, Command.showHistory, ← alike.history]
    simp only
    split <;> rfl
  · exact ⟨rfl, alike⟩

theorem run (verb : Verb) :
    (verb.run arguments left).1.code = (verb.run arguments right).1.code ∧
      (verb.run arguments left).2.Alike (verb.run arguments right).2 := by
  cases verb with
  | ls => exact ⟨(alike.list arguments).1, alike⟩
  | cd => exact alike.changeDirectory arguments
  | cat => exact ⟨congrArg Outcome.code (alike.concatenate arguments), alike⟩
  | mkdir | rmdir | touch | rm | mv | cp => exact alike.run_writer arguments (by decide)
  | clear => exact ⟨rfl, { alike with clears := congrArg Nat.succ alike.clears }⟩
  | help => exact ⟨alike.help_code arguments, alike⟩
  | history => exact alike.runHistory arguments
  | pwd | whoami | date | echo => exact ⟨rfl, alike⟩

theorem run_plain {verb : Verb} (plain : verb.isPlain arguments) :
    (verb.run arguments left).1 = (verb.run arguments right).1 := by
  cases verb with
  | pwd => exact congrArg (fun path => Outcome.success path.display) alike.cwd
  | cat => exact alike.concatenate arguments
  | echo => rfl
  | ls => exact (alike.list arguments).2 (by simpa [Verb.isPlain] using plain)
  | cd | mkdir | rmdir | touch | rm | mv | cp | whoami | date | clear | help | history =>
      cases plain

theorem record (line : String) :
    Context.Alike { left with session := left.session.record line }
      { right with session := right.session.record line } := by
  have history := alike.history
  by_cases repeats : left.session.history.getLast? = some line
  · have also : right.session.history.getLast? = some line := history ▸ repeats
    rw [Session.record, Session.record, if_pos repeats, if_pos also]
    exact alike
  · have also : ¬ right.session.history.getLast? = some line := history ▸ repeats
    rw [Session.record, Session.record, if_neg repeats, if_neg also]
    have cwd : left.session.cwd = right.session.cwd := alike.cwd
    refine ⟨alike.tree, cwd, alike.previous, alike.home, ?_, alike.schemas, alike.clears⟩
    simp only [history]

theorem settle : left.settle.Alike right.settle := by
  refine { alike with cwd := ?_ }
  have nearest : right.tree.Nearest left.cwd left.settled :=
    left.nearest_settled.of_same fun _ => ⟨alike.isDirectory, alike.symm.isDirectory⟩
  rw [alike.cwd] at nearest
  exact nearest.eq right.nearest_settled

end Context.Alike

namespace Shell

variable {left right : Shell}

theorem alike_dispatch (alike : left.context.Alike right.context) (word : String)
    (arguments : Arguments) :
    (left.dispatch word arguments).1.code = (right.dispatch word arguments).1.code ∧
      (left.dispatch word arguments).2.context.Alike (right.dispatch word arguments).2.context := by
  cases found : Registry.builtins.get? word with
  | none =>
      simp only [dispatch, found]
      exact ⟨trivial, alike⟩
  | some tool =>
      obtain ⟨verb, rfl, rfl⟩ := Registry.verb_of_get?_builtins found
      rw [dispatch_verb, dispatch_verb]
      exact alike.run arguments verb

theorem alike_hear (alike : left.context.Alike right.context) {first second : Typed}
    (same : first.line = second.line) :
    (left.hear first).context.Alike (right.hear second).context := by
  have told : (left.setClock first.now).context.Alike (right.setClock second.now).context :=
    { alike with }
  rw [hear, hear, same]
  exact told.record (Text.trim second.line)

theorem alike_accept (alike : left.context.Alike right.context) {first second : Typed}
    (same : first.line = second.line) :
    (left.accept first).1.code = (right.accept second).1.code ∧
      (left.accept first).2.context.Alike (right.accept second).2.context := by
  cases split : Text.words first.line with
  | nil =>
      rw [accept, accept, execute, execute, ← same, split]
      exact ⟨rfl, { alike with }⟩
  | cons word arguments =>
      rw [left.accept_of_words split, right.accept_of_words (same ▸ split)]
      exact alike_dispatch (alike_hear alike same).settle word arguments

theorem accept_plain (alike : left.context.Alike right.context) {first second : Typed}
    (same : first.line = second.line) {verb : Verb} {arguments : Arguments}
    (spoken : Text.words first.line = verb.name :: arguments) (plain : verb.isPlain arguments) :
    (left.accept first).1 = (right.accept second).1 := by
  rw [left.accept_of_words spoken, right.accept_of_words (same ▸ spoken), dispatch_verb,
    dispatch_verb]
  exact (alike_hear alike same).settle.run_plain arguments plain

theorem alike_acceptAll (alike : left.context.Alike right.context) {lefts rights : List Typed}
    (same : lefts.map Typed.line = rights.map Typed.line) :
    (left.acceptAll lefts).context.Alike (right.acceptAll rights).context := by
  induction lefts generalizing left right rights with
  | nil =>
      rw [List.map_nil, eq_comm, List.map_eq_nil_iff] at same
      rw [same]
      exact alike
  | cons first rest ih =>
      obtain ⟨second, others, rfl, line, lines⟩ := List.map_eq_cons_iff.mp same.symm
      exact ih (alike_accept alike line.symm).2 lines.symm

theorem alike_boot {left right : Config} (home : left.home = right.home) (cwd : left.cwd = right.cwd)
    (seed : left.seed = right.seed) (now later : Instant) :
    (boot left now).context.Alike (boot right later).context := by
  constructor
  · simp only [boot, seed]
    split
    · exact Tutorial.unstamped_tree now.stamp later.stamp
    · rw [Tree.unstamped_new, Tree.unstamped_new]
  · exact congrArg Path.parse cwd
  · rfl
  · exact congrArg Path.parse home
  · rfl
  · rfl
  · rfl

theorem exists_start_iff {config : Config} {now : Instant} :
    (∃ shell, start config now = .ok shell) ↔
      Path.isAbsolute config.cwd ∧ Path.isAbsolute config.home ∧
        (boot config now).tree.IsDirectory (boot config now).cwd := by
  simp only [start_eq_ok_iff]
  constructor
  · rintro ⟨shell, cwd, home, directory, -⟩
    exact ⟨cwd, home, directory⟩
  · rintro ⟨cwd, home, directory⟩
    exact ⟨_, cwd, home, directory, rfl⟩

theorem starts_alike {left right : Config} (home : left.home = right.home)
    (cwd : left.cwd = right.cwd) (seed : left.seed = right.seed) (now later : Instant)
    (starts : ∃ shell, start left now = .ok shell) : ∃ shell, start right later = .ok shell := by
  obtain ⟨absolute, homeAbsolute, directory⟩ := exists_start_iff.mp starts
  have alike := alike_boot home cwd seed now later
  have place : (boot left now).cwd = (boot right later).cwd := alike.cwd
  rw [place] at directory
  exact exists_start_iff.mpr ⟨cwd ▸ absolute, home ▸ homeAbsolute, alike.isDirectory directory⟩

/-- Who uses a shell, what ends its lines and what time it is there make no difference: not to whether
it starts, and after any lines not to its tree but for the stamps, to its locations, its history and
its cleared screens, nor to how the next line ends. A plain answer is the same to the letter. -/
theorem identity_and_time_make_no_difference {left right : Config} (home : left.home = right.home)
    (cwd : left.cwd = right.cwd) (seed : left.seed = right.seed) (now later : Instant) :
    ((∃ shell, start left now = .ok shell) ↔ ∃ shell, start right later = .ok shell) ∧
      ∀ first second, start left now = .ok first → start right later = .ok second →
        ∀ lefts rights : List Typed, lefts.map Typed.line = rights.map Typed.line →
          (first.acceptAll lefts).context.Alike (second.acceptAll rights).context ∧
            ∀ next other : Typed, next.line = other.line →
              ((first.acceptAll lefts).accept next).1.code =
                ((second.acceptAll rights).accept other).1.code ∧
              ∀ verb arguments, Text.words next.line = Verb.name verb :: arguments →
                verb.isPlain arguments →
                ((first.acceptAll lefts).accept next).1 =
                  ((second.acceptAll rights).accept other).1 := by
  constructor
  · constructor
    · exact starts_alike home cwd seed now later
    · exact starts_alike home.symm cwd.symm seed.symm later now
  · intro first second startedLeft startedRight lefts rights same
    obtain ⟨-, -, -, rfl⟩ := start_eq_ok_iff.mp startedLeft
    obtain ⟨-, -, -, rfl⟩ := start_eq_ok_iff.mp startedRight
    have alike := alike_acceptAll (alike_boot home cwd seed now later) same
    refine ⟨alike, fun next other sameLine => ⟨(alike_accept alike sameLine).1, ?_⟩⟩
    intro verb arguments spoken plain
    exact accept_plain alike sameLine spoken plain

theorem identity_and_time_make_no_difference_guest :
    Config.terminal.home = ({ user := "guest" } : Config).home ∧
      Config.terminal.cwd = ({ user := "guest" } : Config).cwd ∧
      Config.terminal.seed = ({ user := "guest" } : Config).seed ∧
      ∃ later : Instant, later.stamp ≠ Instant.epoch.stamp ∧
        ((boot .terminal .epoch).acceptAll [⟨.epoch, "cp README.txt copy"⟩]).context.Alike
          ((boot { user := "guest" } later).acceptAll [⟨later, "cp README.txt copy"⟩]).context ∧
        (((boot .terminal .epoch).acceptAll [⟨.epoch, "cp README.txt copy"⟩]).accept
            ⟨.epoch, "ls"⟩).1 =
          (((boot { user := "guest" } later).acceptAll [⟨later, "cp README.txt copy"⟩]).accept
            ⟨.epoch, "ls"⟩).1 := by
  have home : Config.terminal.home = ({ user := "guest" } : Config).home := rfl
  have cwd : Config.terminal.cwd = ({ user := "guest" } : Config).cwd := rfl
  have seed : Config.terminal.seed = ({ user := "guest" } : Config).seed := rfl
  obtain ⟨later, differs⟩ : ∃ later : Instant, later.stamp ≠ Instant.epoch.stamp :=
    ⟨⟨2024, 2, 29, 12, 0, 0, by decide, by decide, by decide⟩, by decide⟩
  have started : start { user := "guest" } later = .ok (boot { user := "guest" } later) := rfl
  obtain ⟨-, runs⟩ := identity_and_time_make_no_difference home cwd seed .epoch later
  obtain ⟨alike, answers⟩ := runs _ _ (start_terminal .epoch) started
    [⟨.epoch, "cp README.txt copy"⟩] [⟨later, "cp README.txt copy"⟩] rfl
  obtain ⟨-, plain⟩ := answers ⟨.epoch, "ls"⟩ ⟨.epoch, "ls"⟩ rfl
  exact ⟨home, cwd, seed, later, differs, alike, plain .ls [] (by decide) rfl⟩

end Shell

end TeachingShell
