import TeachingShell.Proofs.Footprint
import TeachingShell.Proofs.Resolving
import TeachingShell.Proofs.Undoing

/-!
Where a session can be. From a plain home no line leads to a path that is not plain, so what `pwd`
prints is a word for the same place.
-/

namespace TeachingShell

structure Session.Plain (session : Session) : Prop where
  cwd : session.cwd.Plain
  home : session.home.Plain
  previous : ∀ path, session.previous = some path → path.Plain

namespace Session.Plain

variable {session : Session}

theorem of_same {other : Session} (plain : session.Plain) (cwd : other.cwd = session.cwd)
    (home : other.home = session.home) (previous : other.previous = session.previous) :
    other.Plain := by
  refine ⟨?_, ?_, ?_⟩
  · rw [cwd]
    exact plain.cwd
  · rw [home]
    exact plain.home
  · rw [previous]
    exact plain.previous

theorem record (plain : session.Plain) (line : String) : (session.record line).Plain := by
  refine plain.of_same (session.cwd_record line) (session.home_record line) ?_
  unfold Session.record
  split
  · rfl
  · rfl

theorem enter (plain : session.Plain) {path : Path} (own : path.Plain) :
    (session.enter path).Plain := by
  refine ⟨own, plain.home, ?_⟩
  intro previous same
  obtain rfl := Option.some.inj same
  exact plain.cwd

theorem destination (plain : session.Plain) {word : Option String}
    {destination : Command.Destination}
    (known : Command.destination? word session = some destination) : destination.path.Plain := by
  unfold Command.destination? at known
  split at known
  next home =>
    obtain rfl := Option.some.inj known
    exact plain.home
  next back =>
    obtain ⟨path, remembered, rfl⟩ := Option.map_eq_some_iff.mp known
    exact plain.previous path remembered
  next target _ =>
    obtain rfl := Option.some.inj known
    exact Path.plain_resolve plain.home plain.cwd target

end Session.Plain

theorem Verb.plain_run {context : Context} (plain : context.session.Plain) (verb : Verb)
    (arguments : Arguments) : (verb.run arguments context).2.session.Plain := by
  by_cases moves : verb = .cd
  · subst moves
    rcases Command.changeDirectory_cases arguments context with
      ⟨text, refused⟩ | ⟨destination, known, -, entered⟩
    · rw [Verb.run, refused]
      exact plain
    · rw [Verb.run, entered]
      exact plain.enter (plain.destination known)
  · have stays : verb.name ≠ "cd" := by
      intro same
      exact moves (Verb.name_injective (show verb.name = Verb.cd.name from same))
    have kept := verb.footprint_run arguments context
    exact plain.of_same (kept.cwd stays) kept.home (kept.previous stays)

theorem Context.plain_settle {context : Context} (plain : context.session.Plain) :
    context.settle.session.Plain :=
  ⟨plain.cwd.above context.nearest_settled.onTheWay, plain.home, plain.previous⟩

namespace Shell

theorem plain_dispatch {shell : Shell} (plain : shell.session.Plain) (word : String)
    (arguments : Arguments) : (shell.dispatch word arguments).2.session.Plain := by
  rcases shell.dispatch_word word arguments with ⟨-, unknown⟩ | ⟨verb, rfl, ran⟩
  · rw [unknown]
    exact plain
  · rw [ran]
    exact verb.plain_run plain arguments

/-- Not even a host can lead a session to a path that is not plain. -/
theorem plain_after {shell : Shell} (plain : shell.session.Plain) (step : Step) :
    (shell.after step).session.Plain := by
  cases step with
  | execute line =>
      rcases shell.execute_cases line with ⟨-, blank⟩ | ⟨verb, arguments, -, dispatched⟩
      · rw [after, blank]
        exact plain
      · rw [after, dispatched]
        have settled : ((shell.record (Text.trim line)).settle).session.Plain :=
          Context.plain_settle (plain.record (Text.trim line))
        exact plain_dispatch settled verb arguments
  | dispatch word arguments => exact plain_dispatch plain word arguments
  | change change => exact plain
  | wait now => exact plain

theorem plain_acceptAll {shell : Shell} (plain : shell.session.Plain) (lines : List Typed) :
    (shell.acceptAll lines).session.Plain := by
  rw [acceptAll_eq_run]
  have kept : ∀ shell : Shell, ∀ step, True → shell.session.Plain →
      (shell.after step).session.Plain := fun _ step _ plain => plain_after plain step
  exact run_preserves kept plain fun _ _ => trivial

/-- The first location is read without a look at its markers, but none is the name of a directory
that is there at the start. -/
theorem plain_of_start {config : Config} {now : Instant} {shell : Shell}
    (started : start config now = .ok shell) (plainHome : shell.session.home.Plain) :
    shell.session.Plain := by
  obtain ⟨-, -, directory, rfl⟩ := start_eq_ok_iff.mp started
  refine ⟨?_, plainHome, nofun⟩
  have literal : (boot config now).tree.Throughout fun name _ => name ∉ Path.markers := by
    refine throughout_boot fun _ => Tutorial.throughout_tree (by decide) ?_
    intro name member _ _ _
    revert name
    decide
  obtain ⟨node, found, -⟩ := directory
  intro name member
  obtain ⟨_, own⟩ := literal.of_mem_segments found member
  exact ⟨Path.isPiece_of_mem_pieces member, own⟩

theorem Located.tell_pwd {shell : Shell} (located : shell.Located) (now : Instant) :
    shell.tell now ["pwd"] = (.success shell.cwd.display, shell.hear (.spoken now ["pwd"])) := by
  have spoken : Text.words (Typed.spoken now ["pwd"]).line = Verb.pwd.name :: [] :=
    Typed.words_spoken (by decide) now
  rw [tell, located.accept spoken, Verb.run, Command.printDirectory, context_cwd_hear]

end Shell

theorem Path.isWord_display {path : Path}
    (visible : ∀ c ∈ path.display.toList, Text.isBlank c = false) : Text.IsWord path.display :=
  ⟨display_ne rfl path, visible⟩

theorem Command.changeDirectory_display {context : Context} {path : Path} (plain : path.Plain)
    (directory : context.tree.IsDirectory path) :
    changeDirectory [path.display] context =
      (.silent, { context with session := context.session.enter path }) := by
  have notBack : path.display ≠ "-" := Path.display_ne rfl path
  have same : context.resolve path.display = path :=
    Path.resolve_display plain context.cwd context.session.home
  rw [changeDirectory_word notBack (same.symm ▸ directory), same]

namespace Shell

theorem dispatch_cd_display {shell : Shell} {path : Path} (plain : path.Plain)
    (directory : shell.tree.IsDirectory path) :
    shell.dispatch "cd" [path.display] = (.silent, shell.enter path) :=
  dispatch_of_run .cd (Command.changeDirectory_display plain directory)

theorem Located.tell_cd_display {shell : Shell} (located : shell.Located) {path : Path}
    (plain : path.Plain) (directory : shell.tree.IsDirectory path)
    (visible : ∀ c ∈ path.display.toList, Text.isBlank c = false) (now : Instant) :
    shell.tell now ["cd", path.display] =
      (.silent, (shell.hear (.spoken now ["cd", path.display])).enter path) := by
  have isWord : ∀ word ∈ ["cd", path.display], Text.IsWord word := by
    intro word member
    rcases List.mem_cons.mp member with rfl | member
    · decide
    · rw [List.mem_singleton.mp member]
      exact Path.isWord_display visible
  have there : (shell.hear (.spoken now ["cd", path.display])).tree.IsDirectory path := directory
  rw [tell, located.accept_eq_dispatch (Typed.words_spoken isWord now),
    dispatch_cd_display plain there]

/-- From plain places targets lead to plain places, and each of those is found under its own text
from everywhere. So a shell with a plain home is never in another place after any lines, and `cd` to
what `pwd` prints stays there, as a call and, if nothing in it is blank, as a line. -/
theorem printed_location_leads_back :
    (∀ (target : String) (location home : Path), location.Plain → home.Plain →
        (Path.resolve target location home).Plain ∧
          ∀ elsewhere otherHome,
            Path.resolve (Path.resolve target location home).display elsewhere otherHome =
              Path.resolve target location home) ∧
      ∀ (config : Config) (now : Instant) (first : Shell), start config now = .ok first →
        first.session.home.Plain → ∀ lines : List Typed,
          let shell := first.acceptAll lines
          shell.cwd.Plain ∧ ∀ asked later : Instant,
            let printed := (shell.tell asked ["pwd"]).1.out
            let next := (shell.tell asked ["pwd"]).2
            (shell.tell asked ["pwd"]).1 = .success shell.cwd.display ∧
              (next.dispatch "cd" [printed]).1 = .silent ∧
              (next.dispatch "cd" [printed]).2.cwd = shell.cwd ∧
              ((∀ c ∈ printed.toList, Text.isBlank c = false) →
                (next.tell later ["cd", printed]).1 = .silent ∧
                  (next.tell later ["cd", printed]).2.cwd = shell.cwd) := by
  constructor
  · intro target location home plain plainHome
    have reached := Path.plain_resolve plainHome plain target
    exact ⟨reached, Path.resolve_display reached⟩
  · intro config now first started plainHome lines shell
    have plain : shell.cwd.Plain := (plain_acceptAll (plain_of_start started plainHome) lines).cwd
    have located : shell.Located := (located_of_start started).acceptAll lines
    refine ⟨plain, ?_⟩
    intro asked later
    have here : (shell.hear (.spoken asked ["pwd"])).Located := located.hear _
    have called : (shell.hear (.spoken asked ["pwd"])).dispatch "cd" [shell.cwd.display] =
        (.silent, (shell.hear (.spoken asked ["pwd"])).enter shell.cwd) :=
      dispatch_cd_display plain located
    rw [located.tell_pwd asked]
    refine ⟨rfl, congrArg Prod.fst called, congrArg (fun ran => ran.2.cwd) called, ?_⟩
    intro visible
    have typed := here.tell_cd_display plain located visible later
    exact ⟨congrArg Prod.fst typed, congrArg (fun ran => ran.2.cwd) typed⟩

theorem printed_location_leads_back_terminal :
    let shell := (boot .terminal .epoch).acceptAll [⟨.epoch, "cd ./~/projects//my_blog/"⟩]
    Path.defaultHome.Plain ∧
      Path.resolve (Path.resolve "a/~/./b" .defaultHome .defaultHome).display .root .root =
        ⟨["home", "user", "b"]⟩ ∧
      start .terminal .epoch = .ok (boot .terminal .epoch) ∧
      (boot .terminal .epoch).session.home.Plain ∧ shell.cwd.Plain ∧
      (∀ c ∈ (shell.tell .epoch ["pwd"]).1.out.toList, Text.isBlank c = false) ∧
      ((shell.tell .epoch ["pwd"]).2.tell .epoch
        ["cd", (shell.tell .epoch ["pwd"]).1.out]).2.cwd = shell.cwd := by
  intro shell
  obtain ⟨fixed, leadsBack⟩ := printed_location_leads_back
  have started := start_terminal .epoch
  have plainHome : (boot .terminal .epoch).session.home.Plain := by decide
  have plain : Path.defaultHome.Plain := by decide
  obtain ⟨-, same⟩ := fixed "a/~/./b" .defaultHome .defaultHome plain plain
  obtain ⟨stays, back⟩ := leadsBack .terminal .epoch _ started plainHome
    [⟨.epoch, "cd ./~/projects//my_blog/"⟩]
  obtain ⟨told, -, -, typed⟩ := back .epoch .epoch
  have place : shell.cwd = ⟨["home", "user", "projects", "my_blog"]⟩ := by decide +kernel
  have printed : (shell.tell .epoch ["pwd"]).1.out = "/home/user/projects/my_blog" := by
    rw [told]
    exact congrArg Path.display place
  have isWord : Text.IsWord "/home/user/projects/my_blog" := by decide
  have visible : ∀ c ∈ (shell.tell .epoch ["pwd"]).1.out.toList, Text.isBlank c = false := by
    rw [printed]
    exact isWord.unbroken
  exact ⟨plain, (same .root .root).trans (by decide), started, plainHome, stays, visible,
    (typed visible).2⟩

end Shell

end TeachingShell
