import TeachingShell.Proofs.Effects
import TeachingShell.Proofs.Lookups

/-!
What the commands that write look at. Trees that agree on a directory and on some names in it give a
command on those names the same answer, and agree on them afterwards.
-/

namespace TeachingShell

inductive Parallel {α β : Type} (related : α → β → Prop) :
    Except Failure α → Except Failure β → Prop
  | failed (failure : Failure) : Parallel related (.error failure) (.error failure)
  | answered {left : α} {right : β} : related left right → Parallel related (.ok left) (.ok right)

namespace Parallel

variable {α β γ δ : Type} {related : α → β → Prop} {further : γ → δ → Prop}
  {left : Except Failure α} {right : Except Failure β}

theorem refl (result : Except Failure α) : Parallel (· = ·) result result := by
  cases result with
  | error failure => exact .failed failure
  | ok answer => exact .answered rfl

theorem bind (parallel : Parallel related left right) {onward : α → Except Failure γ}
    {other : β → Except Failure δ}
    (next : ∀ first second, related first second → Parallel further (onward first) (other second)) :
    Parallel further (left >>= onward) (right >>= other) := by
  cases parallel with
  | failed failure => exact .failed failure
  | answered same => exact next _ _ same

theorem mapError (parallel : Parallel related left right) (change : Failure → Failure) :
    Parallel related (left.mapError change) (right.mapError change) := by
  cases parallel with
  | failed failure => exact .failed (change failure)
  | answered same => exact .answered same

theorem eq {left right : Except Failure α} (parallel : Parallel (· = ·) left right) :
    left = right := by
  cases parallel with
  | failed failure => rfl
  | answered same => rw [same]

theorem known (parallel : Parallel related left right) :
    Parallel (fun first second => left = .ok first ∧ related first second) left right := by
  cases parallel with
  | failed failure => exact .failed failure
  | answered same => exact .answered ⟨rfl, same⟩

end Parallel

namespace Tree

/-- Two trees agree on whether there is a directory, and on what some names in it stand for. -/
structure Agree (location : Path) (names : List String) (left right : Tree) : Prop where
  kind : (left.lookup? location).map Node.kind = (right.lookup? location).map Node.kind
  child : ∀ name ∈ names, left.lookup? (location.join name) = right.lookup? (location.join name)

namespace Agree

variable {location : Path} {names : List String} {left right : Tree}

theorem stat (agree : Agree location names left right) :
    Parallel (fun first second => first.kind = second.kind ∧
        ∀ name ∈ names, first.child? name = second.child? name)
      (left.stat location) (right.stat location) := by
  have kind := agree.kind
  have child := agree.child
  simp only [Tree.stat, lookup?_join] at *
  cases inLeft : left.lookup? location with
  | none =>
      cases inRight : right.lookup? location with
      | none => exact .failed _
      | some node => simp [inLeft, inRight] at kind
  | some node =>
      cases inRight : right.lookup? location with
      | none => simp [inLeft, inRight] at kind
      | some other =>
          simp only [inLeft, inRight, Option.map_some, Option.some.injEq] at kind
          simp only [inLeft, inRight, Option.bind_some] at child
          exact .answered ⟨kind, child⟩

theorem directory (agree : Agree location names left right) :
    Parallel (fun first second => ∀ name ∈ names, first.child? name = second.child? name)
      (left.directory location) (right.directory location) := by
  refine agree.stat.bind fun first second same => ?_
  obtain ⟨kind, child⟩ := same
  have sameDirectory : first.isDirectory = second.isDirectory := by
    rw [Node.isDirectory, Node.isDirectory, kind]
  rw [sameDirectory]
  cases second.isDirectory with
  | true => exact .answered child
  | false => exact .failed _

theorem isDirectory_iff (agree : Agree location names left right) :
    left.IsDirectory location ↔ right.IsDirectory location := by
  rw [isDirectory_iff_kind, isDirectory_iff_kind, agree.kind]

theorem of_confined {afterLeft afterRight : Tree} (agree : Agree location names left right)
    (toLeft : Confined location names left afterLeft)
    (toRight : Confined location names right afterRight)
    (child : ∀ name ∈ names,
      afterLeft.lookup? (location.join name) = afterRight.lookup? (location.join name)) :
    Agree location names afterLeft afterRight :=
  ⟨by rw [toLeft.kind, toRight.kind, agree.kind], child⟩

theorem bind (agree : Agree location names left right) (directory : left.IsDirectory location)
    {name : String} (member : name ∈ names) (node : Node) :
    Agree location names (left.bind location name node) (right.bind location name node) := by
  refine agree.of_confined (confined_bind member _ _ _) (confined_bind member _ _ _) ?_
  intro other named
  rw [lookup?_bind_join directory, lookup?_bind_join (agree.isDirectory_iff.mp directory),
    agree.child other named]

theorem unbind (agree : Agree location names left right) {name : String} (member : name ∈ names) :
    Agree location names (left.unbind location name) (right.unbind location name) := by
  refine agree.of_confined (confined_unbind member _ _) (confined_unbind member _ _) ?_
  intro other named
  rw [lookup?_unbind_join, lookup?_unbind_join, agree.child other named]

theorem restamp (agree : Agree location names left right) {name : String} (member : name ∈ names)
    (stamp : String) :
    Agree location names (left.restamp (location.join name) stamp)
      (right.restamp (location.join name) stamp) := by
  refine agree.of_confined (confined_edit member _ _ _) (confined_edit member _ _ _) ?_
  intro other named
  rw [Tree.restamp, Tree.restamp, lookup?_edit_join, lookup?_edit_join, agree.child other named]

theorem insert (agree : Agree location names left right) {name : String} (member : name ∈ names)
    (node : Node) :
    Parallel (Agree location names) (left.insert location name node)
      (right.insert location name node) := by
  refine (Parallel.refl (checkName name)).bind fun _ _ _ => ?_
  refine agree.directory.known.bind fun first second ⟨answered, same⟩ => ?_
  rw [same name member]
  cases second.child? name with
  | some taken => exact .failed _
  | none => exact .answered (agree.bind (Tree.isDirectory_iff.mpr ⟨first, answered⟩) member node)

theorem remove (agree : Agree location names left right) {name : String} (member : name ∈ names) :
    Parallel (fun first second => first.1 = second.1 ∧ Agree location names first.2 second.2)
      (left.remove location name) (right.remove location name) := by
  refine agree.directory.bind fun first second same => ?_
  rw [same name member]
  cases second.child? name with
  | some node => exact .answered ⟨rfl, agree.unbind member⟩
  | none => exact .failed _

theorem checkMove (agree : Agree location names left right) {source destination : String}
    (sourceNamed : source ∈ names) (destinationNamed : destination ∈ names) :
    left.checkMove (location.join source) (location.join destination) location destination =
      right.checkMove (location.join source) (location.join destination) location destination := by
  have sameSource : left.stat (location.join source) = right.stat (location.join source) := by
    rw [Tree.stat, Tree.stat, agree.child source sourceNamed]
  refine Parallel.eq ?_
  unfold Tree.checkMove
  rw [sameSource, agree.child destination destinationNamed]
  refine (Parallel.refl _).bind fun _ _ _ => ?_
  refine (Parallel.refl _).bind fun _ _ _ => ?_
  split
  · exact .failed _
  · split
    · exact .failed _
    · exact agree.directory.bind fun _ _ _ => .answered rfl

theorem relocate (agree : Agree location names left right) {source destination : String}
    (sourceNamed : source ∈ names) (destinationNamed : destination ∈ names) :
    (left.relocate (location.join source) (location.join destination)).1 =
        (right.relocate (location.join source) (location.join destination)).1 ∧
      Agree location names (left.relocate (location.join source) (location.join destination)).2
        (right.relocate (location.join source) (location.join destination)).2 := by
  have checks := agree.checkMove sourceNamed destinationNamed
  cases checked : left.checkMove (location.join source) (location.join destination) location
      destination with
  | error failure =>
      rw [checked] at checks
      simp only [Tree.relocate, Path.split?_join, checked, ← checks]
      exact ⟨trivial, agree⟩
  | ok =>
      rw [checked] at checks
      obtain ⟨node, movable⟩ := checkMove_eq_ok_iff.mp checked
      obtain ⟨other, alsoMovable⟩ := checkMove_eq_ok_iff.mp checks.symm
      obtain rfl : node = other := by
        have found := agree.child source sourceNamed
        rwa [movable.found, alsoMovable.found, Option.some.injEq] at found
      rw [movable.relocate, alsoMovable.relocate]
      exact ⟨rfl, (agree.unbind sourceNamed).bind movable.isDirectory_unbind destinationNamed node⟩

end Agree

end Tree

namespace Command

variable {context : Context} {tree : Tree} {arguments : Arguments}

section

variable (agree : Tree.Agree context.cwd arguments context.tree tree)

include agree

theorem parallel_makeDirectory :
    Parallel (Tree.Agree context.cwd arguments) (makeDirectory arguments context)
      (makeDirectory arguments { context with tree := tree }) := by
  cases arguments with
  | nil => exact .failed _
  | cons name rest => exact (agree.insert List.mem_cons_self _).mapError _

theorem parallel_child {name : String} (member : name ∈ arguments) :
    Parallel (· = ·) (child name context) (child name { context with tree := tree }) := by
  refine agree.directory.bind fun first second same => ?_
  rw [same name member]
  exact Parallel.refl _

theorem parallel_removeChild {name : String} (member : name ∈ arguments) :
    Parallel (Tree.Agree context.cwd arguments) (removeChild name context)
      (removeChild name { context with tree := tree }) :=
  (agree.remove member).bind fun _ _ same => .answered same.2

theorem parallel_touch :
    Parallel (Tree.Agree context.cwd arguments) (touch arguments context)
      (touch arguments { context with tree := tree }) := by
  cases arguments with
  | nil => exact .failed _
  | cons name rest =>
      have member : name ∈ name :: rest := List.mem_cons_self
      refine ((Parallel.refl (one (name :: rest))).known).bind fun word _ ⟨taken, same⟩ => ?_
      cases taken
      subst same
      have child := agree.child name member
      simp only [Context.cwd] at child ⊢
      rw [← child]
      cases context.tree.lookup? (context.session.cwd.join name) with
      | none => exact (agree.insert member _).mapError _
      | some node =>
          simp only
          split
          · exact .failed _
          · exact .answered (agree.restamp member _)

theorem parallel_removeFile :
    Parallel (Tree.Agree context.cwd arguments) (removeFile arguments context)
      (removeFile arguments { context with tree := tree }) := by
  cases arguments with
  | nil => exact .failed _
  | cons name rest =>
      have member : name ∈ name :: rest := List.mem_cons_self
      refine (parallel_child agree member).bind fun node _ same => ?_
      subst same
      split
      · exact .failed _
      · exact parallel_removeChild agree member

theorem parallel_removeDirectory :
    Parallel (Tree.Agree context.cwd arguments) (removeDirectory arguments context)
      (removeDirectory arguments { context with tree := tree }) := by
  cases arguments with
  | nil => exact .failed _
  | cons name rest =>
      have member : name ∈ name :: rest := List.mem_cons_self
      refine (parallel_child agree member).bind fun node _ same => ?_
      subst same
      split
      · exact .failed _
      · split
        · exact .failed _
        · exact parallel_removeChild agree member

theorem parallel_copy :
    Parallel (Tree.Agree context.cwd arguments) (copy arguments context)
      (copy arguments { context with tree := tree }) := by
  unfold copy
  cases words : two arguments with
  | error failure => exact .failed failure
  | ok pair =>
      obtain ⟨source, destination⟩ := pair
      obtain rfl := two_eq_ok_iff.mp words
      refine (parallel_child agree List.mem_cons_self).bind fun node _ same => ?_
      subst same
      split
      · exact .failed _
      · exact (agree.insert (List.mem_cons_of_mem _ List.mem_cons_self) _).mapError _

theorem parallel_move :
    (move arguments context).1 = (move arguments { context with tree := tree }).1 ∧
      Tree.Agree context.cwd arguments (move arguments context).2
        (move arguments { context with tree := tree }).2 := by
  unfold move
  cases words : two arguments with
  | error failure => exact ⟨rfl, agree⟩
  | ok pair =>
      obtain ⟨source, destination⟩ := pair
      obtain rfl := two_eq_ok_iff.mp words
      obtain ⟨answer, after⟩ :=
        agree.relocate List.mem_cons_self (List.mem_cons_of_mem source List.mem_cons_self)
      exact ⟨congrArg (namingEither source destination) answer, after⟩

theorem agree_commit {left right : Except Failure Tree} (report : Failure → String)
    (parallel : Parallel (Tree.Agree context.cwd arguments) left right) :
    (commit { context with tree := tree } report right).1 = (commit context report left).1 ∧
      Tree.Agree context.cwd arguments (commit context report left).2.tree
        (commit { context with tree := tree } report right).2.tree := by
  cases parallel with
  | failed failure => exact ⟨rfl, agree⟩
  | answered after => exact ⟨rfl, after⟩

end

theorem agree_keep {left right : Except Failure Unit × Tree} (report : Failure → String)
    (answer : left.1 = right.1) (after : Tree.Agree context.cwd arguments left.2 right.2) :
    (keep { context with tree := tree } report right).1 = (keep context report left).1 ∧
      Tree.Agree context.cwd arguments (keep context report left).2.tree
        (keep { context with tree := tree } report right).2.tree := by
  obtain ⟨leftAnswer, leftTree⟩ := left
  obtain ⟨rightAnswer, rightTree⟩ := right
  subst answer
  cases leftAnswer with
  | error failure => exact ⟨rfl, after⟩
  | ok => exact ⟨rfl, after⟩

end Command

/-- What a command that writes answers, and what it makes of its operands, depends on nothing but
the current directory and the operands in it. -/
theorem Verb.run_agree {context : Context} {tree : Tree} {arguments : Arguments} {verb : Verb}
    (writes : verb ∈ writers) (agree : Tree.Agree context.cwd arguments context.tree tree) :
    (verb.run arguments { context with tree := tree }).1 = (verb.run arguments context).1 ∧
      Tree.Agree context.cwd arguments (verb.run arguments context).2.tree
        (verb.run arguments { context with tree := tree }).2.tree := by
  cases verb with
  | mkdir => exact Command.agree_commit agree _ (Command.parallel_makeDirectory agree)
  | rmdir => exact Command.agree_commit agree _ (Command.parallel_removeDirectory agree)
  | touch => exact Command.agree_commit agree _ (Command.parallel_touch agree)
  | rm => exact Command.agree_commit agree _ (Command.parallel_removeFile agree)
  | cp => exact Command.agree_commit agree _ (Command.parallel_copy agree)
  | mv =>
      obtain ⟨answer, after⟩ := Command.parallel_move agree
      exact Command.agree_keep (Command.moveReport context.newline) answer after
  | ls | cd | pwd | cat | whoami | date | clear | help | echo | history =>
      simp [writers] at writes

end TeachingShell
