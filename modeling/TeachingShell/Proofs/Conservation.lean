import Mathlib.Algebra.Group.Nat.Defs
import Mathlib.Algebra.Group.Prod
import TeachingShell.Proofs.Census
import TeachingShell.Proofs.Effects

/-!
What commands do to the contents of all files and to the number of directories. Nothing is written
over, nothing is dropped with a directory, and a node that moves arrives.
-/

namespace TeachingShell

variable {M : Type} [AddCancelCommMonoid M] (weight : Attributes → Option String → M)

namespace Node

theorem total_of_content? {node : Node} {content : String} (holds : node.content? = some content) :
    node.total weight = weight node.attributes (some content) := by
  cases node with
  | file attributes own =>
      cases holds
      rfl
  | directory => cases holds

theorem total_of_isEmptyDirectory {node : Node} (empty : node.isEmptyDirectory) :
    node.total weight = weight node.attributes none := by
  cases node with
  | file => cases empty
  | directory attributes names child =>
      have noChildren : names.toList = [] := List.isEmpty_iff.mp empty
      have noSum : ((directory attributes names child).children.map (·.2.total weight)).sum = 0 := by
        simp [children, noChildren]
      rw [total_eq, noSum, add_zero]
      rfl

theorem exists_content {node : Node} (file : node.isFile) :
    ∃ content, node.content? = some content := by
  cases node with
  | file attributes content => exact ⟨content, rfl⟩
  | directory => cases file

end Node

namespace Tree

theorem total_bind {tree : Tree} {parent : Path} {name : String}
    (directory : tree.IsDirectory parent) (free : tree.lookup? (parent.join name) = none)
    (node : Node) :
    (tree.bind parent name node).root.total weight =
      tree.root.total weight + node.total weight := by
  obtain ⟨found, here, holds⟩ := directory
  rw [lookup?_join_of_directory here] at free
  have changed := Node.total_update weight (·.bind name node) here
  rw [Node.total_bind weight holds free, ← add_assoc] at changed
  exact add_right_cancel changed

theorem total_unbind {tree : Tree} {parent : Path} {name : String} {node : Node}
    (found : tree.lookup? (parent.join name) = some node) :
    tree.root.total weight = (tree.unbind parent name).root.total weight + node.total weight := by
  obtain ⟨directory, answered, child⟩ := directory_of_lookup?_join found
  have here := (directory_eq_ok_iff.mp answered).1
  have changed := Node.total_update weight (·.unbind name) here
  rw [Node.total_unbind weight child, ← add_assoc] at changed
  exact (add_right_cancel changed).symm

theorem total_edit {tree : Tree} {path : Path} {node : Node}
    (found : tree.lookup? path = some node) {change : Attributes → Attributes}
    (blind : (node.edit change).total weight = node.total weight) :
    (tree.edit path change).root.total weight = tree.root.total weight := by
  have changed := Node.total_update weight (·.edit change) found
  rw [blind] at changed
  exact add_right_cancel changed

theorem Movable.total {tree : Tree} {oldParent parent : Path} {oldName name : String} {node : Node}
    (movable : tree.Movable oldParent oldName parent name node) :
    ((tree.unbind oldParent oldName).bind parent name node).root.total weight =
      tree.root.total weight := by
  rw [total_bind weight movable.isDirectory_unbind movable.lookup?_unbind,
    total_unbind weight movable.found]

/-- The contents of all files and the number of directories, the root included. -/
def holdings (tree : Tree) : Multiset String × Nat :=
  (tree.survey.filterMap fun entry => entry.2.content?,
    tree.survey.countP fun entry => entry.2.isDirectory)

def shown (tree : Tree) : Multiset Attributes := tree.survey.map fun entry => entry.2.attributes

def holding (_ : Attributes) : Option String → Multiset String × Nat
  | some content => ({content}, 0)
  | none => (0, 1)

theorem holdings_eq_total (tree : Tree) : tree.holdings = tree.root.total holding := by
  rw [holdings, ← Node.sum_survey holding tree.root .root, survey]
  induction tree.root.survey .root with
  | nil => rfl
  | cons entry rest ih =>
      obtain ⟨path, node⟩ := entry
      rw [List.map_cons, List.sum_cons, ← ih]
      cases node with
      | file attributes content =>
          simp [holding, Node.content?, Node.isDirectory, Node.kind]
      | directory attributes names child =>
          simp [holding, Node.content?, Node.isDirectory, Node.kind, Nat.add_comm]

theorem shown_eq_total (tree : Tree) :
    tree.shown = tree.root.total fun attributes _ => ({attributes} : Multiset Attributes) := by
  rw [shown, ← Node.sum_survey _ tree.root .root, survey]
  induction tree.root.survey .root with
  | nil => rfl
  | cons entry rest ih =>
      simp only [List.map_cons, List.sum_cons, ← ih]
      rfl

end Tree

/-- What a command that succeeds adds to the holdings of a tree, or takes from them. -/
def Verb.Balances (verb : Verb) (arguments : Arguments) (cwd : Path) (before after : Tree) : Prop :=
  match verb with
  | .rm => ∃ name rest node content, arguments = name :: rest ∧
      before.lookup? (cwd.join name) = some node ∧ node.content? = some content ∧
      before.holdings = after.holdings + ({content}, 0)
  | .touch => ∃ name rest, arguments = name :: rest ∧
      after.holdings = before.holdings +
        if (before.lookup? (cwd.join name)).isSome then (0, 0) else ({""}, 0)
  | .cp => ∃ source destination node content, arguments = [source, destination] ∧
      before.lookup? (cwd.join source) = some node ∧ node.content? = some content ∧
      after.holdings = before.holdings + ({content}, 0)
  | .mkdir => after.holdings = before.holdings + (0, 1)
  | .rmdir => before.holdings = after.holdings + (0, 1)
  | .mv => after.holdings = before.holdings ∧ after.shown = before.shown
  | _ => after.holdings = before.holdings

theorem Alters.balances {context : Context} {verb : Verb} {arguments : Arguments} {tree : Tree}
    (alters : Alters context verb arguments tree) :
    verb.Balances arguments context.cwd context.tree tree := by
  cases alters with
  | makeDirectory vacant =>
      have own : (Node.newDirectory context.now).total Tree.holding = (0, 1) :=
        Node.total_of_isEmptyDirectory Tree.holding rfl
      simp only [Verb.Balances, Tree.holdings_eq_total]
      rw [Tree.total_bind Tree.holding vacant.directory vacant.free, own]
  | makeFile vacant =>
      have own : (Node.newFile "" context.now).total Tree.holding = ({""}, 0) :=
        Node.total_of_content? Tree.holding rfl
      refine ⟨_, _, rfl, ?_⟩
      simp only [Tree.holdings_eq_total, vacant.free, Option.isSome_none, Bool.false_eq_true,
        if_false]
      rw [Tree.total_bind Tree.holding vacant.directory vacant.free, own]
  | stampFile found file =>
      rename_i name rest node
      obtain ⟨content, held⟩ := Node.exists_content file
      have heldAfter : ∀ change, (node.edit change).content? = some content := by
        intro change
        rw [Node.content?_edit, held]
      refine ⟨name, rest, rfl, ?_⟩
      simp only [Tree.holdings_eq_total, found, Option.isSome_some, if_true, Prod.mk_zero_zero,
        add_zero]
      refine Tree.total_edit Tree.holding found ?_
      rw [Node.total_of_content? Tree.holding (heldAfter _),
        Node.total_of_content? Tree.holding held, Tree.holding, Tree.holding]
  | removeFile found file =>
      obtain ⟨content, held⟩ := Node.exists_content file
      refine ⟨_, _, _, content, rfl, found, held, ?_⟩
      simp only [Tree.holdings_eq_total]
      rw [Tree.total_unbind Tree.holding found, Node.total_of_content? Tree.holding held,
        Tree.holding]
  | removeDirectory found empty =>
      simp only [Verb.Balances, Tree.holdings_eq_total]
      rw [Tree.total_unbind Tree.holding found, Node.total_of_isEmptyDirectory Tree.holding empty,
        Tree.holding]
  | rename found vacant =>
      have movable := Command.movable_siblings found vacant
      constructor
      · simp only [Tree.holdings_eq_total]
        exact movable.total Tree.holding
      · simp only [Tree.shown_eq_total]
        exact movable.total _
  | copyFile found file vacant =>
      rename_i source destination node
      obtain ⟨content, held⟩ := Node.exists_content file
      have own : (node.restamp context.now).total Tree.holding = ({content}, 0) :=
        Node.total_of_content? Tree.holding ((node.content?_edit _).trans held)
      refine ⟨source, destination, node, content, rfl, found, held, ?_⟩
      simp only [Tree.holdings_eq_total]
      rw [Tree.total_bind Tree.holding vacant.directory vacant.free, own]

theorem Verb.balances_of_unchanged {verb : Verb} {arguments : Arguments} {cwd : Path} {tree : Tree}
    (tells : verb.tells ∨ verb = .cd ∨ verb = .clear) : verb.Balances arguments cwd tree tree := by
  rcases tells with tells | rfl | rfl
  · cases verb with
    | ls | pwd | cat | whoami | date | help | echo | history => rfl
    | cd | mkdir | rmdir | touch | rm | mv | cp | clear => cases tells
  · rfl
  · rfl

theorem Effect.balances {context after : Context} {verb : Verb} {arguments : Arguments}
    {outcome : Outcome} (effect : Effect context verb arguments outcome after)
    (succeeded : outcome.code = 0) :
    verb.Balances arguments context.cwd context.tree after.tree := by
  cases effect with
  | refused text => cases succeeded
  | told text tells => exact Verb.balances_of_unchanged (.inl tells)
  | altered alters => exact alters.balances
  | entered text verb directory => exact Verb.balances_of_unchanged (.inr (.inl verb))
  | forgotten text verb =>
      subst verb
      exact Verb.balances_of_unchanged (.inl rfl)
  | cleared verb => exact Verb.balances_of_unchanged (.inr (.inr verb))

theorem Shell.dispatch_conserves (shell : Shell) (word : String) (arguments : Arguments) :
    ((shell.dispatch word arguments).1.code ≠ 0 →
      (shell.dispatch word arguments).2.tree.holdings = shell.tree.holdings) ∧
    ((shell.dispatch word arguments).1.code = 0 → ∃ verb : Verb, verb.name = word ∧
      verb.Balances arguments shell.cwd shell.tree (shell.dispatch word arguments).2.tree) := by
  rcases shell.dispatch_cases word arguments with
    ⟨text, unknown⟩ | ⟨verb, outcome, context, named, ran, effect⟩
  · rw [unknown]
    refine ⟨fun _ => rfl, fun succeeded => ?_⟩
    cases succeeded
  · rw [ran]
    constructor
    · intro failed
      rw [effect.context_of_failure failed]
    · intro succeeded
      exact ⟨verb, named, effect.balances succeeded⟩

theorem Shell.dispatch_conserves_terminal :
    ((boot .terminal .epoch).dispatch "rmdir" ["documents"]).1.code ≠ 0 ∧
      ((boot .terminal .epoch).dispatch "rmdir" ["documents"]).2.tree.holdings =
        (boot .terminal .epoch).tree.holdings ∧
      ((boot .terminal .epoch).dispatch "rm" ["README.txt"]).1.code = 0 ∧
      ∃ verb : Verb, verb.name = "rm" ∧
        verb.Balances ["README.txt"] (boot .terminal .epoch).cwd (boot .terminal .epoch).tree
          ((boot .terminal .epoch).dispatch "rm" ["README.txt"]).2.tree := by
  have keeps : ((boot .terminal .epoch).dispatch "rmdir" ["documents"]).1.code ≠ 0 := by decide
  have removes : ((boot .terminal .epoch).dispatch "rm" ["README.txt"]).1.code = 0 := by decide
  refine ⟨keeps, ?_, removes, ?_⟩
  · exact (dispatch_conserves (boot .terminal .epoch) "rmdir" ["documents"]).1 keeps
  · exact (dispatch_conserves (boot .terminal .epoch) "rm" ["README.txt"]).2 removes

end TeachingShell
