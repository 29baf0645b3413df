import TeachingShell.Proofs.Effects

/-!
Commands reach no further than their operands in the current directory.
-/

namespace TeachingShell

def Verb.operandCount : Verb → Nat
  | .mkdir | .rmdir | .touch | .rm => 1
  | .mv | .cp => 2
  | _ => 0

theorem Alters.confined {context : Context} {verb : Verb} {arguments : Arguments} {tree : Tree}
    (alters : Alters context verb arguments tree) :
    Confined context.cwd (arguments.take verb.operandCount) context.tree tree := by
  cases alters with
  | makeDirectory vacant => exact Tree.confined_bind List.mem_cons_self _ _ _
  | makeFile vacant => exact Tree.confined_bind List.mem_cons_self _ _ _
  | stampFile found file => exact Tree.confined_edit List.mem_cons_self _ _ _
  | removeFile found file => exact Tree.confined_unbind List.mem_cons_self _ _
  | removeDirectory found empty => exact Tree.confined_unbind List.mem_cons_self _ _
  | copyFile found file vacant =>
      exact Tree.confined_bind (List.mem_cons_of_mem _ List.mem_cons_self) _ _ _
  | rename found vacant =>
      rename_i source destination node
      have detached : Confined context.cwd [source, destination] context.tree
          (context.tree.unbind context.cwd source) :=
        Tree.confined_unbind List.mem_cons_self _ _
      have attached : Confined context.cwd [source, destination]
          (context.tree.unbind context.cwd source)
          ((context.tree.unbind context.cwd source).bind context.cwd destination node) :=
        Tree.confined_bind (List.mem_cons_of_mem _ List.mem_cons_self) _ _ _
      exact detached.trans attached

theorem Effect.confined {context after : Context} {verb : Verb} {arguments : Arguments}
    {outcome : Outcome} (effect : Effect context verb arguments outcome after) :
    Confined context.cwd (arguments.take verb.operandCount) context.tree after.tree := by
  cases effect with
  | altered alters => exact alters.confined
  | refused text => exact Confined.refl _ _ _
  | told text tells => exact Confined.refl _ _ _
  | entered text verb directory => exact Confined.refl _ _ _
  | forgotten text verb => exact Confined.refl _ _ _
  | cleared verb => exact Confined.refl _ _ _

theorem Shell.dispatch_confined (shell : Shell) (verb : Verb) (arguments : Arguments) :
    Confined shell.cwd (arguments.take verb.operandCount) shell.tree
      (shell.dispatch verb.name arguments).2.tree := by
  rcases shell.dispatch_cases verb.name arguments with
    ⟨text, unknown⟩ | ⟨other, outcome, context, named, ran, effect⟩
  · rw [unknown]
    exact Confined.refl _ _ _
  · obtain rfl := Verb.name_injective named
    rw [ran]
    exact effect.confined

end TeachingShell
