import TeachingShell.Instant
import TeachingShell.Schema
import TeachingShell.Session
import TeachingShell.Tree.Basic

/-!
All that a command may look at and change.
-/

namespace TeachingShell

structure Context where
  tree : Tree
  session : Session := {}
  /-- What ends a line of output that is not the last one. -/
  newline : String := "\r\n"
  clock : Instant
  schemas : List Schema := []
  clears : Nat := 0

namespace Context

def cwd (context : Context) : Path := context.session.cwd

def resolve (context : Context) (target : String) : Path := context.session.resolve target

def directory (context : Context) : Except Failure Node := context.tree.directory context.cwd

def now (context : Context) : String := context.clock.stamp

def joinLines (context : Context) (lines : List String) : String :=
  context.newline.intercalate lines

def settled (context : Context) : Path := context.tree.ascend context.cwd

def settle (context : Context) : Context :=
  { context with session := { context.session with cwd := context.settled } }

def relocation? (context : Context) : Option Path :=
  match context.directory with
  | .ok _ => none
  | .error _ => some context.settled

end Context

end TeachingShell
