import TeachingShell.Command.Operand

/-!
The commands that change the tree. Their words are names in the current directory and are not
resolved. A move or a copy writes over nothing. Where a removal or a copy fails to read the current
directory itself, the failure is reported under its path.
-/

namespace TeachingShell.Command

def makeDirectory (arguments : Arguments) (context : Context) : Except Failure Tree := do
  let name ← one arguments
  naming name (context.tree.insert context.cwd name (Node.newDirectory context.now))

def makeDirectoryReport : Failure → String :=
  refusal "mkdir: missing operand" "mkdir: cannot create directory"

def touch (arguments : Arguments) (context : Context) : Except Failure Tree := do
  let name ← one arguments
  let path := context.cwd.join name
  match context.tree.lookup? path with
  | some node =>
      if node.isDirectory then .error (.on .isDirectory name)
      else .ok (context.tree.restamp path context.now)
  | none => naming name (context.tree.insert context.cwd name (Node.newFile "" context.now))

def touchReport : Failure → String :=
  refusal "touch: missing file operand" "touch: cannot touch"

def child (name : String) (context : Context) : Except Failure Node := do
  let directory ← context.directory
  match directory.child? name with
  | some node => .ok node
  | none => .error (.on .notFound name)

def removeChild (name : String) (context : Context) : Except Failure Tree := do
  let (_, tree) ← context.tree.remove context.cwd name
  .ok tree

def removeFile (arguments : Arguments) (context : Context) : Except Failure Tree := do
  let name ← one arguments
  let node ← child name context
  if node.isDirectory then .error (.on .isDirectory name) else removeChild name context

def removeFileReport : Failure → String :=
  refusal "rm: missing operand" "rm: cannot remove"

def removeDirectory (arguments : Arguments) (context : Context) : Except Failure Tree := do
  let name ← one arguments
  let node ← child name context
  if node.isFile then .error (.on .notDirectory name)
  else if !node.isEmptyDirectory then .error (.on .notEmpty name)
  else removeChild name context

def removeDirectoryReport : Failure → String :=
  refusal "rmdir: missing operand" "rmdir: failed to remove"

/-- A failure to find the source is about the source, and every other one about the destination. -/
def namingEither {α : Type} (source destination : String) : Except Failure α → Except Failure α :=
  Except.mapError fun failure =>
    match failure with
    | .on .notFound _ => failure.relabel source
    | _ => failure.relabel destination

def move (arguments : Arguments) (context : Context) : Except Failure Unit × Tree :=
  match two arguments with
  | .error failure => (.error failure, context.tree)
  | .ok (source, destination) =>
      let (answer, tree) :=
        context.tree.relocate (context.cwd.join source) (context.cwd.join destination)
      (namingEither source destination answer, tree)

def moveReport (newline : String) : Failure → String
  | .argumentCount => "mv: missing file operand" ++ newline ++ "Try 'mv SOURCE DEST'"
  | .on .notFound source => complaint "mv: cannot stat" (.on .notFound source)
  | failure => complaint "mv: cannot move to" failure

def copy (arguments : Arguments) (context : Context) : Except Failure Tree := do
  let (source, destination) ← two arguments
  let node ← child source context
  if node.isDirectory then .error (.on .isDirectory source)
  else
    naming destination
      (context.tree.insert context.cwd destination (node.restamp context.now))

def copyReport (newline : String) : Failure → String
  | .argumentCount => "cp: missing file operand" ++ newline ++ "Try 'cp SOURCE DEST'"
  | .on .notFound source => complaint "cp: cannot stat" (.on .notFound source)
  | .on .isDirectory source => "cp: -r not specified; omitting directory '" ++ source ++ "'"
  | failure => complaint "cp: cannot copy to" failure

end TeachingShell.Command
