import TeachingShell.Command.Operand

/-!
The commands that look at the tree: listing a directory or a single file, printing a file, going to
another directory and saying which one is current.
-/

namespace TeachingShell.Command

inductive Listing where
  | file (entry : Entry)
  | directory (entries : List Entry)

namespace Listing

def directoryStyle : String := "\x1b[1;34m"

def plainStyle : String := "\x1b[0m"

def styled (text : String) : String := directoryStyle ++ text ++ plainStyle

def shortName (entry : Entry) : String :=
  if entry.isDirectory then styled (entry.name ++ "/") else entry.name

def sizeWidth : Nat := 6

def longLine (entry : Entry) : String :=
  " ".intercalate [entry.attributes.permissions, "1", entry.attributes.owner,
    entry.attributes.group, Text.padLeft sizeWidth ' ' (toString entry.attributes.size.toNat),
    entry.attributes.modified, if entry.isDirectory then styled entry.name else entry.name]

def short : Listing → String
  | file entry => entry.name
  | directory entries => "\t".intercalate (entries.map shortName)

def long (newline : String) : Listing → String
  | file entry => longLine entry
  | directory entries => newline.intercalate (entries.map longLine)

end Listing

def listing (target : Option String) (context : Context) : Except Failure Listing :=
  match target with
  | none => do
      let entries ← context.tree.list context.cwd
      .ok (.directory entries)
  | some word => naming word do
      let node ← context.tree.stat (context.resolve word)
      .ok (if node.isFile then .file (node.entry word) else .directory node.entries)

def strayFlag? (allowed : Char) (arguments : Arguments) : Option Char :=
  arguments.flags.find? fun letter => letter != allowed

def list (arguments : Arguments) (context : Context) : Outcome :=
  match strayFlag? 'l' arguments with
  | some letter => .failed ("ls: " ++ (Failure.invalidOption letter).phrase)
  | none =>
      let target := arguments.operands.head?
      match listing target context with
      | .ok listing =>
          .success (if arguments.flags.isEmpty then listing.short else listing.long context.newline)
      | .error failure =>
          .failed (complaint "ls: cannot access" (failure.relabel (target.getD ".")))

def content (arguments : Arguments) (context : Context) : Except Failure String := do
  let word ← one arguments
  let node ← naming word (context.tree.stat (context.resolve word))
  match node.content? with
  | some content => .ok content
  | none => .error (.on .isDirectory word)

def contentReport : Failure → String
  | .missingOperand => "cat: missing operand"
  | failure => "cat: " ++ failure.operand ++ ": " ++ failure.phrase

def concatenate (arguments : Arguments) (context : Context) : Outcome :=
  match content arguments context with
  | .ok content => .success content
  | .error failure => .failed (contentReport failure)

structure Destination where
  path : Path
  label : String
  announced : Bool

def destination? (word : Option String) (session : Session) : Option Destination :=
  match word with
  | none => some ⟨session.home, "~", false⟩
  | some "-" => session.previous.map fun path => ⟨path, "-", true⟩
  | some word => some ⟨session.resolve word, word, false⟩

def changeDirectory (arguments : Arguments) (context : Context) : Outcome × Context :=
  match destination? arguments.head? context.session with
  | none => (.failed "bash: cd: OLDPWD not set", context)
  | some destination =>
      match context.tree.directory destination.path with
      | .error failure =>
          (.failed ("bash: cd: " ++ destination.label ++ ": " ++ failure.phrase), context)
      | .ok _ =>
          (.success (if destination.announced then destination.path.display else ""),
            { context with session := context.session.enter destination.path })

def printDirectory (context : Context) : Outcome := .success context.cwd.display

end TeachingShell.Command
