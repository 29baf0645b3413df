/-!
What passes between a shell and its host: the entries of a listing, the reasons of a failure, and what
one command answers. A failure says what is wrong; the command that reports it adds the rest of the
sentence.
-/

namespace TeachingShell

inductive Kind where
  | file
  | directory
deriving DecidableEq, Repr

/-- The columns of a long listing. They are shown and never enforced. -/
structure Attributes where
  permissions : String
  owner : String
  group : String
  size : UInt64
  modified : String
deriving DecidableEq, Repr

structure Entry where
  name : String
  kind : Kind
  attributes : Attributes
deriving DecidableEq, Repr

namespace Entry

def isDirectory (entry : Entry) : Bool := entry.kind == .directory

def isFile (entry : Entry) : Bool := entry.kind == .file

end Entry

inductive Fault where
  | notFound
  | notDirectory
  | isDirectory
  | alreadyExists
  | notEmpty
  | badName
  | wouldCycle
  | unknownCommand
deriving DecidableEq, Repr

inductive Failure where
  | missingOperand
  | argumentCount
  | invalidOption (letter : Char)
  | on (fault : Fault) (operand : String)
deriving DecidableEq, Repr

namespace Fault

def phrase : Fault → String
  | notFound => "No such file or directory"
  | notDirectory => "Not a directory"
  | isDirectory => "Is a directory"
  | alreadyExists => "File exists"
  | notEmpty => "Directory not empty"
  | badName => "Invalid argument"
  | wouldCycle => "cannot move a directory into itself"
  | unknownCommand => "command not found"

end Fault

namespace Failure

def phrase : Failure → String
  | missingOperand => "missing operand"
  | argumentCount => "missing file operand"
  | invalidOption letter => "invalid option -- '" ++ letter.toString ++ "'"
  | on fault _ => fault.phrase

def operand? : Failure → Option String
  | on _ operand => some operand
  | _ => none

def operand (failure : Failure) : String := failure.operand?.getD ""

def relabel (label : String) : Failure → Failure
  | on fault _ => on fault label
  | failure => failure

end Failure

structure Outcome where
  code : Int64
  out : String
  err : String
deriving DecidableEq, Repr

namespace Outcome

def success (text : String) : Outcome := ⟨0, text, ""⟩

def failure (code : Int64) (text : String) : Outcome := ⟨code, "", text⟩

def silent : Outcome := success ""

def failed (text : String) : Outcome := failure 1 text

def unknown (text : String) : Outcome := failure 127 text

def ok (outcome : Outcome) : Bool := outcome.code == 0

def text (outcome : Outcome) : String := if outcome.ok then outcome.out else outcome.err

@[simp] theorem ok_success (shown : String) : (success shown).ok = true := rfl

@[simp] theorem ok_failed (shown : String) : (failed shown).ok = false := rfl

end Outcome

end TeachingShell
