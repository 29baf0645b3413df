import TeachingShell.Context
import TeachingShell.Interface

/-!
The words after a verb, and what the commands share: taking operands, naming them as they were typed,
and turning a result into an answer. A flag word is a dash with letters behind it and may stand
anywhere; every other word is an operand, a lone dash included.
-/

namespace TeachingShell

abbrev Arguments := List String

namespace Arguments

def lettersOf? (word : String) : Option (List Char) :=
  match word.toList with
  | '-' :: letter :: letters => some (letter :: letters)
  | _ => none

def isFlag (word : String) : Bool := (lettersOf? word).isSome

def flags (words : Arguments) : List Char :=
  words.flatMap fun word => (lettersOf? word).getD []

def operands (words : Arguments) : Arguments :=
  words.filter fun word => !isFlag word

def takeFlags (words : Arguments) : List Char × Arguments := (words.flags, words.operands)

theorem operands_operands (words : Arguments) : words.operands.operands = words.operands := by
  simp [operands, List.filter_filter]

theorem flags_operands (words : Arguments) : words.operands.flags = [] := by
  refine List.flatMap_eq_nil_iff.mpr fun word member => ?_
  have plain := (List.mem_filter.mp member).2
  simp only [isFlag, Bool.not_eq_true', Option.isSome_eq_false_iff] at plain
  simp_all

end Arguments

namespace Command

/-- The first word. Words after it are ignored. -/
def one (arguments : Arguments) : Except Failure String :=
  match arguments with
  | word :: _ => .ok word
  | [] => .error .missingOperand

def two (arguments : Arguments) : Except Failure (String × String) :=
  match arguments with
  | [source, destination] => .ok (source, destination)
  | _ => .error .argumentCount

def naming {α : Type} (word : String) : Except Failure α → Except Failure α :=
  Except.mapError (Failure.relabel word)

def complaint (lead : String) (failure : Failure) : String :=
  lead ++ " '" ++ failure.operand ++ "': " ++ failure.phrase

def refusal (missing opening : String) : Failure → String
  | .missingOperand => missing
  | failure => complaint opening failure

def commit (context : Context) (report : Failure → String) :
    Except Failure Tree → Outcome × Context
  | .ok tree => (.silent, { context with tree := tree })
  | .error failure => (.failed (report failure), context)

/-- Keeps whatever tree a command left, and reports how it ended. -/
def keep (context : Context) (report : Failure → String) :
    Except Failure Unit × Tree → Outcome × Context
  | (.ok (), tree) => (.silent, { context with tree := tree })
  | (.error failure, tree) => (.failed (report failure), { context with tree := tree })

end Command

end TeachingShell
