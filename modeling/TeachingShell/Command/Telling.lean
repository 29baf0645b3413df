import TeachingShell.Command.Viewing
import TeachingShell.Text.Basic

/-!
The commands that tell something of the session or of the commands, the one that clears the screen,
and the history with its own reading of the words.
-/

namespace TeachingShell.Command

def echo (arguments : Arguments) : Outcome := .success (" ".intercalate arguments)

def userName (context : Context) : Outcome := .success context.session.user

def date (context : Context) : Outcome := .success context.now

def help (arguments : Arguments) (context : Context) : Outcome :=
  match arguments.head? with
  | none => .success (Schema.overview context.schemas context.newline)
  | some topic =>
      match Schema.topic? context.schemas topic context.newline with
      | some text => .success text
      | none => .failed ("help: no help topics match '" ++ topic ++ "'")

def clearScreen (context : Context) : Outcome × Context :=
  (.silent, { context with clears := context.clears + 1 })

inductive HistoryRequest where
  /-- The last so many lines; all of them for zero. -/
  | show (count : Nat)
  | clear

inductive HistoryFault where
  | invalidOption (letter : Char)
  | notNumeric (word : String)

def HistoryFault.message : HistoryFault → String
  | invalidOption letter => (Failure.invalidOption letter).phrase
  | notNumeric word => word ++ ": numeric argument required"

/-- Reads the words. A letter to clear makes the operands irrelevant. -/
def historyRequest (arguments : Arguments) : Except HistoryFault HistoryRequest :=
  match strayFlag? 'c' arguments with
  | some letter => .error (.invalidOption letter)
  | none =>
      if !arguments.flags.isEmpty then .ok .clear
      else match arguments.operands.head? with
        | none => .ok (.show 0)
        | some word =>
            match Text.count? word with
            | some count => .ok (.show count)
            | none => .error (.notNumeric word)

def numberWidth : Nat := 5

def numbered (line : String) (index : Nat) : String :=
  Text.padLeft numberWidth ' ' (toString (index + 1)) ++ "  " ++ line

def firstShown (count length : Nat) : Nat := if count = 0 then 0 else length - count

def showHistory (count : Nat) (context : Context) : Outcome :=
  let lines := context.session.history
  if lines.isEmpty then .success "No commands in history"
  else
    .success (context.joinLines
      ((lines.mapIdx fun index line => numbered line index).drop (firstShown count lines.length)))

def history (arguments : Arguments) (context : Context) : Outcome × Context :=
  match historyRequest arguments with
  | .ok .clear =>
      (.success "\x1b[32m✓ History cleared\x1b[0m",
        { context with session := context.session.clearHistory })
  | .ok (.show count) => (showHistory count context, context)
  | .error fault => (.failed ("history: " ++ fault.message), context)

end TeachingShell.Command
