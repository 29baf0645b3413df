import TeachingShell.Shell.Basic

/-!
One line of a conversation with a shell. Lines that open with a slash are about the conversation;
all others are for the shell.
-/

namespace TeachingShell

inductive Reply where
  | proceed (shown : Option String)
  | leave
deriving DecidableEq, Repr

namespace Reply

def manual : String :=
  "tutsh — a teaching shell over an in-memory filesystem\n\n" ++
  "Meta Commands:\n" ++
  "  /help, /?         Show this help\n" ++
  "  /quit, quit       Exit the REPL\n" ++
  "  /cwd              Show current working directory\n" ++
  "  /tools            List available commands\n" ++
  "  /session          Show session info\n\n" ++
  "Shell commands:\n" ++
  "  help              List every command with its usage\n" ++
  "  help <command>    Describe one command\n\n" ++
  "Everything lives in memory; nothing you do here touches your real files."

def overview (shell : Shell) : String :=
  "Kernel: " ++ shell.name ++ "\nUser: " ++ shell.session.user ++ "@" ++ shell.session.host ++
    "\nCwd: " ++ shell.cwd.display ++ "\nHistory: " ++ toString shell.session.history.length

def toSlash (shell : Shell) (word : String) : Reply :=
  match word with
  | "/quit" | "/q" | "/exit" => leave
  | "/help" | "/h" | "/?" => proceed (some manual)
  | "/cwd" => proceed (some shell.cwd.display)
  | "/tools" =>
      proceed (some ("Available tools: " ++
        ", ".intercalate (shell.context.schemas.map Schema.name)))
  | "/session" | "/state" => proceed (some (overview shell))
  | _ =>
      proceed (some ("Unknown command: " ++ word ++ "\nType /help for available commands."))

def ofOutcome (outcome : Outcome) : Reply :=
  proceed (if outcome.text.isEmpty then none else some outcome.text)

end Reply

def Shell.reply (shell : Shell) (line : String) : Reply × Shell :=
  let trimmed := Text.trim line
  if trimmed.toList.head? = some '/' then
    (.toSlash shell ((Text.words trimmed).head?.getD ""), shell)
  else if trimmed = "quit" ∨ trimmed = "exit" then (.leave, shell)
  else if trimmed.isEmpty then (.proceed none, shell)
  else
    let (outcome, next) := shell.execute trimmed
    (.ofOutcome outcome, next)

end TeachingShell
