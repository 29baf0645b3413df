import TeachingShell.Command.Telling
import TeachingShell.Command.Viewing
import TeachingShell.Command.Writing
import TeachingShell.Tool

/-!
The sixteen commands that every shell has: what each says of itself and what it runs.
-/

namespace TeachingShell

inductive Verb where
  | ls
  | cd
  | pwd
  | cat
  | mkdir
  | rmdir
  | touch
  | rm
  | mv
  | cp
  | whoami
  | date
  | clear
  | help
  | echo
  | history
deriving DecidableEq, Repr

namespace Verb

def all : List Verb :=
  [ls, cd, pwd, cat, mkdir, rmdir, touch, rm, mv, cp, whoami, date, clear, help, echo, history]

theorem mem_all (verb : Verb) : verb ∈ all := by
  cases verb <;> decide

def name : Verb → String
  | ls => "ls"
  | cd => "cd"
  | pwd => "pwd"
  | cat => "cat"
  | mkdir => "mkdir"
  | rmdir => "rmdir"
  | touch => "touch"
  | rm => "rm"
  | mv => "mv"
  | cp => "cp"
  | whoami => "whoami"
  | date => "date"
  | clear => "clear"
  | help => "help"
  | echo => "echo"
  | history => "history"

theorem name_injective {left right : Verb} (same : left.name = right.name) : left = right := by
  revert same
  cases left <;> cases right <;> decide

def schema : Verb → Schema
  | ls => {
      name := "ls", usage := "ls [-l]"
      description := "List directory contents. Use -l for long format."
      examples := [⟨"List current directory", "ls"⟩,
        ⟨"Show details of a directory", "ls -l documents"⟩] }
  | cd => {
      name := "cd", usage := "cd <dir>"
      description := "Change the current directory."
      examples := [⟨"Go home", "cd"⟩, ⟨"Go up one level", "cd .."⟩,
        ⟨"Go back to the previous directory", "cd -"⟩] }
  | pwd => {
      name := "pwd", description := "Print name of current working directory."
      examples := [⟨"Show current directory", "pwd"⟩] }
  | cat => {
      name := "cat", usage := "cat <file>", description := "Concatenate and print files."
      examples := [⟨"Show a file", "cat README.txt"⟩] }
  | mkdir => {
      name := "mkdir", usage := "mkdir <dir>", description := "Make directories."
      examples := [⟨"Create a directory here", "mkdir notes"⟩] }
  | rmdir => { name := "rmdir", usage := "rmdir <dir>", description := "Remove empty directories." }
  | touch => {
      name := "touch", usage := "touch <file>"
      description := "Change file timestamps or create new files."
      examples := [⟨"Create an empty file", "touch todo.txt"⟩] }
  | rm => {
      name := "rm", usage := "rm <file>", description := "Remove files."
      examples := [⟨"Delete a file", "rm old.txt"⟩] }
  | mv => {
      name := "mv", usage := "mv <src> <dest>", description := "Move or rename files or directories."
      examples := [⟨"Rename a file", "mv draft.txt final.txt"⟩] }
  | cp => {
      name := "cp", usage := "cp <src> <dest>", description := "Copy files."
      examples := [⟨"Back up a file", "cp notes.md notes.bak"⟩] }
  | whoami => { name := "whoami", description := "Print the effective user ID." }
  | date => { name := "date", description := "Display the current date and time." }
  | clear => { name := "clear", description := "Clear the terminal screen." }
  | help => {
      name := "help", description := "Display this help message."
      examples := [⟨"Describe one command", "help ls"⟩] }
  | echo => {
      name := "echo", usage := "echo [args...]", description := "Display a line of text."
      examples := [⟨"Say hello", "echo hello world"⟩] }
  | history => {
      name := "history", usage := "history [n] [-c]", description := "Show command history."
      examples := [⟨"Show the last 10 commands", "history 10"⟩,
        ⟨"Clear the history list", "history -c"⟩] }

theorem name_schema (verb : Verb) : verb.schema.name = verb.name := by
  cases verb <;> rfl

def run (verb : Verb) (arguments : Arguments) (context : Context) : Outcome × Context :=
  match verb with
  | ls => (Command.list arguments context, context)
  | cd => Command.changeDirectory arguments context
  | pwd => (Command.printDirectory context, context)
  | cat => (Command.concatenate arguments context, context)
  | mkdir => Command.commit context Command.makeDirectoryReport
      (Command.makeDirectory arguments context)
  | rmdir => Command.commit context Command.removeDirectoryReport
      (Command.removeDirectory arguments context)
  | touch => Command.commit context Command.touchReport (Command.touch arguments context)
  | rm => Command.commit context Command.removeFileReport (Command.removeFile arguments context)
  | mv => Command.keep context (Command.moveReport context.newline)
      (Command.move arguments context)
  | cp => Command.commit context (Command.copyReport context.newline)
      (Command.copy arguments context)
  | whoami => (Command.userName context, context)
  | date => (Command.date context, context)
  | clear => Command.clearScreen context
  | help => (Command.help arguments context, context)
  | echo => (Command.echo arguments, context)
  | history => Command.history arguments context

def tool (verb : Verb) : Tool := ⟨verb.name, verb.schema, verb.run⟩

end Verb

def Registry.builtins : Registry := ofTools (Verb.all.map Verb.tool)

end TeachingShell
