import TeachingShell.Text.Blank
import TeachingShell.Tutorial
import TeachingShell.Verb

/-!
What a shell is started with, and a shell that is running. It takes a line at a time: the line is
recorded, a lost location is given up, and the first word is run as a verb on the others.
-/

namespace TeachingShell

structure Config where
  name : String := "default"
  user : String := "bloguser"
  host : String := "bloghost"
  /-- Where `~` and a bare change of directory lead. It need not exist. -/
  home : String := "/home/user"
  /-- The first location, which must be a directory of the first tree. -/
  cwd : String := "/home/user"
  seed : Bool := true
  newline : String := "\r\n"
deriving DecidableEq, Repr

namespace Config

def named (name : String) : Config := { name := name }

def isolated : Config := { name := "isolated", home := "/", cwd := "/", seed := false }

def terminal : Config := { name := "repl", newline := "\n" }

end Config

inductive StartFault where
  | relativeCwd (text : String)
  | relativeHome (text : String)
  | badCwd (text : String) (failure : Failure)
deriving DecidableEq, Repr

def StartFault.message : StartFault → String
  | relativeCwd text => "initial directory must be absolute: " ++ text
  | relativeHome text => "home directory must be absolute: " ++ text
  | badCwd text failure => "initial directory " ++ text ++ ": " ++ failure.phrase

def StartFault.report (fault : StartFault) : String :=
  "Failed to create kernel: " ++ fault.message

structure Shell where
  name : String
  context : Context

namespace Shell

/-- The shell of a configuration, before anyone has asked whether its location exists. The time
stamps the directories of the first tree. -/
def boot (config : Config) (now : Instant) : Shell where
  name := config.name
  context := {
    tree := if config.seed then Tutorial.tree now.stamp else Tree.new now.stamp
    session := {
      cwd := Path.parse config.cwd
      home := Path.parse config.home
      user := config.user
      host := config.host }
    newline := config.newline
    clock := now
    schemas := Registry.builtins.schemas }

def start (config : Config) (now : Instant) : Except StartFault Shell :=
  if !Path.isAbsolute config.cwd then .error (.relativeCwd config.cwd)
  else if !Path.isAbsolute config.home then .error (.relativeHome config.home)
  else
    let shell := boot config now
    match shell.context.directory with
    | .error failure => .error (.badCwd config.cwd failure)
    | .ok _ => .ok shell

theorem start_terminal (now : Instant) : start .terminal now = .ok (boot .terminal now) := rfl

theorem directory_terminal (now : Instant) :
    (boot .terminal now).context.directory = .ok (Tutorial.home now.stamp) := rfl

def cwd (shell : Shell) : Path := shell.context.cwd

def session (shell : Shell) : Session := shell.context.session

def tree (shell : Shell) : Tree := shell.context.tree

def prompt (shell : Shell) : String := shell.session.prompt

def withTree (shell : Shell) (tree : Tree) : Shell :=
  { shell with context := { shell.context with tree := tree } }

def setClock (shell : Shell) (now : Instant) : Shell :=
  { shell with context := { shell.context with clock := now } }

def dispatch (shell : Shell) (verb : String) (arguments : Arguments) : Outcome × Shell :=
  match Registry.builtins.get? verb with
  | none => (.unknown ("bash: " ++ verb ++ ": " ++ Fault.unknownCommand.phrase), shell)
  | some tool =>
      let (outcome, context) := tool.run arguments shell.context
      (outcome, { shell with context := context })

def record (shell : Shell) (line : String) : Shell :=
  { shell with
    context := { shell.context with session := shell.context.session.record line } }

def settle (shell : Shell) : Shell := { shell with context := shell.context.settle }

def execute (shell : Shell) (line : String) : Outcome × Shell :=
  match Text.words line with
  | [] => (.silent, shell)
  | verb :: arguments => ((shell.record (Text.trim line)).settle).dispatch verb arguments

end Shell

end TeachingShell
