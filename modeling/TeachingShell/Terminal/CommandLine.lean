import TeachingShell.Terminal.Conversation

/-!
The program as its command line calls it: a conversation over the standard input, or one command.
-/

namespace TeachingShell.Terminal

def version : String := "0.1.0"

inductive Call where
  | converse
  | showHelp
  | showVersion
  | execute (line : String)
  | noCommand
  | unknown (option : String)
deriving DecidableEq, Repr

/-- Reads the words of the command line. Only the first one decides; words that it does not need are
ignored. -/
def Call.ofArguments : List String → Call
  | [] => converse
  | "--help" :: _ => showHelp
  | "-h" :: _ => showHelp
  | "--version" :: _ => showVersion
  | "-V" :: _ => showVersion
  | ["-c"] => noCommand
  | "-c" :: line :: _ => execute line
  | option :: _ => unknown option

def usage : String :=
  "tutsh v" ++ version ++ "\n\n" ++
  "A teaching shell over an in-memory home directory.\n\n" ++
  "Usage:\n" ++
  "  tutsh                        Interactive REPL\n" ++
  "  tutsh -c <command>           Execute one command line against a fresh tree\n\n" ++
  "Options:\n" ++
  "  -c <command>                 Execute command string and exit\n" ++
  "  -h, --help                   Show this help\n" ++
  "  -V, --version                Show version\n\n" ++
  "Examples:\n" ++
  "  tutsh                        # Start interactive REPL\n" ++
  "  tutsh -c 'ls -l documents'   # List the seeded documents folder\n\n"

structure Exit where
  status : UInt8
  transcript : Transcript
deriving DecidableEq, Repr

def statusOf (code : Int64) : UInt8 :=
  if 0 ≤ code.toInt ∧ code.toInt ≤ 255 then UInt8.ofNat code.toInt.toNat else 1

def asLine (text : String) : String := if text.isEmpty then "" else text ++ "\n"

def executeOnce (shell : Shell) (line : String) : Exit :=
  let outcome := (shell.execute line).1
  ⟨statusOf outcome.code, ⟨asLine outcome.out, asLine outcome.err⟩⟩

/-- What a call does when the clock shows `clock 0` at the start and `clock n` for the `n`-th line. -/
def runTimed (call : Call) (input : List UInt8) (clock : Nat → Instant) : Exit :=
  let shell := Shell.boot .terminal (clock 0)
  match call with
  | .showHelp => ⟨0, .out usage⟩
  | .showVersion => ⟨0, .out ("tutsh " ++ version ++ "\n")⟩
  | .noCommand => ⟨1, .err "Error: -c requires a command argument\n"⟩
  | .unknown option =>
      ⟨1, .err ("Unknown option: " ++ option ++ "\nRun 'tutsh --help' for usage.\n")⟩
  | .converse =>
      ⟨0, .out (banner version) ++
        converse (fun count => clock (count + 1)) shell (Text.lines input)⟩
  | .execute line => executeOnce (shell.setClock (clock 1)) line

def run (call : Call) (input : List UInt8) (now : Instant) : Exit := runTimed call input fun _ => now

end TeachingShell.Terminal
