import TeachingShell.Shell.Reply
import TeachingShell.Text.Basic

/-!
A conversation over byte lines: what is shown for each line on the two streams of text that a run
leaves behind, and when the conversation ends.
-/

namespace TeachingShell

structure Transcript where
  stdout : String := ""
  stderr : String := ""
deriving DecidableEq, Repr

namespace Transcript

def append (first second : Transcript) : Transcript :=
  ⟨first.stdout ++ second.stdout, first.stderr ++ second.stderr⟩

instance : Append Transcript := ⟨append⟩

def out (text : String) : Transcript := { stdout := text }

def err (text : String) : Transcript := { stderr := text }

end Transcript

namespace Terminal

def clearSequence : String := "\x1b[2J\x1b[H"

def banner (version : String) : String :=
  "tutsh v" ++ version ++ "\nType help for commands, /quit to exit.\n\n"

structure Turn where
  shown : Transcript
  next : Option Shell

def decode? (line : List UInt8) : Option String := String.fromUTF8? ⟨line.toArray⟩

def cleared (before after : Shell) : String :=
  if before.context.clears < after.context.clears then clearSequence else ""

def turn (shell : Shell) (line : List UInt8) : Turn :=
  match decode? line with
  | none => ⟨.err "Error: stream did not contain valid UTF-8\n", none⟩
  | some text =>
      match shell.reply text with
      | (.leave, _) => ⟨{}, none⟩
      | (.proceed none, next) => ⟨.out (cleared shell next), some next⟩
      | (.proceed (some shown), next) => ⟨.out (cleared shell next ++ shown ++ "\n"), some next⟩

def farewell : Transcript := .out "^D\n"

/-- A conversation, where the clock shows `clock 0` for the first line and goes on from line to
line. -/
def converse (clock : Nat → Instant) (shell : Shell) : List (List UInt8) → Transcript
  | [] => farewell
  | line :: rest =>
      let turn := turn (shell.setClock (clock 0)) line
      match turn.next with
      | none => turn.shown
      | some next => turn.shown ++ converse (fun count => clock (count + 1)) next rest

end Terminal

end TeachingShell
