import Std.Time.Zoned
import TeachingShell.Terminal.CommandLine

/-!
The program: it reads bytes and the clock, and prints what the conversation shows.
-/

namespace TeachingShell.Program

def localTime : IO Instant := do
  let now ← Std.Time.PlainDateTime.now
  let time := now.time
  match Instant.ofParts? now.date.year now.date.month.val.toNat now.date.day.val.toNat
      time.hour.val.toNat time.minute.val.toNat time.second.val.toNat with
  | some instant => return instant
  | none => throw (IO.userError "the clock shows no moment of the calendar")

/-- The next line with the bytes that end it, behind those already read; nothing at the end of the
input. -/
partial def nextLine (input : IO.FS.Stream) (read : List UInt8) : IO (List UInt8) := do
  let chunk ← input.read 1
  match chunk.toList with
  | byte :: _ =>
      if byte = Text.lineFeed then return (byte :: read).reverse
      else nextLine input (byte :: read)
  | [] => return read.reverse

def emit (transcript : Transcript) : IO Unit := do
  let stdout ← IO.getStdout
  stdout.putStr transcript.stdout
  stdout.flush
  (← IO.getStderr).putStr transcript.stderr

partial def talk (input : IO.FS.Stream) (shell : Shell) : IO Unit := do
  match Text.lines (← nextLine input []) with
  | [] => emit Terminal.farewell
  | line :: _ =>
      let turn := Terminal.turn (shell.setClock (← localTime)) line
      emit turn.shown
      match turn.next with
      | some next => talk input next
      | none => return

end TeachingShell.Program

open TeachingShell in
def main (arguments : List String) : IO UInt32 := do
  let now ← Program.localTime
  match Terminal.Call.ofArguments arguments with
  | .converse =>
      Program.emit (.out (Terminal.banner Terminal.version))
      Program.talk (← IO.getStdin) (.boot .terminal now)
      return 0
  | call =>
      let exit := Terminal.run call [] now
      Program.emit exit.transcript
      return exit.status.toUInt32
