import TeachingShell.Path.Basic

/-!
Who uses a shell and where they are. A session holds paths and no nodes; whether a path leads to a
directory is asked anew each time.
-/

namespace TeachingShell

structure Session where
  cwd : Path := Path.defaultHome
  previous : Option Path := none
  home : Path := Path.defaultHome
  user : String := "bloguser"
  host : String := "bloghost"
  history : List String := []
deriving DecidableEq

namespace Session

def capacity : Nat := 1000

def resolve (session : Session) (target : String) : Path :=
  Path.resolve target session.cwd session.home

def enter (session : Session) (path : Path) : Session :=
  { session with cwd := path, previous := some session.cwd }

def keepLast (count : Nat) (lines : List String) : List String :=
  lines.drop (lines.length - count)

def record (session : Session) (line : String) : Session :=
  if session.history.getLast? = some line then session
  else { session with history := keepLast capacity (session.history ++ [line]) }

def clearHistory (session : Session) : Session := { session with history := [] }

def prompt (session : Session) : String :=
  "\x1b[1;32m" ++ session.user ++ "@" ++ session.host ++ "\x1b[0m:\x1b[1;34m" ++
    session.cwd.display ++ "\x1b[0m$ "

end Session

end TeachingShell
