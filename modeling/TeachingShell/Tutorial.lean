import TeachingShell.Tree.Basic

/-!
The home directory that a new session finds. Its directories carry the stamp of the start; its files
have fixed dates, and sizes chosen for display.
-/

namespace TeachingShell.Tutorial

def sample (content : String) (size : UInt64) (stamp : String) : Node :=
  (Node.newFile content stamp).withSize size

def folder (stamp : String) (children : List (String × Node)) : Node :=
  children.foldl (fun directory (name, child) => directory.bind name child)
    (Node.newDirectory stamp)

def documents (stamp : String) : Node :=
  folder stamp [
    ("report.txt", sample
      "This is a sample report file.\nIt contains some important information."
      60 "Jul 25 10:00"),
    ("notes.md", sample "# My Notes\n\n- Idea 1\n- Idea 2\n- Idea 3" 40 "Jul 26 14:30")]

def blog (stamp : String) : Node :=
  folder stamp [
    ("index.html", sample "<!DOCTYPE html>..." 200 "Jul 20 09:00"),
    ("style.css", sample "body \x7b color: blue; \x7d" 50 "Jul 20 09:05"),
    ("script.js", sample "// JavaScript code" 30 "Jul 20 09:10")]

def game (stamp : String) : Node :=
  folder stamp [
    ("main.py", sample "print(\"Hello Game!\")" 20 "Jul 22 11:00"),
    ("assets", folder stamp [])]

def home (stamp : String) : Node :=
  folder stamp [
    ("documents", documents stamp),
    ("projects", folder stamp [("my_blog", blog stamp), ("game_dev", game stamp)]),
    ("downloads", folder stamp []),
    ("README.txt", sample
      "Welcome to your simulated home directory!\n\nTry `ls -l` for more details."
      70 "Jul 27 08:00")]

def root (stamp : String) : Node :=
  folder stamp [("home", folder stamp [("user", home stamp)])]

theorem folder_induction (holds : Node → Prop) {stamp : String} {children : List (String × Node)}
    (empty : holds (Node.newDirectory stamp))
    (bind : ∀ node, ∀ entry ∈ children, holds node → holds (node.bind entry.1 entry.2)) :
    holds (folder stamp children) := by
  suffices ∀ node, holds node →
      holds (children.foldl (fun directory (name, child) => directory.bind name child) node) from
    this _ empty
  induction children with
  | nil => exact fun node kept => kept
  | cons first rest ih =>
      intro node kept
      have later := ih fun node entry member => bind node entry (List.mem_cons_of_mem _ member)
      exact later _ (bind node first List.mem_cons_self kept)

theorem kind_folder (stamp : String) (children : List (String × Node)) :
    (folder stamp children).kind = .directory := by
  refine folder_induction (fun node => node.kind = .directory) rfl fun node entry _ kept => ?_
  rw [Node.kind_bind, kept]

def tree (stamp : String) : Tree :=
  ⟨root stamp, by simp [Node.isDirectory, root, kind_folder]⟩

end TeachingShell.Tutorial
