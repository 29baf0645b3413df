/-!
Texts as a terminal takes and shows them. A byte stream is read by lines: a line feed ends a line, and
one carriage return before it belongs to the ending; what stands behind the last line feed is a line
as well, unless it is empty. A column is brought to its width, and a numeral is read in decimal.
-/

namespace TeachingShell.Text

def lineFeed : UInt8 := 10

def carriageReturn : UInt8 := 13

def cutLines : List UInt8 → List (List UInt8) × List UInt8
  | [] => ([], [])
  | byte :: rest =>
      let (ended, last) := cutLines rest
      if byte = lineFeed then ([] :: ended, last)
      else match ended with
        | [] => ([], byte :: last)
        | first :: more => ((byte :: first) :: more, last)

def dropReturn (line : List UInt8) : List UInt8 :=
  if line.getLast? = some carriageReturn then line.dropLast else line

def lines (bytes : List UInt8) : List (List UInt8) :=
  let (ended, last) := cutLines bytes
  ended.map dropReturn ++ if last.isEmpty then [] else [last]

theorem cutLines_ended (line rest : List UInt8) (unbroken : ∀ byte ∈ line, byte ≠ lineFeed) :
    cutLines (line ++ lineFeed :: rest) =
      (line :: (cutLines rest).1, (cutLines rest).2) := by
  induction line with
  | nil => simp [cutLines]
  | cons byte line ih =>
      have tail := ih fun other member => unbroken other (List.mem_cons_of_mem _ member)
      simp [cutLines, tail, unbroken byte List.mem_cons_self]

theorem lines_ended (line rest : List UInt8) (unbroken : ∀ byte ∈ line, byte ≠ lineFeed) :
    lines (line ++ lineFeed :: rest) = dropReturn line :: lines rest := by
  simp [lines, cutLines_ended line rest unbroken]

def padLeft (width : Nat) (fill : Char) (text : String) : String :=
  String.ofList (text.toList.leftpad width fill)

def padRight (width : Nat) (fill : Char) (text : String) : String :=
  String.ofList (text.toList.rightpad width fill)

theorem padLeft_eq (width : Nat) (fill : Char) (text : String) :
    padLeft width fill text =
      String.ofList (List.replicate (width - text.length) fill) ++ text := by
  rw [padLeft, List.leftpad, String.ofList_append, String.length_toList, String.ofList_toList]

def digitsValue? (digits : List Char) : Option Nat :=
  digits.foldlM (fun value c =>
    if c.isDigit then some (value * 10 + (c.toNat - '0'.toNat)) else none) 0

/-- Reads a count: at most one plus sign, then digits, with a value below 2^64. -/
def count? (word : String) : Option Nat := do
  let digits := match word.toList with
    | '+' :: rest => rest
    | digits => digits
  if digits.isEmpty then none
  else
    let value ← digitsValue? digits
    if value < UInt64.size then some value else none

end TeachingShell.Text
