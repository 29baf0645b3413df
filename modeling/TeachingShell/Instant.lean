import TeachingShell.Text.Basic

/-!
Moments of the civil calendar, to the second, and the stamp that listings show for one. The calendar
is the Gregorian one in all years, those before its introduction included.
-/

namespace TeachingShell

def isLeapYear (year : Int) : Bool :=
  year % 4 == 0 && (year % 100 != 0 || year % 400 == 0)

def daysInMonth (year : Int) : Nat → Nat
  | 2 => if isLeapYear year then 29 else 28
  | 4 | 6 | 9 | 11 => 30
  | 1 | 3 | 5 | 7 | 8 | 10 | 12 => 31
  | _ => 0

structure Instant where
  year : Int
  month : Nat
  day : Nat
  hour : Nat
  minute : Nat
  second : Nat
  inEra : -262143 ≤ year ∧ year ≤ 262142
  inMonth : 1 ≤ day ∧ day ≤ daysInMonth year month
  inDay : hour < 24 ∧ minute < 60 ∧ second < 60
deriving DecidableEq

namespace Instant

def ofParts? (year : Int) (month day hour minute second : Nat) : Option Instant :=
  if valid : (-262143 ≤ year ∧ year ≤ 262142) ∧ (1 ≤ day ∧ day ≤ daysInMonth year month) ∧
      (hour < 24 ∧ minute < 60 ∧ second < 60) then
    some ⟨year, month, day, hour, minute, second, valid.1, valid.2.1, valid.2.2⟩
  else none

def epoch : Instant := ⟨1970, 1, 1, 0, 0, 0, by decide, by decide, by decide⟩

def monthName : Nat → String
  | 1 => "Jan"
  | 2 => "Feb"
  | 3 => "Mar"
  | 4 => "Apr"
  | 5 => "May"
  | 6 => "Jun"
  | 7 => "Jul"
  | 8 => "Aug"
  | 9 => "Sep"
  | 10 => "Oct"
  | 11 => "Nov"
  | _ => "Dec"

def twoDigits (number : Nat) : String := Text.padLeft 2 '0' (toString number)

def stamp (instant : Instant) : String :=
  monthName instant.month ++ " " ++ twoDigits instant.day ++ " " ++ twoDigits instant.hour ++ ":" ++
    twoDigits instant.minute

end Instant

end TeachingShell
