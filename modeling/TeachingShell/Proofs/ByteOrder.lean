import Mathlib.Algebra.Group.Nat.Defs
import TeachingShell.Proofs.Reading

/-!
The order of texts. They are compared by their characters, and comparing the bytes that they are
written with comes to the same: a greater character has a greater first byte, or the same one and
something greater behind it.
-/

namespace TeachingShell

namespace Text

def continuations (code : Nat) : Nat :=
  if code ≤ 0x7F then 0 else if code ≤ 0x7FF then 1 else if code ≤ 0xFFFF then 2 else 3

def marker : Nat → Nat
  | 0 => 0
  | 1 => 0xC0
  | 2 => 0xE0
  | _ => 0xF0

def firstByte (code : Nat) : Nat :=
  marker (continuations code) + code / 64 ^ continuations code

def laterBytes : Nat → Nat → List UInt8
  | 0, _ => []
  | count + 1, code => UInt8.ofNat (code / 64 ^ count % 64 + 0x80) :: laterBytes count code

theorem toNat_lt (c : Char) : c.toNat < 0x110000 := by
  rcases c.valid with low | ⟨-, high⟩
  · exact Nat.lt_trans low (by decide)
  · exact high

theorem continuations_cases (code : Nat) :
    (code ≤ 0x7F ∧ continuations code = 0 ∧ firstByte code = code) ∨
      (0x7F < code ∧ code ≤ 0x7FF ∧ continuations code = 1 ∧ firstByte code = 0xC0 + code / 64) ∨
      (0x7FF < code ∧ code ≤ 0xFFFF ∧ continuations code = 2 ∧
        firstByte code = 0xE0 + code / 4096) ∨
      (0xFFFF < code ∧ continuations code = 3 ∧ firstByte code = 0xF0 + code / 262144) := by
  by_cases one : code ≤ 0x7F
  · have count : continuations code = 0 := if_pos one
    refine Or.inl ⟨one, count, ?_⟩
    simp [firstByte, count, marker]
  · by_cases two : code ≤ 0x7FF
    · have count : continuations code = 1 := by simp [continuations, one, two]
      refine Or.inr (Or.inl ⟨Nat.not_le.mp one, two, count, ?_⟩)
      simp [firstByte, count, marker]
    · by_cases three : code ≤ 0xFFFF
      · have count : continuations code = 2 := by simp [continuations, one, two, three]
        refine Or.inr (Or.inr (Or.inl ⟨Nat.not_le.mp two, three, count, ?_⟩))
        simp [firstByte, count, marker]
      · have count : continuations code = 3 := by simp [continuations, one, two, three]
        refine Or.inr (Or.inr (Or.inr ⟨Nat.not_le.mp three, count, ?_⟩))
        simp [firstByte, count, marker]

theorem utf8EncodeChar_eq (c : Char) :
    String.utf8EncodeChar c =
      UInt8.ofNat (firstByte c.toNat) :: laterBytes (continuations c.toNat) c.toNat := by
  have bounded := toNat_lt c
  have code : c.val.toNat = c.toNat := rfl
  simp only [String.utf8EncodeChar, code]
  generalize c.toNat = code at bounded
  rcases continuations_cases code with ⟨upper, count, first⟩ | ⟨lower, upper, count, first⟩ |
    ⟨lower, upper, count, first⟩ | ⟨lower, count, first⟩
  · rw [if_pos upper, count, first]
    rfl
  · have high : code / 64 % 32 + 192 = 0xC0 + code / 64 := by omega
    rw [if_neg (by omega), if_pos upper, count, first, high]
    simp [laterBytes]
  · have high : code / 4096 % 16 + 224 = 0xE0 + code / 4096 := by omega
    rw [if_neg (by omega), if_neg (by omega), if_pos upper, count, first, high]
    simp [laterBytes]
  · have high : code / 262144 % 8 + 240 = 0xF0 + code / 262144 := by omega
    rw [if_neg (by omega), if_neg (by omega), if_neg (by omega), count, first, high]
    simp [laterBytes]

theorem firstByte_lt (c : Char) : firstByte c.toNat < 256 := by
  have bounded := toNat_lt c
  have shape := continuations_cases c.toNat
  omega

/-- The first byte grows with the code. Where it stays the same, so do the length of the character
and all that the first byte says of the code. -/
theorem firstByte_le {code later : Nat} (below : code < later) :
    firstByte code ≤ firstByte later ∧
      (firstByte code = firstByte later → continuations code = continuations later ∧
        code / 64 ^ continuations code = later / 64 ^ continuations code) := by
  have shape := continuations_cases code
  have laterShape := continuations_cases later
  constructor
  · omega
  · intro same
    have length : continuations code = continuations later := by omega
    refine ⟨length, ?_⟩
    rcases shape with ⟨-, count, first⟩ | ⟨-, -, count, first⟩ | ⟨-, -, count, first⟩ |
      ⟨-, count, first⟩
    · rw [count]
      omega
    · rw [count]
      omega
    · rw [count]
      omega
    · rw [count]
      omega

theorem cons_lt_cons {byte later : Nat} {rest laterRest : List UInt8} (ordered : byte ≤ later)
    (small : later < 256) (tied : byte = later → rest < laterRest) :
    UInt8.ofNat byte :: rest < UInt8.ofNat later :: laterRest := by
  rw [List.cons_lt_cons_iff]
  rcases Nat.lt_or_eq_of_le ordered with below | rfl
  · left
    rw [UInt8.lt_iff_toNat_lt, UInt8.toNat_ofNat', UInt8.toNat_ofNat']
    omega
  · exact Or.inr ⟨rfl, tied rfl⟩

theorem laterBytes_lt {count code later : Nat} (below : code < later)
    (same : code / 64 ^ count = later / 64 ^ count) (rest laterRest : List UInt8) :
    laterBytes count code ++ rest < laterBytes count later ++ laterRest := by
  induction count with
  | zero =>
      simp only [Nat.pow_zero, Nat.div_one] at same
      exact absurd same (Nat.ne_of_lt below)
  | succ count ih =>
      have ordered : code / 64 ^ count ≤ later / 64 ^ count :=
        Nat.div_le_div_right (Nat.le_of_lt below)
      have high : code / 64 ^ count / 64 = later / 64 ^ count / 64 := by
        rwa [Nat.div_div_eq_div_mul, Nat.div_div_eq_div_mul]
      refine cons_lt_cons (by omega) (by omega) fun tied => ih ?_
      omega

theorem utf8EncodeChar_lt {c d : Char} (below : c < d) (rest laterRest : List UInt8) :
    String.utf8EncodeChar c ++ rest < String.utf8EncodeChar d ++ laterRest := by
  have codes : c.toNat < d.toNat := UInt32.lt_iff_toNat_lt.mp (Char.lt_def.mp below)
  obtain ⟨ordered, tied⟩ := firstByte_le codes
  rw [utf8EncodeChar_eq, utf8EncodeChar_eq, List.cons_append, List.cons_append]
  refine cons_lt_cons ordered (firstByte_lt d) fun same => ?_
  obtain ⟨count, high⟩ := tied same
  rw [← count]
  exact laterBytes_lt codes high rest laterRest

end Text

namespace Terminal

theorem bytesOf_eq (text : String) : bytesOf text = text.toList.flatMap String.utf8EncodeChar := by
  have written : text.toUTF8 = (text.toList.flatMap String.utf8EncodeChar).toByteArray := by
    rw [String.toUTF8_eq_toByteArray, ← List.utf8Encode, ← String.toByteArray_ofList,
      String.ofList_toList]
  rw [bytesOf, written, List.data_toByteArray]

theorem bytesOf_lt {left right : String} (below : left < right) : bytesOf left < bytesOf right := by
  rw [bytesOf_eq, bytesOf_eq]
  have order : left.toList < right.toList := below
  generalize left.toList = leftChars at order ⊢
  generalize right.toList = rightChars at order ⊢
  induction leftChars generalizing rightChars with
  | nil =>
      cases rightChars with
      | nil => exact absurd order (List.lt_irrefl _)
      | cons d later =>
          rw [List.flatMap_cons, Text.utf8EncodeChar_eq]
          exact List.nil_lt_cons _ _
  | cons c rest ih =>
      cases rightChars with
      | nil => exact absurd order (List.not_lt_nil _)
      | cons d later =>
          rw [List.flatMap_cons, List.flatMap_cons]
          rcases List.cons_lt_cons_iff.mp order with below | ⟨rfl, below⟩
          · exact Text.utf8EncodeChar_lt below _ _
          · exact List.append_left_lt (ih _ below)

end Terminal

end TeachingShell
