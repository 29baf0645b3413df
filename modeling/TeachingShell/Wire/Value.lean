/-!
Structured values as a host program exchanges them, and the reading of single fields.
-/

namespace TeachingShell.Wire

inductive Value where
  | null
  | bool (value : Bool)
  | integer (value : Int)
  /-- A number that is not written as an integer. -/
  | fraction (digits : String)
  | string (text : String)
  | array (items : List Value)
  | object (fields : List (String × Value))
deriving Inhabited

namespace Value

def string? : Value → Option String
  | string text => some text
  | _ => none

def signed? : Value → Option Int64
  | integer value =>
      if Int64.minValue.toInt ≤ value ∧ value ≤ Int64.maxValue.toInt then some (Int64.ofInt value)
      else none
  | _ => none

def unsigned? : Value → Option UInt64
  | integer value =>
      if 0 ≤ value ∧ value < UInt64.size then some (UInt64.ofNat value.toNat) else none
  | _ => none

def field? (fields : List (String × Value)) (name : String) : Option Value :=
  match fields.filter fun field => field.1 = name with
  | [(_, value)] => some value
  | _ => none

/-- The values of a record with the given fields, in that order. An object may hold further fields;
an array holds exactly the values. -/
def record? (names : List String) : Value → Option (List Value)
  | array items => if items.length = names.length then some items else none
  | object fields => names.mapM (field? fields)
  | _ => none

@[simp] theorem signed?_integer (value : Int64) : signed? (integer value.toInt) = some value := by
  rw [signed?, if_pos ⟨value.minValue_le_toInt, value.toInt_le⟩, Int64.ofInt_toInt]

@[simp] theorem unsigned?_integer (value : UInt64) :
    unsigned? (integer value.toNat) = some value := by
  have bound := value.toNat_lt_size
  rw [unsigned?, if_pos (by omega), Int.toNat_natCast, UInt64.ofNat_toNat]

end Value

end TeachingShell.Wire
