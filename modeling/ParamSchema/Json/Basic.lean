import ParamSchema.Json.Number
import ParamSchema.Members

/-!
# JSON values

Objects keep their members in order. A value as written may repeat a key; in a
value as meant none does, which is what `KeysDistinct` says.
-/

set_option autoImplicit false

namespace ParamSchema

inductive Json where
  | null
  | bool (value : Bool)
  | number (value : Number)
  | string (value : String)
  | array (items : List Json)
  | object (members : List (String × Json))

namespace Json

mutual

/-- No object anywhere in the value repeats a key. -/
def KeysDistinct : Json → Prop
  | .null | .bool _ | .number _ | .string _ => True
  | .array items => KeysDistinctItems items
  | .object members => (Members.keys members).Nodup ∧ KeysDistinctMembers members

def KeysDistinctItems : List Json → Prop
  | [] => True
  | item :: rest => KeysDistinct item ∧ KeysDistinctItems rest

def KeysDistinctMembers : List (String × Json) → Prop
  | [] => True
  | (_, value) :: rest => KeysDistinct value ∧ KeysDistinctMembers rest

end

mutual

/-- The value with repeated keys merged: the last value stands at the first position. -/
def merge : Json → Json
  | .array items => .array (mergeItems items)
  | .object members => .object (mergeMembers [] members)
  | value => value

def mergeItems : List Json → List Json
  | [] => []
  | item :: rest => merge item :: mergeItems rest

def mergeMembers (merged : List (String × Json)) : List (String × Json) → List (String × Json)
  | [] => merged
  | (key, value) :: rest => mergeMembers (Members.insert key (merge value) merged) rest

end

def isNull : Json → Bool
  | .null => true
  | _ => false

def bool? : Json → Option Bool
  | .bool value => some value
  | _ => none

def string? : Json → Option String
  | .string value => some value
  | _ => none

theorem string?_eq_some_iff {value : Json} {text : String} :
    value.string? = some text ↔ value = .string text := by
  cases value <;> simp [string?]

def items? : Json → Option (List Json)
  | .array items => some items
  | _ => none

def members? : Json → Option (List (String × Json))
  | .object members => some members
  | _ => none

theorem members?_eq_some_iff {value : Json} {members : List (String × Json)} :
    value.members? = some members ↔ value = .object members := by
  cases value <;> simp [members?]

def binary64? : Json → Option Binary64
  | .number value => some value.toBinary64
  | _ => none

def integral? (value : Json) : Option Binary64 := value.binary64?.filter Binary64.isIntegral

def maxCount : Nat := 2 ^ (64 : Nat) - 1

/-- The count a non-negative integral number stands for; larger ones stand for the largest. -/
def count? (value : Json) : Option Nat :=
  (value.integral?.filter fun x => decide (0 ≤ x.signedUnits)).map fun x => min x.wholePart maxCount

def ofCount (count : Nat) : Json :=
  .number (if inRange : Number.InRange count then .integer count inRange
    else .integer maxCount (by decide))

end Json

end ParamSchema
