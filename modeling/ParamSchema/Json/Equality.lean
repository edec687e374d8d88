import ParamSchema.Json.Basic

/-!
# Equality of JSON values

Two equalities that differ on numbers only: `same` compares values, `identical`
compares numbers as written. Both take objects as unordered.
-/

set_option autoImplicit false

namespace ParamSchema.Json

section

variable (agree : Number → Number → Bool)

mutual

/-- Equality up to the order of object members, with numbers compared by `agree`. -/
def equalBy : Json → Json → Bool
  | .null, .null => true
  | .bool a, .bool b => a == b
  | .number a, .number b => agree a b
  | .string a, .string b => a == b
  | .array as, .array bs => equalItemsBy as bs
  | .object as, .object bs => as.length == bs.length && equalMembersBy as bs
  | _, _ => false

def equalItemsBy : List Json → List Json → Bool
  | [], [] => true
  | a :: as, b :: bs => equalBy a b && equalItemsBy as bs
  | _, _ => false

def equalMembersBy : List (String × Json) → List (String × Json) → Bool
  | [], _ => true
  | (key, a) :: as, bs =>
    (match bs.lookup key with
      | some b => equalBy a b
      | none => false) && equalMembersBy as bs

end

end

def same (a b : Json) : Bool := equalBy Number.sameValue a b

/-- Equality with numbers compared as written. -/
def identical (a b : Json) : Bool := equalBy Number.identical a b

def allDistinct : List Json → Bool
  | [] => true
  | item :: rest => rest.all (fun other => !same item other) && allDistinct rest

end ParamSchema.Json
