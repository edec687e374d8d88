import ParamSchema.Validation.Rules

/-!
# Validation

Checks a value against a schema and gives the value back with the defaults of
absent members filled in. A combinator counts the members that accept the
value, whatever the others find wrong, and gives the value back as it is.

An absent value is not null: only an absent one is replaced by a default, and
only null is accepted for being nullable.
-/

set_option autoImplicit false

namespace ParamSchema

namespace Validation

def checkDepth (limit : Option Nat) (depth : Nat) : Except Flaw Unit :=
  obey limit (depth ≤ ·) .depth "maxDepth" toString

/-- Accepts null for a nullable leaf; any other value has to be among the listed ones, if there
are any, and to pass the rest. -/
def unlessNull (common : Common) (value : Json) (rest : Except Flaw Json) : Except Flaw Json :=
  if common.nullable && value.isNull then .ok .null
  else do
    checkChoices common value
    rest

def inside {α : Type} (step : Step) (result : Except Flaw α) : Except Flaw α :=
  result.mapError (Flaw.under step)

def checkItems (check : Json → Except Flaw Json) (index : Nat) :
    List Json → Except Flaw (List Json)
  | [] => .ok []
  | item :: rest => do
    let first ← inside (.item index) (check item)
    return first :: (← checkItems check (index + 1) rest)

def checkMembers (check : Json → Except Flaw Json) :
    List (String × Json) → Except Flaw (List (String × Json))
  | [] => .ok []
  | (key, value) :: rest => do
    let first ← inside (.member key) (check value)
    return (key, first) :: (← checkMembers check rest)

def undeclared (properties : List (String × Schema)) (members : List (String × Json)) :
    List (String × Json) :=
  members.filter fun member => !Members.contains properties member.1

def checkRefused : Extra Schema → List (String × Json) → Except Flaw Unit
  | .refused, (key, _) :: _ => reject .unknownProperty [("unknownPropertyName", key)]
  | _, _ => .ok ()

mutual

def check (limit : Option Nat) (depth : Nat) : Schema → Json → Except Flaw Json
  | .combined combinator members, value => do
    checkDepth limit depth
    if combinator.isSatisfied (countPassing limit (depth + 1) members value) members.length then
      .ok value
    else reject combinator.valueFault
  | .string common rules, value => do
    checkDepth limit depth
    unlessNull common value <| match value with
      | .string text => do checkString rules text; return value
      | _ => reject .stringType
  | .numeric common type rules, value => do
    checkDepth limit depth
    unlessNull common value <|
      match value.binary64?.filter fun x => type.kind == .number || x.isIntegral with
      | some x => do checkNumber type rules x; return value
      | none => reject (.numeric type.kind .type)
  | .boolean common, value => do
    checkDepth limit depth
    unlessNull common value <| match value with
      | .bool _ => .ok value
      | _ => reject .booleanType
  | .array common rules items, value => do
    checkDepth limit depth
    unlessNull common value <| match value with
      | .array list => do
        checkArray rules list
        return .array (← checkItems (check limit (depth + 1) items) 0 list)
      | _ => reject .arrayType
  | .object common rules, value => do
    checkDepth limit depth
    unlessNull common value <| match value with
      | .object members => do checkObject rules members; return value
      | _ => reject .objectType
  | .record common rules properties extra, value => do
    checkDepth limit depth
    unlessNull common value <| match value with
      | .object members => do
        checkObject rules members
        let others := undeclared properties members
        checkRefused extra others
        let declared ← checkProperties limit (depth + 1) properties members
        return .object (declared ++ (← checkExtra limit (depth + 1) extra others))
      | _ => reject .objectType

def countPassing (limit : Option Nat) (depth : Nat) : List Schema → Json → Nat
  | [], _ => 0
  | member :: rest, value =>
    -- A member that finds the value too deep does not accept it, like any other that fails.
    (match check limit depth member value with
      | .ok _ => 1
      | .error _ => 0) + countPassing limit depth rest value

/-- The declared members: those that are there, checked, and the defaults of those that are
not. -/
def checkProperties (limit : Option Nat) (depth : Nat) :
    List (String × Schema) → List (String × Json) → Except Flaw (List (String × Json))
  | [], _ => .ok []
  | (name, property) :: rest, members => do
    let first ← match members.lookup name with
      | some value => (inside (.member name) (check limit depth property value)).map some
      | none => .ok property.default?
    let others ← checkProperties limit depth rest members
    return first.elim others fun value => (name, value) :: others

def checkExtra (limit : Option Nat) (depth : Nat) :
    Extra Schema → List (String × Json) → Except Flaw (List (String × Json))
  | .matching schema, others => checkMembers (check limit depth schema) others
  | _, others => .ok others

end

end Validation

namespace Schema

/-- Checks a value that may be absent. Without a limit nesting is free. -/
def validate (limit : Option Nat) (schema : Schema) (required : Bool) :
    Option Json → Except Flaw (Option Json)
  | some value => (Validation.check limit 1 schema value).map some
  | none => if required then Validation.reject .required else .ok schema.default?

end Schema

end ParamSchema
