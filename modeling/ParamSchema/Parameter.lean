import ParamSchema.Event
import ParamSchema.Schema.Equality
import ParamSchema.Schema.Printer

/-!
# Parameters

A parameter has a name and a schema, and is required or not.
-/

set_option autoImplicit false

namespace ParamSchema

structure Parameter where
  name : String
  required : Bool
  schema : Schema

namespace Parameter

def root : Path := ⟨"parameter", []⟩

def reject {α : Type} (steps : List Step) (fault : ParameterFault) : Except Violation α :=
  .error ((⟨steps, .parameter fault, []⟩ : Flaw).seenFrom root)

def readEnvelope (members : List (String × Json)) : Except Violation (String × Bool) := do
  let name ← match members.lookup "name" with
    | some (.string name) => if name.isEmpty then reject [.member "name"] .missingName else .ok name
    | _ => reject [.member "name"] .missingName
  match members.lookup "required" with
  | none => return (name, false)
  | some (.bool required) => return (name, required)
  | some _ => reject [.member "required"] .requiredFlag

/-- Reads a definition. A schema that is left out counts as null. -/
def ofJson (settings : Settings) : Json → Traced Event Violation Parameter
  | .object members => do
    let (name, required) ← readEnvelope members
    let schema ← Schema.readAt (root.member "schema") settings
      ((members.lookup "schema").getD .null)
    Traced.report (.parameterBuilt name required)
    return ⟨name, required, schema⟩
  | _ => Traced.ofExcept (reject [] .notObject)

def toJson (parameter : Parameter) : Json :=
  .object [("name", .string parameter.name), ("required", .bool parameter.required),
    ("schema", parameter.schema.toJson)]

def same (a b : Parameter) : Bool :=
  a.name == b.name && a.required == b.required && a.schema.same b.schema

def check (parameter : Parameter) (limit : Option Nat) (value : Option Json) :
    Traced Event Violation (Option Json) :=
  Schema.checkAt ⟨parameter.name, []⟩ limit parameter.schema parameter.required value

end Parameter

end ParamSchema
