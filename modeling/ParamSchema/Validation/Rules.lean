import ParamSchema.Binary64.Divisibility
import ParamSchema.Json.Equality
import ParamSchema.Json.Printer
import ParamSchema.Schema.Basic
import ParamSchema.Text.Hex
import ParamSchema.Violation.Basic

/-!
# Rules on single values

The checks of a leaf that do not look at other schemas. They run in a fixed
order, and the first one that fails is reported.
-/

set_option autoImplicit false

namespace ParamSchema.Validation

def reject {α : Type} (fault : ValueFault) (params : List (String × String) := []) :
    Except Flaw α :=
  .error ⟨[], .value fault, params⟩

/-- A rule that may be absent; its parameter is reported where it fails. -/
def obey {α : Type} (rule : Option α) (holds : α → Bool) (fault : ValueFault) (key : String)
    (text : α → String) : Except Flaw Unit :=
  match rule with
  | none => .ok ()
  | some x => if holds x then .ok () else reject fault [(key, text x)]

def checkString (rules : StringRules) (text : String) : Except Flaw Unit := do
  obey rules.format (·.accepts text) .stringFormat "format" StringFormat.name
  obey rules.minLength (· ≤ Text.units16 text) .minLength "minLength" toString
  obey rules.maxLength (Text.units16 text ≤ ·) .maxLength "maxLength" toString
  obey rules.pattern (·.isMatch text) .pattern "pattern" Pattern.text

def checkNumber (type : NumericType) (rules : NumberRules) (x : Binary64) : Except Flaw Unit := do
  let fault := ValueFault.numeric type.kind
  let boundText (bound : Bound) := bound.value.canonicalText
  obey type.format? (·.accepts x) .integerFormat "format" IntegerFormat.name
  obey rules.minimum (fun b => !x.lessThan b.value) (fault .minimum) "minimum" boundText
  obey rules.minimum (fun b => !(b.exclusive && x.sameValue b.value)) (fault .exclusiveMinimum)
    "minimum" boundText
  obey rules.maximum (fun b => !b.value.lessThan x) (fault .maximum) "maximum" boundText
  obey rules.maximum (fun b => !(b.exclusive && x.sameValue b.value)) (fault .exclusiveMaximum)
    "maximum" boundText
  obey rules.multipleOf x.isMultipleOf (fault .multipleOf) "multipleOf" Binary64.canonicalText

/-- The number of items, and that no two are the same. -/
def checkArray (rules : ArrayRules) (items : List Json) : Except Flaw Unit := do
  obey rules.minItems (· ≤ items.length) .minItems "minItems" toString
  obey rules.maxItems (items.length ≤ ·) .maxItems "maxItems" toString
  if rules.uniqueItems && !Json.allDistinct items then reject .uniqueItems

def checkObject (rules : ObjectRules) (members : List (String × Json)) : Except Flaw Unit := do
  obey rules.minProperties (· ≤ members.length) .minProperties "minProperties" toString
  obey rules.maxProperties (members.length ≤ ·) .maxProperties "maxProperties" toString
  obey (rules.required.find? fun name => !Members.contains members name) (fun _ => false)
    .missingProperty "missingPropertyName" id

def checkChoices (common : Common) (value : Json) : Except Flaw Unit :=
  obey common.choices (·.any (Json.same · value)) .enum "enumList" fun list =>
    (Json.array list).write

end ParamSchema.Validation
