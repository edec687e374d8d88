import ParamSchema.Json.Equality
import ParamSchema.Schema.Basic
import ParamSchema.Settings
import ParamSchema.Traced
import ParamSchema.Violation.Basic

/-!
# Reading schemas

Turns the JSON form of a schema into a schema. Keywords are looked at in a
fixed order and the first flaw ends the reading. A keyword that does not
belong to the type of a leaf, or that stands beside a combinator, is not
looked at.
-/

set_option autoImplicit false

namespace ParamSchema

/-- A schema with several combinators, of which only one is honoured. -/
structure Ambiguity where
  steps : List Step
  honored : Combinator
  ignored : List Combinator
  deriving DecidableEq

namespace Ambiguity

def under (step : Step) (ambiguity : Ambiguity) : Ambiguity :=
  { ambiguity with steps := step :: ambiguity.steps }

end Ambiguity

namespace Schema

abbrev Reading (α : Type) := Traced Ambiguity Flaw α

abbrev Source := List (String × Json)

namespace Reading

variable {α β : Type}

def reject (fault : SchemaFault) (params : List (String × String) := []) : Reading α :=
  .fail ⟨[], .schema fault, params⟩

def inside (step : Step) (reading : Reading α) : Reading α :=
  reading.mapBoth (Ambiguity.under step) (Flaw.under step)

def items (read : Json → Reading α) (index : Nat) : List Json → Reading (List α)
  | [] => pure []
  | item :: rest => do
    let first ← inside (.item index) (read item)
    return first :: (← items read (index + 1) rest)

def members (read : Json → Reading α) : Source → Reading (List (String × α))
  | [] => pure []
  | (key, value) :: rest => do
    let first ← inside (.member key) (read value)
    return (key, first) :: (← members read rest)

end Reading

def keyword? {α : Type} (source : Source) (key : String) (fault : SchemaFault)
    (read : Json → Option α) : Except Flaw (Option α) :=
  match source.lookup key with
  | none => .ok none
  | some value =>
    match read value with
    | some x => .ok (some x)
    | none => .error ⟨[.member key], .schema fault, []⟩

def flag (source : Source) (key : String) (fault : SchemaFault) : Except Flaw Bool :=
  return (← keyword? source key fault Json.bool?).getD false

/-- Listed values: some of the right type, no two of them the same. -/
def choices? (type : ValueType) (value : Json) : Option (List Json) :=
  value.items?.filter fun items =>
    type.isScalar && !items.isEmpty && Json.allDistinct items && items.all type.admits

def stringRules (source : Source) : Except Flaw StringRules := do
  let minLength ← keyword? source "minLength" .minLength Json.count?
  let maxLength ← keyword? source "maxLength" .maxLength Json.count?
  let pattern ← keyword? source "pattern" .pattern fun value =>
    value.string?.bind Pattern.compile?
  let format ← keyword? source "format" .stringFormat fun value =>
    value.string?.bind StringFormat.ofName?
  return { minLength, maxLength, pattern, format }

/-- A bound; the flag that excludes it counts only together with it. -/
def bound (source : Source) (key flagKey : String) (fault flagFault : SchemaFault) :
    Except Flaw (Option Bound) := do
  match ← keyword? source key fault Json.binary64? with
  | none => return none
  | some value => return some ⟨value, ← flag source flagKey flagFault⟩

def positive? (value : Json) : Option Binary64 :=
  value.binary64?.filter fun x => decide (0 < x.signedUnits)

def numberRules (source : Source) : Except Flaw NumberRules := do
  let minimum ← bound source "minimum" "exclusiveMinimum" .minimum .exclusiveMinimum
  let maximum ← bound source "maximum" "exclusiveMaximum" .maximum .exclusiveMaximum
  let multipleOf ← keyword? source "multipleOf" .multipleOf positive?
  return { minimum, maximum, multipleOf }

def integerFormat (source : Source) : Except Flaw (Option IntegerFormat) :=
  keyword? source "format" .integerFormat fun value => value.string?.bind IntegerFormat.ofName?

def arrayRules (source : Source) : Except Flaw ArrayRules := do
  let minItems ← keyword? source "minItems" .minItems Json.count?
  let maxItems ← keyword? source "maxItems" .maxItems Json.count?
  let uniqueItems ← flag source "uniqueItems" .uniqueItems
  return { minItems, maxItems, uniqueItems }

def positiveCount? (value : Json) : Option Nat := value.count?.filter fun n => decide (0 < n)

def names? (value : Json) : Option (List String) :=
  (value.items?.filter fun items => !items.isEmpty).bind fun items => items.mapM Json.string?

def objectRules (source : Source) : Except Flaw ObjectRules := do
  let minProperties ← keyword? source "minProperties" .minProperties positiveCount?
  let maxProperties ← keyword? source "maxProperties" .maxProperties positiveCount?
  let required ← keyword? source "required" .required names?
  return { minProperties, maxProperties, required := required.getD [] }

/-- Refuses required names that are not declared, if the settings ask for it. -/
def checkRequired (settings : Settings) (rules : ObjectRules) (declared : List String) :
    Except Flaw Unit :=
  if settings.strictRequired && !rules.required.all declared.contains then
    .error ⟨[.member "required"], .schema .required, []⟩
  else .ok ()

def defaultValue (source : Source) (type : ValueType) : Except Flaw (Option Json) :=
  keyword? source "default" type.defaultFault fun value =>
    if type.admits value then some value else none

def readExtra (read : Json → Reading Schema) (source : Source) : Reading (Extra Schema) :=
  match source.lookup "additionalProperties" with
  | none => pure .allowed
  | some value => Reading.inside (.member "additionalProperties") <|
    if !Members.contains source "properties" then Reading.reject .additionalProperties
    else match value with
      | .bool allowed => pure (if allowed then .allowed else .refused)
      | .object _ => return .matching (← read value)
      | _ => Reading.reject .additionalProperties

def readProperties (read : Json → Reading Schema) (source : Source) :
    Reading (Option (List (String × Schema))) :=
  match source.lookup "properties" with
  | none => pure none
  | some value => Reading.inside (.member "properties") <|
    match value with
    | .object properties => return some (← Reading.members read properties)
    | _ => Reading.reject .properties

def readItems (read : Json → Reading Schema) (source : Source) : Reading Schema :=
  Reading.inside (.member "items") <|
    match source.lookup "items" with
    | some (.object members) => read (.object members)
    | _ => Reading.reject .items

def readKind (settings : Settings) (read : Json → Reading Schema) (source : Source)
    (type : ValueType) : Reading (Common → Schema) :=
  match type with
  | .string => do
    let rules ← stringRules source
    return fun common => .string common rules
  | .numeric .number => do
    let rules ← numberRules source
    return fun common => .numeric common .number rules
  | .numeric .integer => do
    let rules ← numberRules source
    let format ← integerFormat source
    return fun common => .numeric common (.integer format) rules
  | .boolean => return fun common => .boolean common
  | .array => do
    let rules ← arrayRules source
    let items ← readItems read source
    return fun common => .array common rules items
  | .object => do
    let rules ← objectRules source
    let extra ← readExtra read source
    match ← readProperties read source with
    | none =>
      checkRequired settings rules []
      return fun common => .object common rules
    | some properties =>
      checkRequired settings rules (Members.keys properties)
      return fun common => .record common rules properties extra

def readLeaf (settings : Settings) (read : Json → Reading Schema) (source : Source) :
    Reading Schema := do
  match ← keyword? source "type" .type fun value => value.string?.bind ValueType.ofName? with
  | none => Reading.inside (.member "type") (Reading.reject .type)
  | some type =>
    let nullable ← flag source "nullable" .nullable
    let choices ← keyword? source "enum" .enum (choices? type)
    let leaf ← readKind settings read source type
    let default ← defaultValue source type
    return leaf { nullable, choices, default }

def combinators (source : Source) : List Combinator :=
  Combinator.all.filter fun combinator => Members.contains source combinator.keyword

/-- Refuses or reports the combinators that are not honoured. -/
def checkIgnored (settings : Settings) (honored : Combinator) : List Combinator → Reading Unit
  | [] => pure ()
  | first :: rest =>
    if settings.strictCombinators then
      Reading.inside (.member first.keyword) (Reading.reject .combinator)
    else .report ⟨[], honored, first :: rest⟩

def readMembers (read : Json → Reading Schema) (source : Source) (combinator : Combinator) :
    Reading Schema :=
  Reading.inside (.member combinator.keyword) <|
    match source.lookup combinator.keyword with
    | some (.array (first :: rest)) =>
      return .combined combinator (← Reading.items read 0 (first :: rest))
    | _ => Reading.reject combinator.schemaFault

/-- Reads a schema of at most so many levels. -/
def readLevels (settings : Settings) : Nat → Json → Reading Schema
  | 0, _ => Reading.reject .depth [("maxDepth", toString settings.maxDepth)]
  | levels + 1, .object source =>
    match combinators source with
    | [] => readLeaf settings (readLevels settings levels) source
    | combinator :: ignored => do
      checkIgnored settings combinator ignored
      readMembers (readLevels settings levels) source combinator
  | _ + 1, _ => Reading.reject .notObject

def ofJson (settings : Settings) (raw : Json) : Reading Schema :=
  readLevels settings settings.maxDepth raw

end Schema

end ParamSchema
