import ParamSchema.Format.Basic
import ParamSchema.Json.Basic
import ParamSchema.Pattern.Basic
import ParamSchema.Violation.Code

/-!
# Schemas

A schema in canonical form: a combinator over members, or a leaf with one
type. What a type cannot have cannot be written: only integers have an integer
format, and only a record, an object with declared properties, has a rule for
the others.
-/

set_option autoImplicit false

namespace ParamSchema

inductive Combinator where
  | oneOf
  | anyOf
  | allOf
  deriving DecidableEq

namespace Combinator

/-- All combinators; of several in one schema the first counts. -/
def all : List Combinator := [oneOf, anyOf, allOf]

def keyword : Combinator → String
  | .oneOf => "oneOf"
  | .anyOf => "anyOf"
  | .allOf => "allOf"

def schemaFault : Combinator → SchemaFault
  | .oneOf => .oneOf
  | .anyOf => .anyOf
  | .allOf => .allOf

def valueFault : Combinator → ValueFault
  | .oneOf => .oneOf
  | .anyOf => .anyOf
  | .allOf => .allOf

def isSatisfied (passed total : Nat) : Combinator → Bool
  | .oneOf => passed == 1
  | .anyOf => decide (1 ≤ passed)
  | .allOf => passed == total

end Combinator

inductive ValueType where
  | string
  | numeric (kind : NumberKind)
  | boolean
  | array
  | object
  deriving DecidableEq

namespace ValueType

def name : ValueType → String
  | .string => "string"
  | .numeric .number => "number"
  | .numeric .integer => "integer"
  | .boolean => "boolean"
  | .array => "array"
  | .object => "object"

def all : List ValueType :=
  [string, numeric .number, numeric .integer, boolean, array, object]

def ofName? (name : String) : Option ValueType := all.find? fun type => type.name == name

def isScalar : ValueType → Bool
  | .array | .object => false
  | _ => true

/-- Whether a value has the type; an integer is a number without fraction. -/
def admits : ValueType → Json → Bool
  | .string, value => value.string?.isSome
  | .numeric .number, value => value.binary64?.isSome
  | .numeric .integer, value => value.integral?.isSome
  | .boolean, value => value.bool?.isSome
  | .array, value => value.items?.isSome
  | .object, value => value.members?.isSome

def typeFault : ValueType → ValueFault
  | .string => .stringType
  | .numeric kind => .numeric kind .type
  | .boolean => .booleanType
  | .array => .arrayType
  | .object => .objectType

def defaultFault : ValueType → SchemaFault
  | .string => .defaultString
  | .numeric .number => .defaultNumber
  | .numeric .integer => .defaultInteger
  | .boolean => .defaultBoolean
  | .array => .defaultArray
  | .object => .defaultObject

end ValueType

/-- What leaves of every type can have. -/
structure Common where
  nullable : Bool := false
  choices : Option (List Json) := none
  default : Option Json := none

structure StringRules where
  minLength : Option Nat := none
  maxLength : Option Nat := none
  pattern : Option Pattern := none
  format : Option StringFormat := none

structure Bound where
  value : Binary64
  exclusive : Bool := false
  deriving DecidableEq

structure NumberRules where
  minimum : Option Bound := none
  maximum : Option Bound := none
  multipleOf : Option Binary64 := none
  deriving DecidableEq

inductive NumericType where
  | number
  | integer (format : Option IntegerFormat)
  deriving DecidableEq

namespace NumericType

def kind : NumericType → NumberKind
  | .number => .number
  | .integer _ => .integer

def format? : NumericType → Option IntegerFormat
  | .number => none
  | .integer format => format

end NumericType

structure ArrayRules where
  minItems : Option Nat := none
  maxItems : Option Nat := none
  uniqueItems : Bool := false
  deriving DecidableEq

structure ObjectRules where
  minProperties : Option Nat := none
  maxProperties : Option Nat := none
  required : List String := []
  deriving DecidableEq

/-- What becomes of the members of a record that are not declared. -/
inductive Extra (α : Type) where
  | allowed
  | refused
  | matching (schema : α)

inductive Schema where
  | combined (combinator : Combinator) (members : List Schema)
  | string (common : Common) (rules : StringRules)
  | numeric (common : Common) (type : NumericType) (rules : NumberRules)
  | boolean (common : Common)
  | array (common : Common) (rules : ArrayRules) (items : Schema)
  | object (common : Common) (rules : ObjectRules)
  | record (common : Common) (rules : ObjectRules) (properties : List (String × Schema))
      (extra : Extra Schema)

namespace Schema

def common? : Schema → Option Common
  | .combined _ _ => none
  | .string c _ | .numeric c _ _ | .boolean c | .array c _ _ | .object c _ | .record c _ _ _ => some c

def type? : Schema → Option ValueType
  | .combined _ _ => none
  | .string _ _ => some .string
  | .numeric _ type _ => some (.numeric type.kind)
  | .boolean _ => some .boolean
  | .array _ _ _ => some .array
  | .object _ _ | .record _ _ _ _ => some .object

def default? (schema : Schema) : Option Json := schema.common?.bind Common.default

def declares (key : String) : Schema → Bool
  | .record _ _ properties _ => Members.contains properties key
  | _ => false

/-- A leaf of a type that allows every value of it; arrays are of booleans. -/
def ofType : ValueType → Schema
  | .string => .string {} {}
  | .numeric .number => .numeric {} .number {}
  | .numeric .integer => .numeric {} (.integer none) {}
  | .boolean => .boolean {}
  | .array => .array {} {} (.boolean {})
  | .object => .object {} {}

end Schema

end ParamSchema
