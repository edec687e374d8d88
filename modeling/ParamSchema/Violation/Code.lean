/-!
# Violation codes

Every way in which a parameter definition or a value can be wrong, with the
stable name that it is reported under.
-/

set_option autoImplicit false

namespace ParamSchema

inductive NumberKind where
  | number
  | integer
  deriving DecidableEq

inductive ParameterFault where
  | notObject
  | missingName
  | requiredFlag
  deriving DecidableEq

inductive SchemaFault where
  | notObject
  | type
  | nullable
  | enum
  | oneOf
  | anyOf
  | allOf
  | combinator
  | depth
  | minLength
  | maxLength
  | pattern
  | stringFormat
  | defaultString
  | minimum
  | exclusiveMinimum
  | maximum
  | exclusiveMaximum
  | multipleOf
  | integerFormat
  | defaultInteger
  | defaultNumber
  | defaultBoolean
  | minItems
  | maxItems
  | uniqueItems
  | items
  | defaultArray
  | minProperties
  | maxProperties
  | required
  | properties
  | additionalProperties
  | defaultObject
  deriving DecidableEq

/-- What is wrong with a number, whichever numeric type is asked for. -/
inductive NumberFault where
  | type
  | minimum
  | exclusiveMinimum
  | maximum
  | exclusiveMaximum
  | multipleOf
  deriving DecidableEq

inductive ValueFault where
  | required
  | depth
  | oneOf
  | anyOf
  | allOf
  | enum
  | stringType
  | stringFormat
  | minLength
  | maxLength
  | pattern
  | numeric (kind : NumberKind) (fault : NumberFault)
  | integerFormat
  | booleanType
  | arrayType
  | minItems
  | maxItems
  | uniqueItems
  | objectType
  | minProperties
  | maxProperties
  | missingProperty
  | unknownProperty
  deriving DecidableEq

inductive Code where
  | parameter (fault : ParameterFault)
  | schema (fault : SchemaFault)
  | value (fault : ValueFault)
  deriving DecidableEq

def ParameterFault.name : ParameterFault → String
  | .notObject => "ERR_PARAM"
  | .missingName => "ERR_PARAM_NAME"
  | .requiredFlag => "ERR_PARAM_REQUIRED"

def ParameterFault.all : List ParameterFault := [.notObject, .missingName, .requiredFlag]

def SchemaFault.name : SchemaFault → String
  | .notObject => "ERR_SCHEMA"
  | .type => "ERR_SCHEMA_TYPE"
  | .nullable => "ERR_SCHEMA_NULLABLE"
  | .enum => "ERR_SCHEMA_ENUM"
  | .oneOf => "ERR_SCHEMA_ONE_OF"
  | .anyOf => "ERR_SCHEMA_ANY_OF"
  | .allOf => "ERR_SCHEMA_ALL_OF"
  | .combinator => "ERR_SCHEMA_COMBINATOR"
  | .depth => "ERR_SCHEMA_DEPTH"
  | .minLength => "ERR_SCHEMA_MIN_LENGTH"
  | .maxLength => "ERR_SCHEMA_MAX_LENGTH"
  | .pattern => "ERR_SCHEMA_PATTERN"
  | .stringFormat => "ERR_SCHEMA_FORMAT_STRING"
  | .defaultString => "ERR_SCHEMA_DEFAULT_STRING"
  | .minimum => "ERR_SCHEMA_MINIMUM"
  | .exclusiveMinimum => "ERR_SCHEMA_EXCLUSIVE_MINIMUM"
  | .maximum => "ERR_SCHEMA_MAXIMUM"
  | .exclusiveMaximum => "ERR_SCHEMA_EXCLUSIVE_MAXIMUM"
  | .multipleOf => "ERR_SCHEMA_MULTIPLE_OF"
  | .integerFormat => "ERR_SCHEMA_FORMAT_INTEGER"
  | .defaultInteger => "ERR_SCHEMA_DEFAULT_INTEGER"
  | .defaultNumber => "ERR_SCHEMA_DEFAULT_NUMBER"
  | .defaultBoolean => "ERR_SCHEMA_DEFAULT_BOOLEAN"
  | .minItems => "ERR_SCHEMA_MINITEMS"
  | .maxItems => "ERR_SCHEMA_MAXITEMS"
  | .uniqueItems => "ERR_SCHEMA_UNIQUE_ITEMS"
  | .items => "ERR_SCHEMA_ITEMS"
  | .defaultArray => "ERR_SCHEMA_DEFAULT_ARRAY"
  | .minProperties => "ERR_SCHEMA_MIN_PROPERTIES"
  | .maxProperties => "ERR_SCHEMA_MAX_PROPERTIES"
  | .required => "ERR_SCHEMA_REQUIRED"
  | .properties => "ERR_SCHEMA_PROPERTIES"
  | .additionalProperties => "ERR_SCHEMA_ADDITIONAL_PROPERTIES"
  | .defaultObject => "ERR_SCHEMA_DEFAULT_OBJECT"

def SchemaFault.all : List SchemaFault :=
  [.notObject, .type, .nullable, .enum, .oneOf, .anyOf, .allOf, .combinator, .depth,
    .minLength, .maxLength, .pattern, .stringFormat, .defaultString,
    .minimum, .exclusiveMinimum, .maximum, .exclusiveMaximum, .multipleOf, .integerFormat,
    .defaultInteger, .defaultNumber, .defaultBoolean,
    .minItems, .maxItems, .uniqueItems, .items, .defaultArray,
    .minProperties, .maxProperties, .required, .properties, .additionalProperties, .defaultObject]

def NumberKind.label : NumberKind → String
  | .number => "NUMBER"
  | .integer => "INTEGER"

def NumberFault.label : NumberFault → String
  | .type => "TYPE"
  | .minimum => "MINIMUM"
  | .exclusiveMinimum => "EXCLUSIVE_MINIMUM"
  | .maximum => "MAXIMUM"
  | .exclusiveMaximum => "EXCLUSIVE_MAXIMUM"
  | .multipleOf => "MULTIPLE_OF"

def ValueFault.name : ValueFault → String
  | .required => "ERR_VALUE_REQUIRED"
  | .depth => "ERR_VALUE_DEPTH"
  | .oneOf => "ERR_VALUE_ONE_OF"
  | .anyOf => "ERR_VALUE_ANY_OF"
  | .allOf => "ERR_VALUE_ALL_OF"
  | .enum => "ERR_VALUE_ENUM"
  | .stringType => "ERR_VALUE_STRING_TYPE"
  | .stringFormat => "ERR_VALUE_FORMAT_STRING"
  | .minLength => "ERR_VALUE_STRING_MIN_LENGTH"
  | .maxLength => "ERR_VALUE_STRING_MAX_LENGTH"
  | .pattern => "ERR_VALUE_STRING_PATTERN"
  | .numeric kind fault => "ERR_VALUE_" ++ kind.label ++ "_" ++ fault.label
  | .integerFormat => "ERR_VALUE_FORMAT_INTEGER"
  | .booleanType => "ERR_VALUE_BOOLEAN_TYPE"
  | .arrayType => "ERR_VALUE_ARRAY_TYPE"
  | .minItems => "ERR_VALUE_ARRAY_MIN_ITEMS"
  | .maxItems => "ERR_VALUE_ARRAY_MAX_ITEMS"
  | .uniqueItems => "ERR_VALUE_ARRAY_UNIQUEITEMS"
  | .objectType => "ERR_VALUE_OBJECT_TYPE"
  | .minProperties => "ERR_VALUE_OBJECT_MIN_PROPERTIES"
  | .maxProperties => "ERR_VALUE_OBJECT_MAX_PROPERTIES"
  | .missingProperty => "ERR_VALUE_OBJECT_REQUIRED"
  | .unknownProperty => "ERR_VALUE_OBJECT_ADDITIONAL_PROPERTIES"

def NumberFault.bounds : List NumberFault :=
  [.minimum, .exclusiveMinimum, .maximum, .exclusiveMaximum, .multipleOf]

def ValueFault.all : List ValueFault :=
  [.required, .depth, .oneOf, .anyOf, .allOf, .enum,
    .stringType, .stringFormat, .minLength, .maxLength, .pattern, .numeric .number .type]
  ++ NumberFault.bounds.map (.numeric .number)
  ++ [.numeric .integer .type, .integerFormat]
  ++ NumberFault.bounds.map (.numeric .integer)
  ++ [.booleanType, .arrayType, .minItems, .maxItems, .uniqueItems, .objectType,
    .minProperties, .maxProperties, .missingProperty, .unknownProperty]

namespace Code

def name : Code → String
  | .parameter fault => fault.name
  | .schema fault => fault.name
  | .value fault => fault.name

def category : Code → String
  | .parameter _ => "Param"
  | .schema _ => "Schema"
  | .value _ => "Value"

def all : List Code :=
  ParameterFault.all.map .parameter ++ SchemaFault.all.map .schema ++ ValueFault.all.map .value

def index (code : Code) : Nat := all.idxOf code

def ofName? (name : String) : Option Code := all.find? fun code => code.name == name

theorem mem_all (code : Code) : code ∈ all := by
  cases code with
  | parameter fault => cases fault <;> decide
  | schema fault => cases fault <;> decide
  | value fault =>
    cases fault with
    | numeric kind fault => cases kind <;> cases fault <;> decide
    | _ => decide

end Code

end ParamSchema
