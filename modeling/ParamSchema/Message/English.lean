import ParamSchema.Violation.Code

/-!
# English messages

The message template of every code.
-/

set_option autoImplicit false

namespace ParamSchema.Message

def english : Code → String
  | .parameter .notObject => "The `{{name}}` must be an object."
  | .parameter .missingName => "The `{{name}}` must be a non-empty string."
  | .parameter .requiredFlag => "The `{{name}}` must be a boolean."
  | .schema .notObject => "The `{{name}}` must be an object."
  | .schema .type =>
    "The `{{name}}` must be one of `string`, `number`, `integer`, `boolean`, `array`, or `object`."
  | .schema .nullable => "The `{{name}}` must be a boolean."
  | .schema .enum =>
    "The `{{name}}` must be a non-empty array of unique values matching the `type`, and is only allowed for `string`, `number`, `integer`, and `boolean`."
  | .schema .oneOf => "The `{{name}}` must be a non-empty array of schema objects."
  | .schema .anyOf => "The `{{name}}` must be a non-empty array of schema objects."
  | .schema .allOf => "The `{{name}}` must be a non-empty array of schema objects."
  | .schema .combinator =>
    "The `{{name}}` can not be combined with another of `oneOf`, `anyOf`, or `allOf`."
  | .schema .depth => "The `{{name}}` is nested deeper than {{maxDepth}} levels."
  | .schema .minLength => "The `{{name}}` must be an integer greater than or equal to 0."
  | .schema .maxLength => "The `{{name}}` must be an integer greater than or equal to 0."
  | .schema .pattern => "The `{{name}}` must be a valid regular expression."
  | .schema .stringFormat => "The `{{name}}` must be one of `date-time`, `date`, `time`, or `byte`."
  | .schema .defaultString => "The `{{name}}` must be a string."
  | .schema .minimum => "The `{{name}}` must be a number."
  | .schema .exclusiveMinimum => "The `{{name}}` must be a boolean."
  | .schema .maximum => "The `{{name}}` must be a number."
  | .schema .exclusiveMaximum => "The `{{name}}` must be a boolean."
  | .schema .multipleOf => "The `{{name}}` must be a number greater than 0."
  | .schema .integerFormat => "The `{{name}}` must be `int32` or `int64`."
  | .schema .defaultInteger => "The `{{name}}` must be an integer."
  | .schema .defaultNumber => "The `{{name}}` must be a number."
  | .schema .defaultBoolean => "The `{{name}}` must be a boolean."
  | .schema .minItems => "The `{{name}}` must be an integer greater than or equal to 0."
  | .schema .maxItems => "The `{{name}}` must be an integer greater than or equal to 0."
  | .schema .uniqueItems => "The `{{name}}` must be a boolean."
  | .schema .items => "The `{{name}}` is required and must be a schema object."
  | .schema .defaultArray => "The `{{name}}` must be an array."
  | .schema .minProperties => "The `{{name}}` must be an integer greater than 0."
  | .schema .maxProperties => "The `{{name}}` must be an integer greater than 0."
  | .schema .required => "The `{{name}}` must be a non-empty array of property names."
  | .schema .properties => "The `{{name}}` must be an object."
  | .schema .additionalProperties =>
    "The `{{name}}` must be a boolean or a schema object, and requires `properties`."
  | .schema .defaultObject => "The `{{name}}` must be an object."
  | .value .required => "The `{{name}}` is required."
  | .value .depth => "The `{{name}}` is nested deeper than {{maxDepth}} levels."
  | .value .oneOf => "The `{{name}}` must match exactly one of the schemas."
  | .value .anyOf => "The `{{name}}` must match at least one of the schemas."
  | .value .allOf => "The `{{name}}` must match all of the schemas."
  | .value .enum => "The `{{name}}` must be one of {{enumList}}."
  | .value .stringType => "The `{{name}}` must be a string."
  | .value .stringFormat => "The `{{name}}` must be in the `{{format}}` format."
  | .value .minLength =>
    "The length of the `{{name}}` must be greater than or equal to {{minLength}}."
  | .value .maxLength => "The length of the `{{name}}` must be less than or equal to {{maxLength}}."
  | .value .pattern => "The `{{name}}` must match the pattern {{pattern}}."
  | .value (.numeric .number .type) => "The `{{name}}` must be a number."
  | .value (.numeric .number .minimum) =>
    "The `{{name}}` must be greater than or equal to {{minimum}}."
  | .value (.numeric .number .exclusiveMinimum) =>
    "The `{{name}}` must be greater than {{minimum}}."
  | .value (.numeric .number .maximum) =>
    "The `{{name}}` must be less than or equal to {{maximum}}."
  | .value (.numeric .number .exclusiveMaximum) => "The `{{name}}` must be less than {{maximum}}."
  | .value (.numeric .number .multipleOf) => "The `{{name}}` must be a multiple of {{multipleOf}}."
  | .value (.numeric .integer .type) => "The `{{name}}` must be an integer."
  | .value .integerFormat => "The `{{name}}` must be in the range of `{{format}}`."
  | .value (.numeric .integer .minimum) =>
    "The `{{name}}` must be greater than or equal to {{minimum}}."
  | .value (.numeric .integer .exclusiveMinimum) =>
    "The `{{name}}` must be greater than {{minimum}}."
  | .value (.numeric .integer .maximum) =>
    "The `{{name}}` must be less than or equal to {{maximum}}."
  | .value (.numeric .integer .exclusiveMaximum) => "The `{{name}}` must be less than {{maximum}}."
  | .value (.numeric .integer .multipleOf) => "The `{{name}}` must be a multiple of {{multipleOf}}."
  | .value .booleanType => "The `{{name}}` must be a boolean."
  | .value .arrayType => "The `{{name}}` must be an array."
  | .value .minItems => "The `{{name}}` must have at least {{minItems}} items."
  | .value .maxItems => "The `{{name}}` must have at most {{maxItems}} items."
  | .value .uniqueItems => "The items of the `{{name}}` must be unique."
  | .value .objectType => "The `{{name}}` must be an object."
  | .value .minProperties => "The `{{name}}` must have at least {{minProperties}} properties."
  | .value .maxProperties => "The `{{name}}` must have at most {{maxProperties}} properties."
  | .value .missingProperty => "The `{{name}}` must have the property `{{missingPropertyName}}`."
  | .value .unknownProperty =>
    "The `{{name}}` must not have the unknown property `{{unknownPropertyName}}`."

end ParamSchema.Message
