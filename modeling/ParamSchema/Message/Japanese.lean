import ParamSchema.Violation.Code

/-!
# Japanese messages

The message template of every code.
-/

set_option autoImplicit false

namespace ParamSchema.Message

def japanese : Code → String
  | .parameter .notObject => "`{{name}}` はオブジェクトでなければいけません。"
  | .parameter .missingName => "`{{name}}` は空でない文字列でなければいけません。"
  | .parameter .requiredFlag => "`{{name}}` は真偽値でなければいけません。"
  | .schema .notObject => "`{{name}}` はオブジェクトでなければいけません。"
  | .schema .type =>
    "`{{name}}` は `string`, `number`, `integer`, `boolean`, `array`, `object` のいずれかでなければいけません。"
  | .schema .nullable => "`{{name}}` は真偽値でなければいけません。"
  | .schema .enum =>
    "`{{name}}` は `type` に一致する重複のない値の空でない配列でなければいけません。また `string`, `number`, `integer`, `boolean` にのみ指定できます。"
  | .schema .oneOf => "`{{name}}` はスキーマオブジェクトの空でない配列でなければいけません。"
  | .schema .anyOf => "`{{name}}` はスキーマオブジェクトの空でない配列でなければいけません。"
  | .schema .allOf => "`{{name}}` はスキーマオブジェクトの空でない配列でなければいけません。"
  | .schema .combinator => "`{{name}}` は `oneOf`, `anyOf`, `allOf` の他のキーと同時に指定できません。"
  | .schema .depth => "`{{name}}` の入れ子が {{maxDepth}} 階層を超えています。"
  | .schema .minLength => "`{{name}}` は 0 以上の整数でなければいけません。"
  | .schema .maxLength => "`{{name}}` は 0 以上の整数でなければいけません。"
  | .schema .pattern => "`{{name}}` は正しい正規表現でなければいけません。"
  | .schema .stringFormat => "`{{name}}` は `date-time`, `date`, `time`, `byte` のいずれかでなければいけません。"
  | .schema .defaultString => "`{{name}}` は文字列でなければいけません。"
  | .schema .minimum => "`{{name}}` は数値でなければいけません。"
  | .schema .exclusiveMinimum => "`{{name}}` は真偽値でなければいけません。"
  | .schema .maximum => "`{{name}}` は数値でなければいけません。"
  | .schema .exclusiveMaximum => "`{{name}}` は真偽値でなければいけません。"
  | .schema .multipleOf => "`{{name}}` は 0 より大きい数値でなければいけません。"
  | .schema .integerFormat => "`{{name}}` は `int32` または `int64` でなければいけません。"
  | .schema .defaultInteger => "`{{name}}` は整数でなければいけません。"
  | .schema .defaultNumber => "`{{name}}` は数値でなければいけません。"
  | .schema .defaultBoolean => "`{{name}}` は真偽値でなければいけません。"
  | .schema .minItems => "`{{name}}` は 0 以上の整数でなければいけません。"
  | .schema .maxItems => "`{{name}}` は 0 以上の整数でなければいけません。"
  | .schema .uniqueItems => "`{{name}}` は真偽値でなければいけません。"
  | .schema .items => "`{{name}}` は必須で、スキーマオブジェクトでなければいけません。"
  | .schema .defaultArray => "`{{name}}` は配列でなければいけません。"
  | .schema .minProperties => "`{{name}}` は 0 より大きい整数でなければいけません。"
  | .schema .maxProperties => "`{{name}}` は 0 より大きい整数でなければいけません。"
  | .schema .required => "`{{name}}` はプロパティ名の空でない配列でなければいけません。"
  | .schema .properties => "`{{name}}` はオブジェクトでなければいけません。"
  | .schema .additionalProperties => "`{{name}}` は真偽値またはスキーマオブジェクトでなければならず、`properties` の指定が必要です。"
  | .schema .defaultObject => "`{{name}}` はオブジェクトでなければいけません。"
  | .value .required => "`{{name}}` は必須です。"
  | .value .depth => "`{{name}}` の入れ子が {{maxDepth}} 階層を超えています。"
  | .value .oneOf => "`{{name}}` はスキーマのいずれか 1 つだけに一致しなければいけません。"
  | .value .anyOf => "`{{name}}` はスキーマの少なくとも 1 つに一致しなければいけません。"
  | .value .allOf => "`{{name}}` はすべてのスキーマに一致しなければいけません。"
  | .value .enum => "`{{name}}` は {{enumList}} のいずれかでなければいけません。"
  | .value .stringType => "`{{name}}` は文字列でなければいけません。"
  | .value .stringFormat => "`{{name}}` は `{{format}}` 形式でなければいけません。"
  | .value .minLength => "`{{name}}` の長さは {{minLength}} 以上でなければいけません。"
  | .value .maxLength => "`{{name}}` の長さは {{maxLength}} 以下でなければいけません。"
  | .value .pattern => "`{{name}}` はパターン {{pattern}} に一致しなければいけません。"
  | .value (.numeric .number .type) => "`{{name}}` は数値でなければいけません。"
  | .value (.numeric .number .minimum) => "`{{name}}` は {{minimum}} 以上でなければいけません。"
  | .value (.numeric .number .exclusiveMinimum) => "`{{name}}` は {{minimum}} より大きくなければいけません。"
  | .value (.numeric .number .maximum) => "`{{name}}` は {{maximum}} 以下でなければいけません。"
  | .value (.numeric .number .exclusiveMaximum) => "`{{name}}` は {{maximum}} より小さくなければいけません。"
  | .value (.numeric .number .multipleOf) => "`{{name}}` は {{multipleOf}} の倍数でなければいけません。"
  | .value (.numeric .integer .type) => "`{{name}}` は整数でなければいけません。"
  | .value .integerFormat => "`{{name}}` は `{{format}}` の範囲でなければいけません。"
  | .value (.numeric .integer .minimum) => "`{{name}}` は {{minimum}} 以上でなければいけません。"
  | .value (.numeric .integer .exclusiveMinimum) => "`{{name}}` は {{minimum}} より大きくなければいけません。"
  | .value (.numeric .integer .maximum) => "`{{name}}` は {{maximum}} 以下でなければいけません。"
  | .value (.numeric .integer .exclusiveMaximum) => "`{{name}}` は {{maximum}} より小さくなければいけません。"
  | .value (.numeric .integer .multipleOf) => "`{{name}}` は {{multipleOf}} の倍数でなければいけません。"
  | .value .booleanType => "`{{name}}` は真偽値でなければいけません。"
  | .value .arrayType => "`{{name}}` は配列でなければいけません。"
  | .value .minItems => "`{{name}}` の要素数は {{minItems}} 以上でなければいけません。"
  | .value .maxItems => "`{{name}}` の要素数は {{maxItems}} 以下でなければいけません。"
  | .value .uniqueItems => "`{{name}}` の要素は重複してはいけません。"
  | .value .objectType => "`{{name}}` はオブジェクトでなければいけません。"
  | .value .minProperties => "`{{name}}` のプロパティ数は {{minProperties}} 以上でなければいけません。"
  | .value .maxProperties => "`{{name}}` のプロパティ数は {{maxProperties}} 以下でなければいけません。"
  | .value .missingProperty => "`{{name}}` にはプロパティ `{{missingPropertyName}}` が必要です。"
  | .value .unknownProperty => "`{{name}}` に未知のプロパティ `{{unknownPropertyName}}` を含めてはいけません。"

end ParamSchema.Message
