import ParamSchema.Schema.Basic

/-!
# Writing schemas

The canonical JSON form of a schema: the type, what is common to all types,
the keywords of the type, and the default. What has its default meaning is
left out.
-/

set_option autoImplicit false

namespace ParamSchema

def keywordOf (key : String) (value : Option Json) : List (String × Json) :=
  value.elim [] fun value => [(key, value)]

def flagOf (key : String) (flag : Bool) : List (String × Json) :=
  if flag then [(key, .bool true)] else []

namespace Json

def ofBinary64 (x : Binary64) : Json := .number (.ofBinary64 x)

end Json

def StringRules.keywords (rules : StringRules) : List (String × Json) :=
  keywordOf "minLength" (rules.minLength.map .ofCount) ++
  keywordOf "maxLength" (rules.maxLength.map .ofCount) ++
  keywordOf "pattern" (rules.pattern.map fun pattern => .string pattern.source) ++
  keywordOf "format" (rules.format.map fun format => .string format.name)

def Bound.keywords (key flagKey : String) (bound : Bound) : List (String × Json) :=
  (key, .ofBinary64 bound.value) :: flagOf flagKey bound.exclusive

def NumberRules.keywords (type : NumericType) (rules : NumberRules) : List (String × Json) :=
  rules.minimum.elim [] (Bound.keywords "minimum" "exclusiveMinimum") ++
  rules.maximum.elim [] (Bound.keywords "maximum" "exclusiveMaximum") ++
  keywordOf "multipleOf" (rules.multipleOf.map .ofBinary64) ++
  keywordOf "format" (type.format?.map fun format => .string format.name)

def ArrayRules.keywords (rules : ArrayRules) : List (String × Json) :=
  keywordOf "minItems" (rules.minItems.map .ofCount) ++
  keywordOf "maxItems" (rules.maxItems.map .ofCount) ++
  flagOf "uniqueItems" rules.uniqueItems

def ObjectRules.keywords (rules : ObjectRules) : List (String × Json) :=
  keywordOf "minProperties" (rules.minProperties.map .ofCount) ++
  keywordOf "maxProperties" (rules.maxProperties.map .ofCount) ++
  if rules.required.isEmpty then [] else [("required", .array (rules.required.map .string))]

def Common.toJson (common : Common) (type : ValueType) (keywords : List (String × Json)) : Json :=
  .object (("type", .string type.name) :: flagOf "nullable" common.nullable ++
    keywordOf "enum" (common.choices.map .array) ++ keywords ++
    keywordOf "default" common.default)

namespace Schema

mutual

/-- The canonical JSON form. -/
def toJson : Schema → Json
  | .combined combinator members => .object [(combinator.keyword, .array (memberList members))]
  | .string common rules => common.toJson .string rules.keywords
  | .numeric common type rules => common.toJson (.numeric type.kind) (rules.keywords type)
  | .boolean common => common.toJson .boolean []
  | .array common rules items =>
    common.toJson .array (rules.keywords ++ [("items", toJson items)])
  | .object common rules => common.toJson .object rules.keywords
  | .record common rules properties extra =>
    common.toJson .object (rules.keywords ++
      ("properties", .object (propertyList properties)) :: extraKeyword extra)

def memberList : List Schema → List Json
  | [] => []
  | member :: rest => toJson member :: memberList rest

def propertyList : List (String × Schema) → List (String × Json)
  | [] => []
  | (name, property) :: rest => (name, toJson property) :: propertyList rest

def extraKeyword : Extra Schema → List (String × Json)
  | .allowed => []
  | .refused => [("additionalProperties", .bool false)]
  | .matching schema => [("additionalProperties", toJson schema)]

end

end Schema

end ParamSchema
