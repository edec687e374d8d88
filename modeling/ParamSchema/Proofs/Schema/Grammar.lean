import ParamSchema.Proofs.Schema.Keywords

/-!
# The grammar of schemas

The JSON values that can be read as a schema, described without the reader: what each
keyword has to be where it stands, which keywords a type looks at, and what a
combinator takes precedence over. A keyword that can be read is one that is right.
-/

set_option autoImplicit false

namespace ParamSchema

open Results

namespace Json

def NumberWith (right : Binary64 → Prop) (value : Json) : Prop :=
  ∃ number : Number, value = .number number ∧ right number.toBinary64

def WholeWith (right : Int → Prop) : Json → Prop :=
  NumberWith fun x => x.isIntegral = true ∧ right x.signedUnits

def TextWith (right : String → Prop) (value : Json) : Prop :=
  ∃ text, value = .string text ∧ right text

end Json

def ValueType.Has : ValueType → Json → Prop
  | .string, value => ∃ text, value = .string text
  | .numeric .number, value => ∃ number, value = .number number
  | .numeric .integer, value => value.NumberWith fun x => x.isIntegral = true
  | .boolean, value => ∃ flag, value = .bool flag
  | .array, value => ∃ items, value = .array items
  | .object, value => ∃ members, value = .object members

def ValueType.Lists (type : ValueType) (value : Json) : Prop :=
  type.isScalar = true ∧ ∃ items, value = .array items ∧ items ≠ [] ∧
    (items.Pairwise fun a b => a.same b = false) ∧ ∀ item ∈ items, type.Has item

def Combinator.rank : Combinator → Nat
  | .oneOf => 0
  | .anyOf => 1
  | .allOf => 2

namespace Schema

/-- A keyword is right where it stands. -/
def Keyword (source : Source) (key : String) (right : Json → Prop) : Prop :=
  ∀ value, source.lookup key = some value → right value

structure StringForm (source : Source) : Prop where
  minLength : Keyword source "minLength" (Json.WholeWith (0 ≤ ·))
  maxLength : Keyword source "maxLength" (Json.WholeWith (0 ≤ ·))
  pattern : Keyword source "pattern" <| Json.TextWith fun text =>
    ∃ pattern : Pattern, pattern.source = text
  format : Keyword source "format" <| Json.TextWith fun text =>
    ∃ format : StringFormat, format.name = text

/-- A bound, and the flag that excludes it, which counts only where the bound stands. -/
structure BoundForm (source : Source) (key flagKey : String) : Prop where
  value : Keyword source key (ValueType.numeric .number).Has
  exclusive : key ∈ Members.keys source → Keyword source flagKey ValueType.boolean.Has

structure NumberForm (source : Source) : Prop where
  minimum : BoundForm source "minimum" "exclusiveMinimum"
  maximum : BoundForm source "maximum" "exclusiveMaximum"
  multipleOf : Keyword source "multipleOf" (Json.NumberWith fun x => 0 < x.signedUnits)

def IntegerFormatForm (source : Source) : Prop :=
  Keyword source "format" (Json.TextWith fun text => ∃ format : IntegerFormat, format.name = text)

structure ArrayForm (nested : Json → Prop) (source : Source) : Prop where
  minItems : Keyword source "minItems" (Json.WholeWith (0 ≤ ·))
  maxItems : Keyword source "maxItems" (Json.WholeWith (0 ≤ ·))
  uniqueItems : Keyword source "uniqueItems" ValueType.boolean.Has
  items : ∃ members, source.lookup "items" = some (.object members) ∧ nested (.object members)

def RequiresName (source : Source) (name : String) : Prop :=
  ∃ names : List String, source.lookup "required" = some (.array (names.map .string)) ∧ name ∈ names

def DeclaresName (source : Source) (name : String) : Prop :=
  ∃ members, source.lookup "properties" = some (.object members) ∧ name ∈ Members.keys members

structure ObjectForm (settings : Settings) (nested : Json → Prop) (source : Source) : Prop where
  minProperties : Keyword source "minProperties" (Json.WholeWith (0 < ·))
  maxProperties : Keyword source "maxProperties" (Json.WholeWith (0 < ·))
  required : Keyword source "required" fun value =>
    ∃ names : List String, value = .array (names.map .string) ∧ names ≠ []
  additionalProperties : Keyword source "additionalProperties" fun value =>
    "properties" ∈ Members.keys source ∧
      (ValueType.boolean.Has value ∨ ValueType.object.Has value ∧ nested value)
  properties : Keyword source "properties" fun value =>
    ∃ members, value = .object members ∧ ∀ member ∈ members, nested member.2
  declared : settings.strictRequired = true → ∀ name, RequiresName source name →
    DeclaresName source name

/-- The keywords of a type. -/
def KindForm (settings : Settings) (nested : Json → Prop) (source : Source) : ValueType → Prop
  | .string => StringForm source
  | .numeric .number => NumberForm source
  | .numeric .integer => NumberForm source ∧ IntegerFormatForm source
  | .boolean => True
  | .array => ArrayForm nested source
  | .object => ObjectForm settings nested source

structure LeafForm (settings : Settings) (nested : Json → Prop) (source : Source)
    (type : ValueType) : Prop where
  typeName : source.lookup "type" = some (.string type.name)
  nullable : Keyword source "nullable" ValueType.boolean.Has
  enum : Keyword source "enum" type.Lists
  kind : KindForm settings nested source type
  default : Keyword source "default" type.Has

/-- A combinator of some members. None that takes precedence stands beside it, and if the settings
ask for it none at all; every other keyword is free. -/
structure CombinedForm (settings : Settings) (nested : Json → Prop) (source : Source)
    (combinator : Combinator) : Prop where
  members : ∃ items, source.lookup combinator.keyword = some (.array items) ∧ items ≠ [] ∧
    ∀ item ∈ items, nested item
  first : ∀ other : Combinator, other.rank < combinator.rank →
    other.keyword ∉ Members.keys source
  alone : settings.strictCombinators = true → ∀ other : Combinator,
    other.keyword ∈ Members.keys source → other = combinator

def SchemaForm (settings : Settings) (nested : Json → Prop) (source : Source) : Prop :=
  (∃ combinator, CombinedForm settings nested source combinator) ∨
    (∀ combinator : Combinator, combinator.keyword ∉ Members.keys source) ∧
      ∃ type, LeafForm settings nested source type

/-- The schemas of at most so many levels. -/
def Derivable (settings : Settings) : Nat → Json → Prop
  | 0, _ => False
  | levels + 1, raw => ∃ source, raw = .object source ∧
    SchemaForm settings (Derivable settings levels) source

end Schema

theorem Binary64.count_pos_iff {x : Binary64} (hIntegral : x.isIntegral = true)
    (hSign : 0 ≤ x.signedUnits) : 0 < min x.wholePart Json.maxCount ↔ 0 < x.signedUnits := by
  have hUnits : x.units = x.wholePart * one := isIntegral_iff.mp hIntegral
  have hWhole : 0 < x.units ↔ 0 < x.wholePart := by
    rw [hUnits]
    exact Nat.mul_pos_iff_of_pos_right one_pos
  have hMax : 0 < Json.maxCount := by decide
  unfold signedUnits at hSign ⊢
  cases hNegative : x.negative with
  | true =>
    rw [hNegative, if_pos rfl] at hSign
    omega
  | false =>
    rw [if_neg (by decide)]
    omega

namespace Json

variable {value : Json}

theorem exists_of_binary64?_eq_some {x : Binary64} (h : value.binary64? = some x) :
    ∃ number : Number, value = .number number ∧ number.toBinary64 = x := by
  cases value with
  | number number => exact ⟨number, rfl, Option.some.inj h⟩
  | _ => cases h

theorem isSome_filter_binary64?_iff {holds : Binary64 → Bool} :
    (value.binary64?.filter holds).isSome = true ↔ value.NumberWith fun x => holds x = true := by
  cases value <;> simp [binary64?, NumberWith]

theorem isSome_positive?_iff : (Schema.positive? value).isSome = true ↔
    value.NumberWith fun x => 0 < x.signedUnits := by
  rw [Schema.positive?, isSome_filter_binary64?_iff]
  simp only [decide_eq_true_eq]

theorem isSome_count?_iff : value.count?.isSome = true ↔ value.WholeWith (0 ≤ ·) := by
  simp only [Option.isSome_iff_exists, count?_eq_some_iff, WholeWith, NumberWith]
  cases value <;> simp [binary64?]

theorem isSome_positiveCount?_iff :
    (Schema.positiveCount? value).isSome = true ↔ value.WholeWith (0 < ·) := by
  simp only [Option.isSome_iff_exists, Schema.positiveCount?_eq_some_iff, count?_eq_some_iff,
    WholeWith, NumberWith]
  constructor
  · rintro ⟨_, ⟨x, hValue, hIntegral, hSign, rfl⟩, hPos⟩
    obtain ⟨number, rfl, rfl⟩ := exists_of_binary64?_eq_some hValue
    exact ⟨number, rfl, hIntegral, (Binary64.count_pos_iff hIntegral hSign).mp hPos⟩
  · rintro ⟨number, rfl, hIntegral, hPos⟩
    have hSign : 0 ≤ number.toBinary64.signedUnits := Int.le_of_lt hPos
    exact ⟨_, ⟨_, rfl, hIntegral, hSign, rfl⟩, (Binary64.count_pos_iff hIntegral hSign).mpr hPos⟩

theorem isSome_string?_bind_iff {α : Type} {read : String → Option α} {name : α → String}
    (hRead : ∀ {text x}, read text = some x ↔ name x = text) :
    (value.string?.bind read).isSome = true ↔ value.TextWith fun text => ∃ x, name x = text := by
  cases value <;> simp [string?, TextWith, Option.isSome_iff_exists, hRead]

end Json

theorem ValueType.admits_iff {type : ValueType} {value : Json} :
    type.admits value = true ↔ type.Has value := by
  rcases type with _ | (_ | _) | _ | _ | _
  · cases value <;> simp [admits, Has, Json.string?]
  · cases value <;> simp [admits, Has, Json.binary64?]
  · exact Json.isSome_filter_binary64?_iff
  · cases value <;> simp [admits, Has, Json.bool?]
  · cases value <;> simp [admits, Has, Json.items?]
  · cases value <;> simp [admits, Has, Json.members?]

theorem find?_name_eq_some_iff {α : Type} {name : α → String} {all : List α}
    (hFind : ∀ x, all.find? (fun y => name y == name x) = some x) {text : String} {x : α} :
    all.find? (fun y => name y == text) = some x ↔ name x = text := by
  constructor
  · intro h
    have hName := List.find?_some h
    exact beq_iff_eq.mp hName
  · rintro rfl
    exact hFind x

theorem ValueType.ofName?_eq_some_iff {text : String} {type : ValueType} :
    ofName? text = some type ↔ type.name = text :=
  find?_name_eq_some_iff ofName?_name

theorem StringFormat.ofName?_eq_some_iff {text : String} {format : StringFormat} :
    ofName? text = some format ↔ format.name = text :=
  find?_name_eq_some_iff ofName?_name

theorem IntegerFormat.ofName?_eq_some_iff {text : String} {format : IntegerFormat} :
    ofName? text = some format ↔ format.name = text :=
  find?_name_eq_some_iff ofName?_name

theorem Pattern.compile?_eq_some_iff {text : String} {pattern : Pattern} :
    compile? text = some pattern ↔ pattern.source = text := by
  constructor
  · intro h
    unfold compile? at h
    split at h
    · cases h
      rfl
    · cases h
  · rintro rfl
    exact pattern.compile?_source

theorem ValueType.isSome_choices?_iff {type : ValueType} {value : Json} :
    (Schema.choices? type value).isSome = true ↔ type.Lists value := by
  simp only [Option.isSome_iff_exists, Schema.choices?_eq_some_iff, CanList, Lists,
    Json.allDistinct_eq_true_iff, admits_iff]
  constructor
  · rintro ⟨items, rfl, hScalar, hList⟩
    exact ⟨hScalar, items, rfl, hList⟩
  · rintro ⟨hScalar, items, rfl, hList⟩
    exact ⟨items, rfl, hScalar, hList⟩

namespace Schema

theorem isSome_names?_iff {value : Json} : (names? value).isSome = true ↔
    ∃ names : List String, value = .array (names.map .string) ∧ names ≠ [] := by
  simp only [Option.isSome_iff_exists, names?_eq_some_iff]

section

variable {source : Source} {key : String} {fault : SchemaFault}

theorem exists_keyword?_ok_iff {α : Type} {read : Json → Option α} {right : Json → Prop}
    (hRead : ∀ value, (read value).isSome = true ↔ right value) :
    (∃ found, keyword? source key fault read = .ok found) ↔ Keyword source key right := by
  unfold keyword? Keyword
  cases source.lookup key with
  | none => simp
  | some value =>
    have hValue := hRead value
    cases hFound : read value with
    | none => simpa [hFound] using hValue
    | some x => simpa [hFound] using hValue

theorem mem_keys_of_keyword?_ok {α : Type} {read : Json → Option α} {found : Option α}
    (h : keyword? source key fault read = .ok found) :
    key ∈ Members.keys source ↔ found.isSome = true := by
  have hSome := congrArg Option.isSome (keyword?_eq_ok_iff.mp h)
  rw [Option.isSome_map, Option.isSome_map] at hSome
  rw [← Members.contains_eq_true_iff, Members.contains, hSome]

theorem exists_flag_ok_iff :
    (∃ set, flag source key fault = .ok set) ↔ Keyword source key ValueType.boolean.Has := by
  simp only [flag, exists_bind_eq_ok, exists_pure_eq_ok, and_true]
  exact exists_keyword?_ok_iff fun value => ValueType.boolean.admits_iff

theorem exists_text_ok_iff {α : Type} {read : String → Option α} {name : α → String}
    (hRead : ∀ {text x}, read text = some x ↔ name x = text) :
    (∃ found, keyword? source key fault (fun value => value.string?.bind read) = .ok found) ↔
      Keyword source key (Json.TextWith fun text => ∃ x, name x = text) :=
  exists_keyword?_ok_iff fun _ => Json.isSome_string?_bind_iff hRead

theorem exists_count_ok_iff : (∃ found, keyword? source key fault Json.count? = .ok found) ↔
    Keyword source key (Json.WholeWith (0 ≤ ·)) :=
  exists_keyword?_ok_iff fun _ => Json.isSome_count?_iff

theorem exists_positiveCount_ok_iff :
    (∃ found, keyword? source key fault positiveCount? = .ok found) ↔
      Keyword source key (Json.WholeWith (0 < ·)) :=
  exists_keyword?_ok_iff fun _ => Json.isSome_positiveCount?_iff

theorem exists_stringRules_ok_iff :
    (∃ rules, stringRules source = .ok rules) ↔ StringForm source := by
  simp only [stringRules, exists_bind_eq_ok, exists_pure_eq_ok, and_true, exists_and_right,
    exists_count_ok_iff, exists_text_ok_iff Pattern.compile?_eq_some_iff,
    exists_text_ok_iff StringFormat.ofName?_eq_some_iff]
  constructor
  · rintro ⟨hMin, hMax, hPattern, hFormat⟩
    exact ⟨hMin, hMax, hPattern, hFormat⟩
  · rintro ⟨hMin, hMax, hPattern, hFormat⟩
    exact ⟨hMin, hMax, hPattern, hFormat⟩

theorem exists_bound_ok_iff {flagKey : String} {flagFault : SchemaFault} :
    (∃ rule, bound source key flagKey fault flagFault = .ok rule) ↔
      BoundForm source key flagKey := by
  have hNumber : (∃ found, keyword? source key fault Json.binary64? = .ok found) ↔
      Keyword source key (ValueType.numeric .number).Has :=
    exists_keyword?_ok_iff fun value => (ValueType.numeric .number).admits_iff
  have hFlag {value : Binary64} :
      (∃ rule, (do return some (Bound.mk value (← flag source flagKey flagFault)) :
        Except Flaw (Option Bound)) = .ok rule) ↔
        Keyword source flagKey ValueType.boolean.Has := by
    simp only [exists_bind_eq_ok, exists_pure_eq_ok, and_true, exists_flag_ok_iff]
  rw [bound, exists_bind_eq_ok]
  constructor
  · rintro ⟨found, hFound, hRule⟩
    refine ⟨hNumber.mp ⟨found, hFound⟩, ?_⟩
    intro hKey
    cases found with
    | none => cases (mem_keys_of_keyword?_ok hFound).mp hKey
    | some value => exact hFlag.mp hRule
  · rintro ⟨hValue, hExclusive⟩
    obtain ⟨found, hFound⟩ := hNumber.mpr hValue
    refine ⟨found, hFound, ?_⟩
    cases found with
    | none => exact ⟨none, rfl⟩
    | some value => exact hFlag.mpr (hExclusive ((mem_keys_of_keyword?_ok hFound).mpr rfl))

theorem exists_numberRules_ok_iff :
    (∃ rules, numberRules source = .ok rules) ↔ NumberForm source := by
  have hMultiple : (∃ found, keyword? source "multipleOf" .multipleOf positive? = .ok found) ↔
      Keyword source "multipleOf" (Json.NumberWith fun x => 0 < x.signedUnits) :=
    exists_keyword?_ok_iff fun _ => Json.isSome_positive?_iff
  simp only [numberRules, exists_bind_eq_ok, exists_pure_eq_ok, and_true, exists_and_right,
    exists_bound_ok_iff, hMultiple]
  constructor
  · rintro ⟨hMin, hMax, hMultiple⟩
    exact ⟨hMin, hMax, hMultiple⟩
  · rintro ⟨hMin, hMax, hMultiple⟩
    exact ⟨hMin, hMax, hMultiple⟩

theorem exists_integerFormat_ok_iff :
    (∃ format, integerFormat source = .ok format) ↔ IntegerFormatForm source :=
  exists_text_ok_iff IntegerFormat.ofName?_eq_some_iff

theorem exists_arrayRules_ok_iff : (∃ rules, arrayRules source = .ok rules) ↔
    Keyword source "minItems" (Json.WholeWith (0 ≤ ·)) ∧
    Keyword source "maxItems" (Json.WholeWith (0 ≤ ·)) ∧
    Keyword source "uniqueItems" ValueType.boolean.Has := by
  simp only [arrayRules, exists_bind_eq_ok, exists_pure_eq_ok, and_true, exists_and_right,
    exists_count_ok_iff, exists_flag_ok_iff]

theorem exists_objectRules_ok_iff : (∃ rules, objectRules source = .ok rules) ↔
    Keyword source "minProperties" (Json.WholeWith (0 < ·)) ∧
    Keyword source "maxProperties" (Json.WholeWith (0 < ·)) ∧
    Keyword source "required" fun value =>
      ∃ names : List String, value = .array (names.map .string) ∧ names ≠ [] := by
  simp only [objectRules, exists_bind_eq_ok, exists_pure_eq_ok, and_true, exists_and_right,
    exists_positiveCount_ok_iff, exists_keyword?_ok_iff fun _ => isSome_names?_iff]

theorem mem_required_iff {rules : ObjectRules} (h : objectRules source = .ok rules)
    {name : String} : name ∈ rules.required ↔ RequiresName source name := by
  simp only [objectRules, bind_eq_ok, pure_eq_ok] at h
  obtain ⟨minProperties, -, maxProperties, -, found, hFound, rfl⟩ := h
  unfold RequiresName
  cases found with
  | none =>
    have hNone : source.lookup "required" = none := by
      rw [Members.lookup_eq_none_iff, mem_keys_of_keyword?_ok hFound]
      decide
    simp [hNone]
  | some names =>
    obtain ⟨value, hValue, hNames⟩ := exists_of_keyword?_ok hFound
    obtain ⟨rfl, -⟩ := names?_eq_some_iff.mp hNames
    constructor
    · intro hName
      exact ⟨names, hValue, hName⟩
    · rintro ⟨names', hValue', hName⟩
      have hSame : names.map Json.string = names'.map Json.string := by
        rw [hValue] at hValue'
        exact Json.array.inj (Option.some.inj hValue')
      rw [Option.getD_some, List.map_injective_iff.mpr (fun _ _ => Json.string.inj) hSame]
      exact hName

theorem typeKeyword_eq_ok_iff {type : ValueType} :
    keyword? source "type" .type (fun value => value.string?.bind ValueType.ofName?) =
      .ok (some type) ↔ source.lookup "type" = some (.string type.name) := by
  rw [keyword?_eq_ok_iff, Option.map_some, Option.map_eq_some_iff]
  constructor
  · rintro ⟨value, hValue, hType⟩
    cases value with
    | string text =>
      rw [ValueType.ofName?_eq_some_iff.mp hType]
      exact hValue
    | _ => cases hType
  · intro hValue
    exact ⟨_, hValue, type.ofName?_name⟩

theorem exists_defaultValue_ok_iff {type : ValueType} :
    (∃ default, defaultValue source type = .ok default) ↔ Keyword source "default" type.Has := by
  apply exists_keyword?_ok_iff
  intro value
  rw [← ValueType.admits_iff]
  split <;> simp_all

end

end Schema

end ParamSchema
