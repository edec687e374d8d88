import ParamSchema.Proofs.Json.Equality
import ParamSchema.Proofs.Json.Number
import ParamSchema.Proofs.Schema.Reading

/-!
# What holds of a schema that was read

The side conditions of the reader, as properties of the schema that it gives.
They speak of the top of a schema only; what nests inside was read by itself.
-/

set_option autoImplicit false

namespace ParamSchema

def ValueType.CanList (type : ValueType) (items : List Json) : Prop :=
  type.isScalar = true ∧ items ≠ [] ∧ Json.allDistinct items = true ∧
    ∀ item ∈ items, type.admits item = true

structure Common.WellFormed (type : ValueType) (common : Common) : Prop where
  choices : ∀ items, common.choices = some items →
    type.CanList items ∧ ∀ item ∈ items, item.KeysDistinct
  default : ∀ value, common.default = some value → type.admits value = true ∧ value.KeysDistinct

structure StringRules.WellFormed (rules : StringRules) : Prop where
  minLength : ∀ count, rules.minLength = some count → Json.IsCount count
  maxLength : ∀ count, rules.maxLength = some count → Json.IsCount count

def NumberRules.WellFormed (rules : NumberRules) : Prop :=
  ∀ divisor, rules.multipleOf = some divisor → 0 < divisor.signedUnits

structure ArrayRules.WellFormed (rules : ArrayRules) : Prop where
  minItems : ∀ count, rules.minItems = some count → Json.IsCount count
  maxItems : ∀ count, rules.maxItems = some count → Json.IsCount count

structure ObjectRules.WellFormed (settings : Settings) (declared : List String)
    (rules : ObjectRules) : Prop where
  minProperties : ∀ count, rules.minProperties = some count → Json.IsCount count ∧ 0 < count
  maxProperties : ∀ count, rules.maxProperties = some count → Json.IsCount count ∧ 0 < count
  required : settings.strictRequired = true → ∀ name ∈ rules.required, name ∈ declared

namespace Schema

/-- The side conditions of the reader at the top of a schema. -/
def TopWellFormed (settings : Settings) : Schema → Prop
  | .combined _ members => members ≠ []
  | .string common rules => common.WellFormed .string ∧ rules.WellFormed
  | .numeric common type rules => common.WellFormed (.numeric type.kind) ∧ rules.WellFormed
  | .boolean common => common.WellFormed .boolean
  | .array common rules _ => common.WellFormed .array ∧ rules.WellFormed
  | .object common rules => common.WellFormed .object ∧ rules.WellFormed settings []
  | .record common rules properties _ =>
    common.WellFormed .object ∧ rules.WellFormed settings (Members.keys properties) ∧
      (Members.keys properties).Nodup

section

variable {α : Type} {source : Source} {key : String} {fault : SchemaFault}
  {read : Json → Option α}

theorem keyword?_eq_ok_iff {found : Option α} :
    keyword? source key fault read = .ok found ↔ (source.lookup key).map read = found.map some := by
  unfold keyword?
  cases source.lookup key with
  | none => cases found <;> simp
  | some value => cases hRead : read value <;> cases found <;> simp [hRead]

theorem exists_of_keyword?_ok {x : α} (h : keyword? source key fault read = .ok (some x)) :
    ∃ value, source.lookup key = some value ∧ read value = some x := by
  rw [keyword?_eq_ok_iff] at h
  exact Option.map_eq_some_iff.mp h

end

theorem keys_of_members_ok {α : Type} {read : Json → Reading α} {members : Source}
    {results : List (String × α)} (h : (Reading.members read members).result = .ok results) :
    Members.keys members = Members.keys results := by
  rw [members_result_eq_ok_iff] at h
  exact Members.keys_eq_of_forall₂ (fun _ _ hMember => hMember.1) h

theorem ne_nil_of_items_ok {α : Type} {read : Json → Reading α} {index : Nat} {items : List Json}
    {results : List α} (h : (Reading.items read index items).result = .ok results)
    (hNonempty : items ≠ []) : results ≠ [] := by
  rw [items_result_eq_ok_iff] at h
  rintro rfl
  exact hNonempty (List.forall₂_nil_right_iff.mp h)

theorem choices?_eq_some_iff {type : ValueType} {value : Json} {items : List Json} :
    choices? type value = some items ↔ value = .array items ∧ type.CanList items := by
  have hItems : value.items? = some items ↔ value = .array items := by
    cases value <;> simp [Json.items?]
  simp [choices?, Option.filter_eq_some_iff, hItems, ValueType.CanList, and_assoc]

theorem positiveCount?_eq_some_iff {value : Json} {count : Nat} :
    positiveCount? value = some count ↔ value.count? = some count ∧ 0 < count := by
  simp [positiveCount?, Option.filter_eq_some_iff]

theorem positive?_eq_some_iff {value : Json} {x : Binary64} :
    positive? value = some x ↔ value.binary64? = some x ∧ 0 < x.signedUnits := by
  simp [positive?, Option.filter_eq_some_iff]

theorem checkRequired_eq_ok_iff {settings : Settings} {rules : ObjectRules}
    {declared : List String} : checkRequired settings rules declared = .ok () ↔
      (settings.strictRequired = true → ∀ name ∈ rules.required, name ∈ declared) := by
  simp [checkRequired]

section

variable {source : Source} {key : String} {fault : SchemaFault} {count : Option Nat}

theorem isCount_of_keyword?_ok (h : keyword? source key fault Json.count? = .ok count) :
    ∀ n, count = some n → Json.IsCount n := by
  rintro n rfl
  obtain ⟨value, -, hCount⟩ := exists_of_keyword?_ok h
  exact ⟨value, hCount⟩

theorem positive_of_keyword?_ok (h : keyword? source key fault positiveCount? = .ok count) :
    ∀ n, count = some n → Json.IsCount n ∧ 0 < n := by
  rintro n rfl
  obtain ⟨value, -, hCount⟩ := exists_of_keyword?_ok h
  rw [positiveCount?_eq_some_iff] at hCount
  exact ⟨⟨value, hCount.1⟩, hCount.2⟩

end

theorem stringRules_wellFormed {source : Source} {rules : StringRules}
    (h : stringRules source = .ok rules) : rules.WellFormed := by
  simp only [stringRules, Results.bind_eq_ok, Results.pure_eq_ok] at h
  obtain ⟨minLength, hMin, maxLength, hMax, pattern, -, format, -, rfl⟩ := h
  exact ⟨isCount_of_keyword?_ok hMin, isCount_of_keyword?_ok hMax⟩

theorem numberRules_wellFormed {source : Source} {rules : NumberRules}
    (h : numberRules source = .ok rules) : rules.WellFormed := by
  simp only [numberRules, Results.bind_eq_ok, Results.pure_eq_ok] at h
  obtain ⟨minimum, -, maximum, -, multipleOf, hMultiple, rfl⟩ := h
  rintro divisor rfl
  obtain ⟨value, -, hDivisor⟩ := exists_of_keyword?_ok hMultiple
  exact (positive?_eq_some_iff.mp hDivisor).2

theorem arrayRules_wellFormed {source : Source} {rules : ArrayRules}
    (h : arrayRules source = .ok rules) : rules.WellFormed := by
  simp only [arrayRules, Results.bind_eq_ok, Results.pure_eq_ok] at h
  obtain ⟨minItems, hMin, maxItems, hMax, uniqueItems, -, rfl⟩ := h
  exact ⟨isCount_of_keyword?_ok hMin, isCount_of_keyword?_ok hMax⟩

theorem objectRules_wellFormed {settings : Settings} {source : Source} {rules : ObjectRules}
    {declared : List String} (h : objectRules source = .ok rules)
    (hRequired : checkRequired settings rules declared = .ok ()) :
    rules.WellFormed settings declared := by
  simp only [objectRules, Results.bind_eq_ok, Results.pure_eq_ok] at h
  obtain ⟨minProperties, hMin, maxProperties, hMax, required, -, rfl⟩ := h
  exact ⟨positive_of_keyword?_ok hMin, positive_of_keyword?_ok hMax,
    checkRequired_eq_ok_iff.mp hRequired⟩

section

variable {source : Source} {type : ValueType} {common : Common}

theorem ReadsCommon.choices_of_some (h : ReadsCommon source type common) {items : List Json}
    (hItems : common.choices = some items) :
    source.lookup "enum" = some (.array items) ∧ type.CanList items := by
  have hRead := h.choices
  rw [hItems] at hRead
  obtain ⟨value, hValue, hChoices⟩ := exists_of_keyword?_ok hRead
  obtain ⟨rfl, hList⟩ := choices?_eq_some_iff.mp hChoices
  exact ⟨hValue, hList⟩

theorem ReadsCommon.default_of_some (h : ReadsCommon source type common) {value : Json}
    (hDefault : common.default = some value) :
    source.lookup "default" = some value ∧ type.admits value = true := by
  have hRead := h.default
  rw [hDefault] at hRead
  obtain ⟨found, hFound, hAdmits⟩ := exists_of_keyword?_ok hRead
  rw [Option.ite_none_right_eq_some] at hAdmits
  obtain ⟨hAdmits, hEq⟩ := hAdmits
  cases hEq
  exact ⟨hFound, hAdmits⟩

end

section

variable {source : Source} (hKeys : (Json.object source).KeysDistinct)

include hKeys

theorem keysDistinct_of_lookup {key : String} {value : Json}
    (hValue : source.lookup key = some value) : value.KeysDistinct :=
  Json.keysDistinctMembers_iff.mp hKeys.2 _ (Members.mem_of_lookup hValue)

theorem Within.keysDistinct {raw : Json} (h : Within source raw) : raw.KeysDistinct := by
  cases h with
  | value hValue => exact keysDistinct_of_lookup hKeys hValue
  | item hValue hItem =>
    exact Json.keysDistinctItems_iff.mp (keysDistinct_of_lookup hKeys hValue) _ hItem
  | member hValue hMember =>
    exact Json.keysDistinctMembers_iff.mp (keysDistinct_of_lookup hKeys hValue).2 _ hMember

theorem ReadsCommon.wellFormed {type : ValueType} {common : Common}
    (h : ReadsCommon source type common) : common.WellFormed type := by
  constructor
  case choices =>
    intro items hItems
    obtain ⟨hLookup, hList⟩ := h.choices_of_some hItems
    exact ⟨hList, Json.keysDistinctItems_iff.mp (keysDistinct_of_lookup hKeys hLookup)⟩
  case default =>
    intro value hDefault
    obtain ⟨hLookup, hAdmits⟩ := h.default_of_some hDefault
    exact ⟨hAdmits, keysDistinct_of_lookup hKeys hLookup⟩

theorem Reads.topWellFormed {settings : Settings} {read : Json → Reading Schema} {schema : Schema}
    (h : Reads settings read source schema) : schema.TopWellFormed settings := by
  cases h with
  | combined hCombinators hStrict hItems hNonempty hMembers =>
    exact ne_nil_of_items_ok hMembers hNonempty
  | string hCommon hRules => exact ⟨hCommon.wellFormed hKeys, stringRules_wellFormed hRules⟩
  | number hCommon hRules => exact ⟨hCommon.wellFormed hKeys, numberRules_wellFormed hRules⟩
  | integer hCommon hRules hFormat =>
    exact ⟨hCommon.wellFormed hKeys, numberRules_wellFormed hRules⟩
  | boolean hCommon => exact hCommon.wellFormed hKeys
  | array hCommon hRules hItems =>
    exact ⟨hCommon.wellFormed hKeys, arrayRules_wellFormed hRules⟩
  | object hCommon hRules hExtra hProperties hRequired =>
    exact ⟨hCommon.wellFormed hKeys, objectRules_wellFormed hRules hRequired⟩
  | record hCommon hRules hExtra hProperties hRequired =>
    refine ⟨hCommon.wellFormed hKeys, objectRules_wellFormed hRules hRequired, ?_⟩
    obtain ⟨members, hLookup, hMembers⟩ := readProperties_ok hProperties
    rw [← keys_of_members_ok hMembers]
    exact (keysDistinct_of_lookup hKeys hLookup).1

end

/-- What was read keeps the side conditions everywhere. -/
theorem topWellFormed_everywhere {settings : Settings} {levels : Nat} {raw : Json}
    {schema : Schema} (hKeys : raw.KeysDistinct)
    (h : (readLevels settings levels raw).result = .ok schema) :
    schema.Everywhere (TopWellFormed settings) := by
  induction levels generalizing raw schema with
  | zero => cases h
  | succ lower ih =>
    obtain ⟨lower', source, hLevels, rfl, hReads⟩ := reads_of_readLevels h
    cases hLevels
    have hNested : schema.EachNested (Everywhere (TopWellFormed settings)) :=
      hReads.eachNested fun raw nested hWithin hRead => ih (hWithin.keysDistinct hKeys) hRead
    exact .of_inner (hReads.topWellFormed hKeys) fun inner hInner => hNested.of_inner hInner

end Schema

end ParamSchema
