import ParamSchema.Proofs.Schema.Keywords

/-!
# Schemas written and read back

The canonical form of a schema that was read is read again, without any report,
as the canonical schema.
-/

set_option autoImplicit false

namespace ParamSchema

open Schema

def Common.source (common : Common) (type : ValueType) (keywords : Source) : Source :=
  ("type", .string type.name) :: flagOf "nullable" common.nullable ++
    keywordOf "enum" (common.choices.map .array) ++ keywords ++ keywordOf "default" common.default

namespace Schema

def sharedKeys : List String := ["type", "nullable", "enum", "default", "oneOf", "anyOf", "allOf"]

def Own (keywords : Source) : Prop := ∀ key ∈ sharedKeys, keywords.lookup key = none

theorem Own.append {before after : Source} (hBefore : Own before) (hAfter : Own after) :
    Own (before ++ after) := by
  intro key hKey
  rw [List.lookup_append, hBefore key hKey, hAfter key hKey, Option.or_none]

theorem lookup_source_of_own {common : Common} {type : ValueType} {keywords : Source} {key : String}
    (hKey : key ∉ sharedKeys) :
    (common.source type keywords).lookup key = keywords.lookup key := by
  simp only [sharedKeys, List.mem_cons, List.not_mem_nil, or_false, not_or] at hKey
  simp [Common.source, List.lookup_append, Members.lookup_cons, lookup_flagOf, lookup_keywordOf,
    hKey]

theorem lookup_source {common : Common} {type : ValueType} {keywords : Source} {keys : List String}
    (hKeys : ∀ key ∈ keys, key ∉ sharedKeys) :
    ∀ key ∈ keys, (common.source type keywords).lookup key = keywords.lookup key :=
  fun key hKey => lookup_source_of_own (hKeys key hKey)

theorem lookup_source_append {common : Common} {type : ValueType} {keywords after : Source}
    {keys : List String} (hKeys : ∀ key ∈ keys, key ∉ sharedKeys)
    (hAfter : ∀ key ∈ keys, after.lookup key = none) :
    ∀ key ∈ keys, (common.source type (keywords ++ after)).lookup key = keywords.lookup key := by
  intro key hKey
  rw [lookup_source_of_own (hKeys key hKey), List.lookup_append, hAfter key hKey, Option.or_none]

theorem readsCommon_source {common : Common} {type : ValueType} {keywords : Source}
    (hOwn : Own keywords) (hCommon : common.WellFormed type) :
    ReadsCommon (common.source type keywords) type common := by
  simp only [Own, sharedKeys, List.mem_cons, List.not_mem_nil, or_false, forall_eq_or_imp,
    forall_eq] at hOwn
  obtain ⟨-, hNullable, hEnum, hDefault, hOneOf, hAnyOf, hAllOf⟩ := hOwn
  constructor
  case noCombinator =>
    simp [combinators, Combinator.all, Combinator.keyword, Members.contains, Common.source,
      List.lookup_append, Members.lookup_cons, lookup_flagOf, lookup_keywordOf, hOneOf, hAnyOf,
      hAllOf]
  case typeName =>
    refine keyword?_of_lookup (fun type => .string type.name) ?_ fun type _ => type.ofName?_name
    simp [Common.source]
  case nullable =>
    apply flag_of_lookup
    simp [Common.source, List.lookup_append, Members.lookup_cons, lookup_flagOf, lookup_keywordOf,
      hNullable]
  case choices =>
    refine keyword?_of_lookup .array ?_ ?_
    · simp [Common.source, List.lookup_append, Members.lookup_cons, lookup_flagOf,
        lookup_keywordOf, hEnum]
    · intro items hItems
      exact choices?_eq_some_iff.mpr ⟨rfl, (hCommon.choices items hItems).1⟩
  case default =>
    refine keyword?_of_lookup id ?_ ?_
    · simp [Common.source, List.lookup_append, Members.lookup_cons, lookup_flagOf,
        lookup_keywordOf, hDefault]
    · intro value hValue
      exact if_pos (hCommon.default value hValue).1

def nestedKeywords (properties : List (String × Schema)) (extra : Extra Schema) : Source :=
  ("properties", .object (propertyList properties)) :: extraKeyword extra

theorem lookup_nestedKeywords {properties : List (String × Schema)} {extra : Extra Schema}
    {keys : List String} (hProperties : "properties" ∉ keys)
    (hExtra : "additionalProperties" ∉ keys) :
    ∀ key ∈ keys, (nestedKeywords properties extra).lookup key = none := by
  intro key hKey
  have hName : key ≠ "properties" := fun hEq => hProperties (hEq ▸ hKey)
  have hOther : key ≠ "additionalProperties" := fun hEq => hExtra (hEq ▸ hKey)
  rw [nestedKeywords, Members.lookup_cons, if_neg hName]
  cases extra with
  | allowed => rfl
  | refused => rw [extraKeyword, Members.lookup_cons, if_neg hOther, List.lookup_nil]
  | matching schema => rw [extraKeyword, Members.lookup_cons, if_neg hOther, List.lookup_nil]

theorem exists_members_of_toJson (schema : Schema) : ∃ members, schema.toJson = .object members := by
  cases schema <;> exact ⟨_, rfl⟩

section

variable {read : Json → Reading Schema}

theorem readItems_of_lookup {source : Source} {items result : Schema}
    (hItems : source.lookup "items" = some items.toJson) (hRead : read items.toJson = pure result) :
    readItems read source = pure result := by
  obtain ⟨members, hMembers⟩ := exists_members_of_toJson items
  rw [hMembers] at hItems hRead
  rw [readItems, hItems]
  dsimp only
  rw [hRead]
  rfl

theorem items_memberList {members : List Schema} (index : Nat)
    (hMembers : ∀ member ∈ members, read member.toJson = pure member.canonical) :
    Reading.items read index (memberList members) = pure (canonicalMembers members) := by
  induction members generalizing index with
  | nil => rfl
  | cons member rest ih =>
    rw [List.forall_mem_cons] at hMembers
    rw [memberList, canonicalMembers, Reading.items, hMembers.1, ih _ hMembers.2]
    rfl

theorem members_propertyList {properties : List (String × Schema)}
    (hProperties : ∀ entry ∈ properties, read entry.2.toJson = pure entry.2.canonical) :
    Reading.members read (propertyList properties) = pure (canonicalProperties properties) := by
  induction properties with
  | nil => rfl
  | cons entry rest ih =>
    obtain ⟨name, schema⟩ := entry
    rw [List.forall_mem_cons] at hProperties
    rw [propertyList, canonicalProperties, Reading.members, hProperties.1, ih hProperties.2]
    rfl

theorem readProperties_of_lookup {source : Source} {properties : List (String × Schema)}
    (hSource : source.lookup "properties" = some (.object (propertyList properties)))
    (hProperties : ∀ entry ∈ properties, read entry.2.toJson = pure entry.2.canonical) :
    readProperties read source = pure (some (canonicalProperties properties)) := by
  rw [readProperties, hSource]
  dsimp only
  rw [members_propertyList hProperties]
  rfl

theorem readExtra_of_lookup {source : Source} {extra : Extra Schema}
    (hProperties : Members.contains source "properties" = true)
    (hSource : source.lookup "additionalProperties" =
      (extraKeyword extra).lookup "additionalProperties")
    (hExtra : ∀ schema, extra = .matching schema → read schema.toJson = pure schema.canonical) :
    readExtra read source = pure (canonicalExtra extra) := by
  rw [readExtra, hSource, hProperties]
  cases extra with
  | allowed => rfl
  | refused => rfl
  | matching schema =>
    obtain ⟨members, hMembers⟩ := exists_members_of_toJson schema
    have hRead := hExtra schema rfl
    rw [hMembers] at hRead
    rw [extraKeyword, hMembers, List.lookup_cons_self]
    dsimp only
    rw [hRead]
    rfl

end

section

variable {settings : Settings} {levels : Nat}

theorem readLevels_source {common : Common} {type : ValueType} {keywords : Source}
    {leaf : Common → Schema} (hOwn : Own keywords) (hCommon : common.WellFormed type)
    (hKind : readKind settings (readLevels settings levels) (common.source type keywords) type =
      pure leaf) :
    readLevels settings (levels + 1) (common.toJson type keywords) = pure (leaf common) := by
  have hReads := readsCommon_source hOwn hCommon
  change readLevels settings (levels + 1) (.object (common.source type keywords)) = _
  rw [readLevels, hReads.noCombinator]
  dsimp only
  rw [readLeaf, hReads.typeName, Traced.lift_ok, Traced.pure_bind]
  dsimp only
  rw [hReads.nullable, Traced.lift_ok, Traced.pure_bind, hReads.choices, Traced.lift_ok,
    Traced.pure_bind, hKind, Traced.pure_bind, hReads.default, Traced.lift_ok, Traced.pure_bind]

theorem own_stringKeywords (rules : StringRules) : Own rules.keywords := by
  simp [Own, sharedKeys, StringRules.keywords, List.lookup_append, lookup_keywordOf]

theorem own_numberKeywords (type : NumericType) (rules : NumberRules) :
    Own (rules.keywords type) := by
  simp [Own, sharedKeys, NumberRules.keywords, List.lookup_append, lookup_keywordOf,
    lookup_boundKeywords]

theorem own_objectKeywords (rules : ObjectRules) : Own rules.keywords := by
  rw [rules.keywords_eq]
  simp [Own, sharedKeys, List.lookup_append, lookup_keywordOf]

theorem readLevels_string {common : Common} {rules : StringRules}
    (hCommon : common.WellFormed .string) (hRules : rules.WellFormed) :
    readLevels settings (levels + 1) (Schema.string common rules).toJson =
      pure (.string common rules) := by
  have hRead : stringRules (common.source .string rules.keywords) = .ok rules :=
    stringRules_of_lookup hRules (lookup_source (by decide))
  have hKind : readKind settings (readLevels settings levels)
      (common.source .string rules.keywords) .string =
      pure fun common => .string common rules := by
    rw [readKind, hRead]
    rfl
  rw [toJson, readLevels_source (own_stringKeywords rules) hCommon hKind]

theorem readLevels_numeric {common : Common} {type : NumericType} {rules : NumberRules}
    (hCommon : common.WellFormed (.numeric type.kind)) (hRules : rules.WellFormed) :
    readLevels settings (levels + 1) (Schema.numeric common type rules).toJson =
      pure (.numeric common type rules.canonical) := by
  have hRead : numberRules (common.source (.numeric type.kind) (rules.keywords type)) =
      .ok rules.canonical :=
    numberRules_of_lookup hRules (lookup_source (by decide))
  have hKind : readKind settings (readLevels settings levels)
      (common.source (.numeric type.kind) (rules.keywords type)) (.numeric type.kind) =
      pure fun common => .numeric common type rules.canonical := by
    cases type with
    | number =>
      dsimp only [NumericType.kind] at hRead ⊢
      rw [readKind, hRead]
      rfl
    | integer format =>
      have hFormat : integerFormat (common.source (.numeric .integer)
          (rules.keywords (.integer format))) = .ok format := by
        apply integerFormat_of_lookup
        rw [lookup_source_of_own (by decide)]
        simp [NumberRules.keywords, List.lookup_append, lookup_boundKeywords, lookup_keywordOf,
          NumericType.format?]
      dsimp only [NumericType.kind] at hRead ⊢
      rw [readKind, hRead, hFormat]
      rfl
  rw [toJson, readLevels_source (own_numberKeywords type rules) hCommon hKind]

theorem readLevels_boolean {common : Common} (hCommon : common.WellFormed .boolean) :
    readLevels settings (levels + 1) (Schema.boolean common).toJson = pure (.boolean common) := by
  have hOwn : Own [] := by simp [Own]
  have hKind : readKind settings (readLevels settings levels) (common.source .boolean [])
      .boolean = pure fun common => .boolean common := rfl
  rw [toJson, readLevels_source hOwn hCommon hKind]

theorem readLevels_array {common : Common} {rules : ArrayRules} {items : Schema}
    (hCommon : common.WellFormed .array) (hRules : rules.WellFormed)
    (hItems : readLevels settings levels items.toJson = pure items.canonical) :
    readLevels settings (levels + 1) (Schema.array common rules items).toJson =
      pure (.array common rules items.canonical) := by
  have hOwn : Own (rules.keywords ++ [("items", items.toJson)]) := by
    simp [Own, sharedKeys, ArrayRules.keywords, List.lookup_append, lookup_keywordOf,
      lookup_flagOf, Members.lookup_cons]
  have hRead : arrayRules (common.source .array (rules.keywords ++ [("items", items.toJson)])) =
      .ok rules := by
    refine arrayRules_of_lookup hRules (lookup_source_append (by decide) ?_)
    simp [Members.lookup_cons]
  have hNested : readItems (readLevels settings levels)
      (common.source .array (rules.keywords ++ [("items", items.toJson)])) =
      pure items.canonical := by
    refine readItems_of_lookup ?_ hItems
    rw [lookup_source_of_own (by decide)]
    simp [ArrayRules.keywords, List.lookup_append, lookup_keywordOf, lookup_flagOf]
  have hKind : readKind settings (readLevels settings levels)
      (common.source .array (rules.keywords ++ [("items", items.toJson)])) .array =
      pure fun common => .array common rules items.canonical := by
    rw [readKind, hRead, hNested]
    rfl
  rw [toJson, readLevels_source hOwn hCommon hKind]

theorem readLevels_object {common : Common} {rules : ObjectRules}
    (hCommon : common.WellFormed .object) (hRules : rules.WellFormed settings []) :
    readLevels settings (levels + 1) (Schema.object common rules).toJson =
      pure (.object common rules) := by
  have hRead : objectRules (common.source .object rules.keywords) = .ok rules :=
    objectRules_of_lookup hRules (lookup_source (by decide))
  have hExtra : readExtra (readLevels settings levels) (common.source .object rules.keywords) =
      pure .allowed := by
    rw [readExtra, lookup_source_of_own (by decide), rules.keywords_eq]
    simp [List.lookup_append, lookup_keywordOf]
  have hProperties : readProperties (readLevels settings levels)
      (common.source .object rules.keywords) = pure none := by
    rw [readProperties, lookup_source_of_own (by decide), rules.keywords_eq]
    simp [List.lookup_append, lookup_keywordOf]
  have hKind : readKind settings (readLevels settings levels)
      (common.source .object rules.keywords) .object =
      pure fun common => .object common rules := by
    rw [readKind, hRead, hExtra, hProperties, Traced.lift_ok, Traced.pure_bind, Traced.pure_bind,
      Traced.pure_bind]
    dsimp only
    rw [checkRequired_eq_ok_iff.mpr hRules.required]
    rfl
  rw [toJson, readLevels_source (own_objectKeywords rules) hCommon hKind]

theorem readLevels_record {common : Common} {rules : ObjectRules}
    {properties : List (String × Schema)} {extra : Extra Schema}
    (hCommon : common.WellFormed .object)
    (hRules : rules.WellFormed settings (Members.keys properties))
    (hProperties : ∀ entry ∈ properties,
      readLevels settings levels entry.2.toJson = pure entry.2.canonical)
    (hExtra : ∀ schema, extra = .matching schema →
      readLevels settings levels schema.toJson = pure schema.canonical) :
    readLevels settings (levels + 1) (Schema.record common rules properties extra).toJson =
      pure (.record common rules (canonicalProperties properties) (canonicalExtra extra)) := by
  let source : Source :=
    common.source .object (rules.keywords ++ nestedKeywords properties extra)
  have hOwn : Own (rules.keywords ++ nestedKeywords properties extra) :=
    (own_objectKeywords rules).append (lookup_nestedKeywords (by decide) (by decide))
  have hRead : objectRules source = .ok rules :=
    objectRules_of_lookup hRules
      (lookup_source_append (by decide) (lookup_nestedKeywords (by decide) (by decide)))
  have hDeclared : source.lookup "properties" = some (.object (propertyList properties)) := by
    rw [lookup_source_of_own (by decide), rules.keywords_eq]
    simp [List.lookup_append, lookup_keywordOf, nestedKeywords]
  have hOthers : source.lookup "additionalProperties" =
      (extraKeyword extra).lookup "additionalProperties" := by
    rw [lookup_source_of_own (by decide), rules.keywords_eq]
    simp [List.lookup_append, lookup_keywordOf, Members.lookup_cons, nestedKeywords]
  have hContains : Members.contains source "properties" = true := by
    rw [Members.contains, hDeclared]
    rfl
  have hKind : readKind settings (readLevels settings levels) source .object =
      pure fun common => .record common rules (canonicalProperties properties)
        (canonicalExtra extra) := by
    rw [readKind, hRead, Traced.lift_ok, Traced.pure_bind,
      readExtra_of_lookup hContains hOthers hExtra, Traced.pure_bind,
      readProperties_of_lookup hDeclared hProperties, Traced.pure_bind]
    dsimp only
    rw [keys_canonicalProperties, checkRequired_eq_ok_iff.mpr hRules.required]
    rfl
  rw [toJson]
  exact readLevels_source hOwn hCommon hKind

theorem readLevels_combined {combinator : Combinator} {members : List Schema}
    (hNonempty : members ≠ [])
    (hMembers : ∀ member ∈ members,
      readLevels settings levels member.toJson = pure member.canonical) :
    readLevels settings (levels + 1) (Schema.combined combinator members).toJson =
      pure (.combined combinator (canonicalMembers members)) := by
  have hCombinators : combinators [(combinator.keyword, .array (memberList members))] =
      [combinator] := by
    cases combinator <;> simp [combinators, Combinator.all, Members.contains, Combinator.keyword]
  rw [toJson, readLevels, hCombinators]
  dsimp only
  rw [checkIgnored, Traced.pure_bind, readMembers, List.lookup_cons_self]
  cases members with
  | nil => exact absurd rfl hNonempty
  | cons first rest =>
    have hItems := items_memberList 0 hMembers
    rw [memberList] at hItems ⊢
    dsimp only
    rw [hItems]
    rfl

/-- A schema is read back if every schema inside it is, one level further down. -/
theorem readLevels_toJson_of_nested {schema : Schema} (hTop : schema.TopWellFormed settings)
    (hNested : schema.EachNested fun nested =>
      readLevels settings levels nested.toJson = pure nested.canonical) :
    readLevels settings (levels + 1) schema.toJson = pure schema.canonical := by
  cases schema with
  | combined combinator members => exact readLevels_combined hTop hNested
  | string common rules => exact readLevels_string hTop.1 hTop.2
  | numeric common type rules => exact readLevels_numeric hTop.1 hTop.2
  | boolean common => exact readLevels_boolean hTop
  | array common rules items => exact readLevels_array hTop.1 hTop.2 hNested
  | object common rules => exact readLevels_object hTop.1 hTop.2
  | record common rules properties extra =>
    exact readLevels_record hTop.1 hTop.2.1 hNested.1 hNested.2

/-- What was read is read back as its canonical schema, which is equal to it. -/
theorem readLevels_toJson {raw : Json} {schema : Schema} (hKeys : raw.KeysDistinct)
    (h : (readLevels settings levels raw).result = .ok schema) :
    readLevels settings levels schema.toJson = pure schema.canonical ∧
      schema.canonical.same schema = true := by
  -- The levels go down with the source and with the canonical form at once.
  induction levels generalizing raw schema with
  | zero => cases h
  | succ lower ih =>
    obtain ⟨lower', source, hLevels, rfl, hReads⟩ := reads_of_readLevels h
    cases hLevels
    have hTop : schema.TopWellFormed settings := hReads.topWellFormed hKeys
    have hNested := fun raw nested (hWithin : Within source raw) =>
      @ih raw nested (hWithin.keysDistinct hKeys)
    constructor
    · apply readLevels_toJson_of_nested hTop
      exact hReads.eachNested fun raw nested hWithin hRead => (hNested raw nested hWithin hRead).1
    · apply canonical_same_of_nested hTop
      exact hReads.eachNested fun raw nested hWithin hRead => (hNested raw nested hWithin hRead).2

end

end Schema

end ParamSchema
