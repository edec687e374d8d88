import ParamSchema.Proofs.Json.Distinct
import ParamSchema.Proofs.Schema.WellFormed
import ParamSchema.Proofs.Validation.Verdict

/-!
# Checking again

What a check gives back is given back by a second check as it is, in the same order. The
second check meets what the first one put there: defaults that nothing has checked, objects
with more members than before, and items that may have become the same. A schema whose
defaults cannot be refused for one of these is settled.
-/

set_option autoImplicit false

namespace ParamSchema

open Results Validation

theorem Common.Allows.of_unlisted {common : Common} {value other : Json} {asTyped asTyped' : Prop}
    (h : common.Allows value asTyped) (hChoices : common.choices = none) (hNull : value ≠ .null)
    (hTyped : asTyped → asTyped') : common.Allows other asTyped' := by
  rcases h with ⟨-, hValue⟩ | ⟨-, hValue⟩
  · exact absurd hValue hNull
  · refine .inr ⟨?_, hTyped hValue⟩
    intro choices hSome
    rw [hChoices] at hSome
    cases hSome

theorem Common.WellFormed.choices_eq_none {type : ValueType} {common : Common}
    (h : common.WellFormed type) (hType : type.isScalar = false) : common.choices = none := by
  rw [Option.eq_none_iff_forall_ne_some]
  intro items hItems
  have hScalar := (h.choices items hItems).1.1
  rw [hType] at hScalar
  cases hScalar

theorem ArrayRules.Holds.of_same {rules : ArrayRules} {items others : List Json}
    (h : rules.Holds items) (hLength : items.length = others.length)
    (hUnique : rules.uniqueItems = true → others.Pairwise fun a b => a.same b = false) :
    rules.Holds others := by
  obtain ⟨hMin, hMax, -⟩ := h
  rw [hLength] at hMin hMax
  exact ⟨hMin, hMax, hUnique⟩

theorem ObjectRules.Holds.of_subset {rules : ObjectRules} {members others : List (String × Json)}
    (h : rules.Holds members) (hKeys : (Members.keys members).Nodup)
    (hSubset : Members.keys members ⊆ Members.keys others)
    (hMost : rules.maxProperties ≠ none → others.length ≤ members.length) :
    rules.Holds others := by
  constructor
  case minProperties =>
    intro least hLeast
    exact Nat.le_trans (h.minProperties least hLeast)
      (Members.length_le_of_keys_subset hKeys hSubset)
  case maxProperties =>
    intro most hSome
    have hLength : others.length ≤ members.length :=
      hMost (Option.isSome_iff_ne_none.mp (Option.isSome_of_mem hSome))
    exact Nat.le_trans hLength (h.maxProperties most hSome)
  case required =>
    intro name hName
    exact hSubset (h.required name hName)

namespace Schema

theorem mem_properties_inner {schema : Schema} {property : String × Schema}
    (h : property ∈ schema.properties) : Inner schema property.2 := by
  cases schema with
  | record common rules properties extra => exact .property h
  | _ => cases h

theorem TopWellFormed.nodup_names {settings : Settings} {schema : Schema}
    (h : schema.TopWellFormed settings) : (Members.keys schema.properties).Nodup := by
  cases schema with
  | record common rules properties extra => exact h.2.2
  | _ => exact List.nodup_nil

section

variable {properties : List (String × Schema)} {extra : Extra Schema}
  {members declared others : List (String × Json)}
  (hNames : (Members.keys properties).Nodup)
  (hDeclared : FillsDeclared properties members declared)
  (hOthers : FillsExtra extra (undeclared properties members) others)

include hDeclared hOthers

theorem keys_subset_of_fills : Members.keys members ⊆ Members.keys (declared ++ others) :=
  fun _ hKey => (mem_keys_of_fills_iff hDeclared hOthers).mpr (.inl hKey)

theorem keys_of_fills_subset (hNone : ∀ property ∈ properties, property.2.default? = none) :
    Members.keys (declared ++ others) ⊆ Members.keys members := by
  intro key hKey
  rcases (mem_keys_of_fills_iff hDeclared hOthers).mp hKey with hKey | ⟨property, hProperty, hSome⟩
  · exact hKey
  · rw [hNone _ hProperty] at hSome
    cases hSome

theorem undeclared_of_fills : undeclared properties (declared ++ others) = others := by
  have hDeclaredKeys : undeclared properties declared = [] := by
    rw [undeclared, List.filter_eq_nil_iff]
    intro member hMember
    have hKey : member.1 ∈ Members.keys declared := Members.mem_keys_of_mem hMember
    rw [keys_of_fillsDeclared hDeclared] at hKey
    obtain ⟨property, hProperty, -⟩ := mem_keys_kept.mp hKey
    rw [Members.contains_eq_true_iff.mpr (Members.mem_keys_of_mem hProperty)]
    decide
  have hOtherKeys : undeclared properties others = others := by
    rw [undeclared, List.filter_eq_self]
    intro member hMember
    have hKey : member.1 ∈ Members.keys others := Members.mem_keys_of_mem hMember
    rw [keys_of_fillsExtra hOthers, mem_keys_undeclared] at hKey
    rw [Bool.not_eq_true', ← Bool.not_eq_true, Members.contains_eq_true_iff]
    exact hKey.2
  rw [undeclared] at hDeclaredKeys hOtherKeys ⊢
  rw [List.filter_append, hDeclaredKeys, hOtherKeys, List.nil_append]

include hNames

theorem kept_of_fills : kept properties (declared ++ others) = kept properties members := by
  apply List.filter_congr
  rintro ⟨name, property⟩ hProperty
  rw [Bool.eq_iff_iff, Bool.or_eq_true, Bool.or_eq_true, Members.contains_eq_true_iff,
    Members.contains_eq_true_iff, mem_keys_of_fills_iff hDeclared hOthers]
  constructor
  · rintro ((hKey | ⟨property', hProperty', hSome⟩) | hSome)
    · exact .inl hKey
    · cases Members.eq_of_mem_of_nodup hNames hProperty hProperty' rfl
      exact .inr hSome
    · exact .inr hSome
  · exact Or.imp_left .inl

theorem comesFrom_of_lookup {property : String × Schema} (hProperty : property ∈ properties)
    {value : Json} (hValue : (declared ++ others).lookup property.1 = some value) :
    ComesFrom members property (property.1, value) := by
  rcases List.mem_append.mp (Members.mem_of_lookup hValue) with hMember | hMember
  · obtain ⟨property', hProperty', hComes⟩ :=
      exists_mem_of_forall₂ (fillsDeclared_iff.mp hDeclared) hMember
    cases Members.eq_of_mem_of_nodup hNames (mem_of_mem_kept hProperty') hProperty hComes.1
    exact hComes
  · have hKey : property.1 ∈ Members.keys others := Members.mem_keys_of_mem hMember
    rw [keys_of_fillsExtra hOthers, mem_keys_undeclared] at hKey
    exact absurd (Members.mem_keys_of_mem hProperty) hKey.2

theorem origin_of_lookup (hKeys : (Members.keys members).Nodup) {key : String} {result : Json}
    (hResult : (declared ++ others).lookup key = some result) :
    (∃ property, (key, property) ∈ properties ∧ ComesFrom members (key, property) (key, result)) ∨
      key ∉ Members.keys properties ∧
        ∃ given, members.lookup key = some given ∧ FillsOther extra given result := by
  by_cases hName : key ∈ Members.keys properties
  · obtain ⟨⟨key, property⟩, hProperty, rfl⟩ := List.mem_map.mp hName
    exact .inl ⟨property, hProperty,
      comesFrom_of_lookup hNames hDeclared hOthers hProperty hResult⟩
  · refine .inr ⟨hName, ?_⟩
    rcases List.mem_append.mp (Members.mem_of_lookup hResult) with hMember | hMember
    · have hKey : key ∈ Members.keys declared := Members.mem_keys_of_mem hMember
      rw [keys_of_fillsDeclared hDeclared] at hKey
      obtain ⟨property, hProperty, -⟩ := mem_keys_kept.mp hKey
      exact absurd (Members.mem_keys_of_mem hProperty) hName
    · obtain ⟨⟨key', given⟩, hGiven, rfl, hFills⟩ :=
        exists_mem_of_forall₂ (fillsExtra_iff.mp hOthers) hMember
      exact ⟨given, Members.lookup_of_mem hKeys (List.mem_of_mem_filter hGiven), hFills⟩

omit hOthers in
theorem lookup_of_mem_declared {member : String × Json} (hMember : member ∈ declared) :
    (declared ++ others).lookup member.1 = some member.2 := by
  have hKeys : (Members.keys declared).Nodup := by
    rw [keys_of_fillsDeclared hDeclared]
    exact hNames.sublist (List.filter_sublist.map _)
  rw [List.lookup_append, Members.lookup_of_mem hKeys hMember, Option.some_or]

end

variable {settings : Settings} {limit : Nat} {schema : Schema} {value filled : Json}

def NoDefaults : Schema → Prop :=
  Everywhere fun reached => ∀ property ∈ reached.properties, property.2.default? = none

theorem same_of_fills (hWell : schema.Everywhere (TopWellFormed settings))
    (hNone : schema.NoDefaults) (hKeys : value.KeysDistinct) (h : schema.Fills value filled) :
    value.same filled = true := by
  induction h using Fills.induction with
  | verbatim schema value h => exact Json.same_self hKeys
  | array common rules items list filledList hList ih =>
    refine Json.equalBy_array_iff.mpr ⟨filledList, rfl, forall₂_imp_of_mem hList ?_⟩
    intro item hItem result _ hFills
    have hItemKeys : item.KeysDistinct := Json.keysDistinctItems_iff.mp hKeys item hItem
    exact ih item result hFills (hWell.inner .items) (hNone.inner .items) hItemKeys
  | record common rules properties extra members declared others hDeclared hOthers ihProperties
      ihExtra =>
    have hNames : (Members.keys properties).Nodup := hWell.top.nodup_names
    have hNodup : (Members.keys (declared ++ others)).Nodup :=
      nodup_keys_of_fills hDeclared hOthers hNames hKeys.1
    have hSubset := keys_subset_of_fills hDeclared hOthers
    have hLength : members.length = (declared ++ others).length :=
      Nat.le_antisymm (Members.length_le_of_keys_subset hKeys.1 hSubset)
        (Members.length_le_of_keys_subset hNodup
          (keys_of_fills_subset hDeclared hOthers hNone.top))
    refine Json.equalBy_object_iff.mpr ⟨_, rfl, hLength, ?_⟩
    rintro ⟨key, value⟩ hMember
    have hValueKeys : value.KeysDistinct := Json.keysDistinctMembers_iff.mp hKeys.2 _ hMember
    have hValue : members.lookup key = some value := Members.lookup_of_mem hKeys.1 hMember
    obtain ⟨⟨key, found⟩, hFound, rfl⟩ := List.mem_map.mp (hSubset (Members.mem_keys_of_mem hMember))
    have hLookup := Members.lookup_of_mem hNodup hFound
    refine ⟨found, hLookup, ?_⟩
    rcases origin_of_lookup hNames hDeclared hOthers hKeys.1 hLookup with
      ⟨property, hProperty, -, ⟨given, hGiven, hFills⟩ | ⟨hAbsent, -⟩⟩ | ⟨-, given, hGiven, hFills⟩
    · cases hValue.symm.trans hGiven
      exact ihProperties _ hProperty value found hFills (hWell.inner (.property hProperty))
        (hNone.inner (.property hProperty)) hValueKeys
    · cases hValue.symm.trans hAbsent
    · cases hValue.symm.trans hGiven
      cases extra with
      | matching schema =>
        exact ihExtra schema rfl value found hFills (hWell.inner .extra) (hNone.inner .extra)
          hValueKeys
      | _ =>
        cases hFills
        exact Json.same_self hValueKeys

/-- What a second check needs at the top of a schema. Every declared default is accepted and given
back as it is; an object with a bound on its members gets none added, and items that have to differ
get none anywhere inside. -/
structure SettledTop (limit : Nat) (schema : Schema) : Prop where
  defaults : ∀ property ∈ schema.properties, ∀ default ∈ property.2.default?,
    property.2.validate (some limit) false (some default) = .ok (some default)
  counted : ∀ common rules properties extra, schema = .record common rules properties extra →
    rules.maxProperties ≠ none → ∀ property ∈ properties, property.2.default? = none
  compared : ∀ common rules items, schema = .array common rules items →
    rules.uniqueItems = true → items.NoDefaults

def Settled (limit : Nat) : Schema → Prop := Everywhere (SettledTop limit)

theorem Settled.record {limit : Nat} {common : Common} {rules : ObjectRules}
    {properties : List (String × Schema)} {extra : Extra Schema} (hMost : rules.maxProperties = none)
    (hProperties : ∀ property ∈ properties, (∀ default ∈ property.2.default?,
      property.2.validate (some limit) false (some default) = .ok (some default)) ∧
      property.2.Settled limit)
    (hExtra : ∀ schema, extra = .matching schema → schema.Settled limit) :
    (Schema.record common rules properties extra).Settled limit := by
  refine .of_inner ⟨fun property hProperty => (hProperties property hProperty).1, ?_, nofun⟩ ?_
  · rintro _ _ _ _ hEq hSome
    cases hEq
    exact absurd hMost hSome
  · intro nested hInner
    cases hInner with
    | property hProperty => exact (hProperties _ hProperty).2
    | extra => exact hExtra nested rfl

def DefaultsSettled : Schema → Prop :=
  Everywhere fun reached => ∀ property ∈ reached.properties, ∀ default ∈ property.2.default?,
    property.2.Satisfies default ∧ property.2.Fills default default

/-- Within the limit the depth at which a default stands does not matter. -/
theorem Settled.defaultsSettled (h : schema.Settled limit) (hNesting : schema.nesting ≤ limit) :
    schema.DefaultsSettled := by
  intro reached hReaches property hProperty default hDefault
  have hInner : Inner reached property.2 := mem_properties_inner hProperty
  have hDepth : property.2.nesting ≤ limit :=
    Nat.le_trans (Reaches.nesting_le (hReaches.tail hInner)) hNesting
  have hOk := (h reached hReaches).defaults property hProperty default hDefault
  rw [validate, map_eq_ok] at hOk
  obtain ⟨checked, hChecked, hSome⟩ := hOk
  cases hSome
  rw [check_limit_eq_unlimited default (by omega)] at hChecked
  exact check_eq_ok_iff.mp hChecked

/-- Where every default that is filled in stays as it is, so does all that is filled in. -/
theorem fills_again (hWell : schema.Everywhere (TopWellFormed settings))
    (hDefaults : schema.DefaultsSettled) (h : schema.Fills value filled) :
    schema.Fills filled filled := by
  induction h using Fills.induction with
  | verbatim schema value h => exact h
  | array common rules items list filledList hList ih =>
    refine ⟨filledList, rfl, List.forall₂_same.mpr ?_⟩
    intro result hResult
    obtain ⟨item, -, hFills⟩ := exists_mem_of_forall₂ hList hResult
    exact ih item result hFills (hWell.inner .items) (hDefaults.inner .items)
  | record common rules properties extra members declared others hDeclared hOthers ihProperties
      ihExtra =>
    have hNames : (Members.keys properties).Nodup := hWell.top.nodup_names
    have hDeclaredAgain : FillsDeclared properties (declared ++ others) declared := by
      rw [fillsDeclared_iff, kept_of_fills hNames hDeclared hOthers]
      refine forall₂_imp_of_mem (fillsDeclared_iff.mp hDeclared) ?_
      rintro property hKept member hMember ⟨hKey, hComes⟩
      have hProperty : property ∈ properties := mem_of_mem_kept hKept
      refine ⟨hKey, .inl ⟨member.2, ?_, ?_⟩⟩
      · rw [hKey]
        exact lookup_of_mem_declared hNames hDeclared hMember
      · rcases hComes with ⟨given, -, hFills⟩ | ⟨-, hDefault⟩
        · exact ihProperties property hProperty given member.2 hFills
            (hWell.inner (.property hProperty)) (hDefaults.inner (.property hProperty))
        · exact (hDefaults.top property hProperty member.2 hDefault).2
    have hOthersAgain : FillsExtra extra others others := by
      cases extra with
      | allowed => rfl
      | refused => rfl
      | matching schema =>
        rw [FillsExtra, List.forall₂_same]
        rw [FillsExtra] at hOthers
        intro result hResult
        obtain ⟨member, -, -, hFills⟩ := exists_mem_of_forall₂ hOthers hResult
        exact ⟨rfl, ihExtra schema rfl member.2 result.2 hFills (hWell.inner .extra)
          (hDefaults.inner .extra)⟩
    refine ⟨declared, others, rfl, hDeclaredAgain, ?_⟩
    rw [undeclared_of_fills hDeclared hOthers]
    exact hOthersAgain

theorem satisfies_of_fills (hWell : schema.Everywhere (TopWellFormed settings))
    (hSettled : schema.Settled limit) (hDefaults : schema.DefaultsSettled)
    (hKeys : value.KeysDistinct) (hSatisfies : schema.Satisfies value)
    (h : schema.Fills value filled) : schema.Satisfies filled := by
  induction h using Fills.induction with
  | verbatim schema value h => exact hSatisfies
  | array common rules items list filledList hList ih =>
    have hItemKeys : ∀ item ∈ list, item.KeysDistinct := Json.keysDistinctItems_iff.mp hKeys
    rw [Satisfies] at hSatisfies ⊢
    refine hSatisfies.of_unlisted (hWell.top.1.choices_eq_none rfl) (by simp) ?_
    rintro ⟨_, hEq, hRules, hItems⟩
    cases hEq
    refine ⟨filledList, rfl, hRules.of_same hList.length_eq ?_, ?_⟩
    · -- Items that only change the order of their members stay different.
      intro hUnique
      refine Json.pairwise_of_forall₂_same hItemKeys ?_ (hRules.uniqueItems hUnique)
      refine forall₂_imp_of_mem hList fun item hItem result _ hFills => ?_
      exact same_of_fills (hWell.inner .items) (hSettled.top.compared _ _ _ rfl hUnique)
        (hItemKeys item hItem) hFills
    · intro result hResult
      obtain ⟨item, hItem, hFills⟩ := exists_mem_of_forall₂ hList hResult
      exact ih item result hFills (hWell.inner .items) (hSettled.inner .items)
        (hDefaults.inner .items) (hItemKeys item hItem) (hItems item hItem)
  | record common rules properties extra members declared others hDeclared hOthers ihProperties
      ihExtra =>
    have hNames : (Members.keys properties).Nodup := hWell.top.nodup_names
    have hMemberKeys := Json.keysDistinctMembers_iff.mp hKeys.2
    rw [Satisfies] at hSatisfies ⊢
    refine hSatisfies.of_unlisted (hWell.top.1.choices_eq_none rfl) (by simp) ?_
    rintro ⟨_, hEq, hRules, hProperties, hExtra⟩
    cases hEq
    refine ⟨_, rfl, ?_, ?_, ?_⟩
    · -- Only defaults add members, and a record with a bound has none.
      refine hRules.of_subset hKeys.1 (keys_subset_of_fills hDeclared hOthers) fun hMost => ?_
      exact Members.length_le_of_keys_subset (nodup_keys_of_fills hDeclared hOthers hNames hKeys.1)
        (keys_of_fills_subset hDeclared hOthers (hSettled.top.counted _ _ _ _ rfl hMost))
    · rw [propertiesSatisfied_iff] at hProperties ⊢
      intro property hProperty found hFound
      obtain ⟨-, ⟨given, hGiven, hFills⟩ | ⟨-, hDefault⟩⟩ :=
        comesFrom_of_lookup hNames hDeclared hOthers hProperty hFound
      · exact ihProperties property hProperty given found hFills (hWell.inner (.property hProperty))
          (hSettled.inner (.property hProperty)) (hDefaults.inner (.property hProperty))
          (hMemberKeys _ (Members.mem_of_lookup hGiven)) (hProperties property hProperty given hGiven)
      · exact (hDefaults.top property hProperty found hDefault).1
    · rw [undeclared_of_fills hDeclared hOthers]
      cases extra with
      | allowed => trivial
      | refused => exact hOthers.trans hExtra
      | matching schema =>
        rw [ExtraSatisfied] at hExtra ⊢
        rw [FillsExtra] at hOthers
        intro result hResult
        obtain ⟨member, hMember, -, hFills⟩ := exists_mem_of_forall₂ hOthers hResult
        exact ihExtra schema rfl member.2 result.2 hFills (hWell.inner .extra)
          (hSettled.inner .extra) (hDefaults.inner .extra)
          (hMemberKeys member (List.mem_of_mem_filter hMember)) (hExtra member hMember)

/-- What a check against a settled schema gives back is given back by another check exactly as it
is. -/
theorem checkAt_filled_again {settings : Settings} {root place : Path} {raw : Json}
    (hRaw : raw.KeysDistinct) (hRead : (readAt root settings raw).result = .ok schema)
    (hSettled : schema.Settled settings.maxDepth) (hKeys : value.KeysDistinct) {required : Bool}
    (h : (checkAt place (some settings.maxDepth) schema required (some value)).result =
      .ok (some filled)) :
    (checkAt place (some settings.maxDepth) schema required (some filled)).result =
      .ok (some filled) := by
  have hNesting : schema.nesting ≤ settings.maxDepth := nesting_le_of_readAt hRead
  have hWell : schema.Everywhere (TopWellFormed settings) :=
    topWellFormed_everywhere hRaw (readAt_eq_ok_iff.mp hRead)
  have hDefaults : schema.DefaultsSettled := hSettled.defaultsSettled hNesting
  rw [checkAt_limit_eq_unlimited place required _ hNesting, checkAt_eq_ok_iff,
    check_eq_ok_iff] at h ⊢
  obtain ⟨hSatisfies, hFills⟩ := h
  exact ⟨satisfies_of_fills hWell hSettled hDefaults hKeys hSatisfies hFills,
    fills_again hWell hDefaults hFills⟩

theorem checkAt_filled_again_reordered :
    let item : Schema := .record {} {} [("a", .boolean {})] .allowed
    let list : Schema := .array {} { uniqueItems := true } item
    let schema : Schema :=
      .record {} {} [("on", .boolean { default := some (.bool true) }), ("list", list)] .allowed
    let value : Json := .object [("list", .array
      [.object [("b", .null), ("a", .bool true)], .object [("b", .null)]])]
    let filled : Json := .object [("on", .bool true), ("list", .array
      [.object [("a", .bool true), ("b", .null)], .object [("b", .null)]])]
    (checkAt ⟨"p", []⟩ (some 64) schema true (some value)).result = .ok (some filled) ∧
      (checkAt ⟨"p", []⟩ (some 64) schema true (some filled)).result = .ok (some filled) := by
  intro item list schema value filled
  have hRead : (readAt ⟨"schema", []⟩ {} (.object [("type", .string "object"),
      ("properties", .object [("on", .object [("type", .string "boolean"), ("default", .bool true)]),
        ("list", .object [("type", .string "array"), ("uniqueItems", .bool true),
          ("items", .object [("type", .string "object"),
            ("properties", .object [("a", .object [("type", .string "boolean")])])])])])])).result =
      .ok schema := rfl
  have hFlag (common : Common) : Settled 64 (.boolean common) :=
    .of_inner ⟨nofun, nofun, nofun⟩ nofun
  have hItem : Settled 64 item :=
    .record rfl (List.forall_mem_singleton.mpr ⟨nofun, hFlag _⟩) nofun
  have hNone : NoDefaults (.record {} {} [("a", .boolean {})] .allowed) := by
    refine .of_inner (List.forall_mem_singleton.mpr rfl) ?_
    rintro nested (_ | hProperty)
    rw [List.mem_singleton.mp hProperty]
    exact .of_inner nofun nofun
  have hList : Settled 64 (.array {} { uniqueItems := true } item) := by
    refine .of_inner ⟨nofun, nofun, ?_⟩ ?_
    · rintro common rules items hEq -
      cases hEq
      exact hNone
    · rintro nested (_ | _)
      exact hItem
  have hSettled : Settled 64 schema := by
    refine .record rfl (List.forall_mem_cons.mpr ⟨⟨?_, hFlag _⟩,
      List.forall_mem_singleton.mpr ⟨nofun, hList⟩⟩) nofun
    rintro default hDefault
    cases hDefault
    rfl
  have h : (checkAt ⟨"p", []⟩ (some 64) schema true (some value)).result = .ok (some filled) := rfl
  refine ⟨h, checkAt_filled_again ?_ hRead hSettled ?_ h⟩
  · simp [Json.KeysDistinct, Json.KeysDistinctMembers, Members.keys]
  · simp [value, Json.KeysDistinct, Json.KeysDistinctMembers, Json.KeysDistinctItems, Members.keys]

end Schema

end ParamSchema
