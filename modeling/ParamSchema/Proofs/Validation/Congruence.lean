import ParamSchema.Proofs.Binary64.Divisibility
import ParamSchema.Proofs.Schema.Equality
import ParamSchema.Proofs.Validation.Acceptance
import ParamSchema.Proofs.Validation.Revalidation

/-!
# Values that are the same

A check does not tell values apart that are the same: it accepts both or neither, and what
it gives back for one is the same as what it gives back for the other.
-/

set_option autoImplicit false

namespace ParamSchema

open Results Validation

namespace Json

theorem keysDistinct_of_same {value other : Json} (hKeys : value.KeysDistinct)
    (hSame : value.same other = true) : other.KeysDistinct :=
  keysDistinct_of_equalBy hKeys hSame

theorem exists_members_of_same {members : List (String × Json)} {other : Json}
    (hKeys : (Members.keys members).Nodup) (hSame : (Json.object members).same other = true) :
    ∃ others, other = .object others ∧ EqualMembers Number.sameValue members others :=
  (equalBy_object_iff_equalMembers hKeys).mp hSame

end Json

theorem Common.Allows.of_same {common : Common} {value other : Json} {asTyped asTyped' : Prop}
    (h : common.Allows value asTyped) (hSame : value.same other = true)
    (hTyped : asTyped → asTyped') : common.Allows other asTyped' := by
  rcases h with ⟨hNullable, rfl⟩ | ⟨hListed, hValue⟩
  · refine .inl ⟨hNullable, ?_⟩
    cases other with
    | null => rfl
    | _ => cases hSame
  · refine .inr ⟨?_, hTyped hValue⟩
    intro choices hChoices
    obtain ⟨choice, hChoice, hEqual⟩ := hListed choices hChoices
    exact ⟨choice, hChoice, Json.same_trans hEqual hSame⟩

theorem NumberRules.Holds.of_same {type : NumericType} {rules : NumberRules} {x y : Binary64}
    (h : rules.Holds type x) (hSame : x.signedUnits = y.signedUnits) : rules.Holds type y := by
  obtain ⟨hFormat, hMin, hMax, hMultiple⟩ := h
  rw [hSame] at hFormat hMin hMax
  refine ⟨hFormat, hMin, hMax, ?_⟩
  intro divisor hDivisor
  rw [← Binary64.isMultipleOf_congr (Binary64.units_eq_of_signedUnits hSame) rfl]
  exact hMultiple divisor hDivisor

section

variable {members others : List (String × Json)}
  (hEqual : Json.EqualMembers Number.sameValue members others)

include hEqual

theorem ObjectRules.Holds.of_same {rules : ObjectRules} (h : rules.Holds members)
    (hKeys : (Members.keys members).Nodup) : rules.Holds others := by
  refine h.of_subset hKeys hEqual.perm.subset fun _ => ?_
  exact Members.length_le_of_keys_subset (hEqual.perm.nodup_iff.mp hKeys) hEqual.perm.symm.subset

theorem Json.EqualMembers.exists_undeclared {properties : List (String × Schema)}
    {member : String × Json} (hMember : member ∈ undeclared properties others) :
    ∃ value, (member.1, value) ∈ undeclared properties members ∧
      value.same member.2 = true := by
  obtain ⟨hOther, hName⟩ := List.mem_filter.mp hMember
  obtain ⟨value, hValue, hSame⟩ := hEqual.exists_left hOther
  exact ⟨value, List.mem_filter.mpr ⟨hValue, hName⟩, hSame⟩

end

namespace Schema

theorem satisfies_of_same_of_flat {schema : Schema} {value other : Json} (hFlat : schema.IsFlat)
    (hKeys : value.KeysDistinct) (hSame : value.same other = true) (h : schema.Satisfies value) :
    schema.Satisfies other := by
  cases schema with
  | string common rules =>
    rw [Satisfies] at h ⊢
    refine h.of_same hSame ?_
    rintro ⟨text, rfl, hRules⟩
    cases other with
    | string text' =>
      rw [← beq_iff_eq.mp hSame]
      exact ⟨text, rfl, hRules⟩
    | _ => cases hSame
  | numeric common type rules =>
    rw [Satisfies] at h ⊢
    refine h.of_same hSame ?_
    rintro ⟨number, rfl, hIntegral, hRules⟩
    obtain ⟨number', rfl, hNumbers⟩ := Json.equalBy_number_iff.mp hSame
    have hUnits := Number.sameValue_iff.mp hNumbers
    rw [Binary64.isIntegral_congr (Binary64.units_eq_of_signedUnits hUnits)] at hIntegral
    exact ⟨number', rfl, hIntegral, hRules.of_same hUnits⟩
  | boolean common =>
    rw [Satisfies] at h ⊢
    refine h.of_same hSame ?_
    rintro ⟨flag, rfl⟩
    cases other with
    | bool flag' => exact ⟨flag', rfl⟩
    | _ => cases hSame
  | object common rules =>
    rw [Satisfies] at h ⊢
    refine h.of_same hSame ?_
    rintro ⟨members, rfl, hRules⟩
    obtain ⟨others, rfl, hEqual⟩ := Json.exists_members_of_same hKeys.1 hSame
    exact ⟨others, rfl, hRules.of_same hEqual hKeys.1⟩
  | _ => cases hFlat

end Schema

namespace Validation

variable {limit : Option Nat} {depth : Nat}

theorem accepts_of_same_of_flat {schema : Schema} {value other : Json} (hFlat : schema.IsFlat)
    (hKeys : value.KeysDistinct) (hSame : value.same other = true)
    (h : Accepts limit depth schema value) : Accepts limit depth schema other := by
  rw [accepts_flat_iff hFlat] at h ⊢
  exact ⟨h.1, Schema.satisfies_of_same_of_flat hFlat hKeys hSame h.2⟩

theorem accepts_of_same {schema : Schema} {value other : Json} (hKeys : value.KeysDistinct)
    (hSame : value.same other = true) (h : Accepts limit depth schema value) :
    Accepts limit depth schema other := by
  induction schema generalizing depth value other with
  | combined combinator members ih =>
    -- Members that accept only the other value would change the count as well.
    have hCount : countPassing limit (depth + 1) members value =
        countPassing limit (depth + 1) members other := by
      apply Nat.le_antisymm
      · exact countPassing_le fun member hMember => ih member hMember hKeys hSame
      · exact countPassing_le fun member hMember => ih member hMember
          (Json.keysDistinct_of_same hKeys hSame) (Json.same_symm hKeys hSame)
    rw [accepts_combined_iff, hCount] at h
    exact accepts_combined_iff.mpr h
  | array common rules items ih =>
    rw [accepts_array_iff] at h ⊢
    refine ⟨h.1, h.2.of_same hSame ?_⟩
    rintro ⟨list, rfl, hRules, hItems⟩
    have hItemKeys : ∀ item ∈ list, item.KeysDistinct := Json.keysDistinctItems_iff.mp hKeys
    obtain ⟨others, rfl, hOthers⟩ := Json.equalBy_array_iff.mp hSame
    refine ⟨others, rfl, hRules.of_same hOthers.length_eq ?_, ?_⟩
    · intro hUnique
      exact Json.pairwise_of_forall₂_same hItemKeys hOthers (hRules.uniqueItems hUnique)
    · intro other hOther
      obtain ⟨item, hItem, hSameItem⟩ := Schema.exists_mem_of_forall₂ hOthers hOther
      exact ih (hItemKeys item hItem) hSameItem (hItems item hItem)
  | record common rules properties extra ihProperties ihExtra =>
    rw [accepts_record_iff] at h ⊢
    refine ⟨h.1, h.2.of_same hSame ?_⟩
    rintro ⟨members, rfl, hRules, hProperties, hExtra⟩
    have hMemberKeys := Json.keysDistinctMembers_iff.mp hKeys.2
    obtain ⟨others, rfl, hEqual⟩ := Json.exists_members_of_same hKeys.1 hSame
    refine ⟨others, rfl, hRules.of_same hEqual hKeys.1, ?_, ?_⟩
    · intro property hProperty other hOther
      obtain ⟨value, hValue, hSameValue⟩ := hEqual.exists_left (Members.mem_of_lookup hOther)
      exact ihProperties property hProperty (hMemberKeys _ hValue) hSameValue
        (hProperties property hProperty value (Members.lookup_of_mem hKeys.1 hValue))
    · cases extra with
      | allowed => trivial
      | refused =>
        refine List.eq_nil_iff_forall_not_mem.mpr fun other hOther => ?_
        obtain ⟨value, hValue, -⟩ := hEqual.exists_undeclared hOther
        rw [hExtra] at hValue
        cases hValue
      | matching schema =>
        intro other hOther
        obtain ⟨value, hValue, hSameValue⟩ := hEqual.exists_undeclared hOther
        exact ihExtra schema rfl (hMemberKeys _ (List.mem_of_mem_filter hValue)) hSameValue
          (hExtra _ hValue)
  | string common rules => exact accepts_of_same_of_flat trivial hKeys hSame h
  | numeric common type rules => exact accepts_of_same_of_flat trivial hKeys hSame h
  | boolean common => exact accepts_of_same_of_flat trivial hKeys hSame h
  | object common rules => exact accepts_of_same_of_flat trivial hKeys hSame h

end Validation

namespace Schema

structure TopKeysDistinct (schema : Schema) : Prop where
  names : (Members.keys schema.properties).Nodup
  defaults : ∀ property ∈ schema.properties, ∀ default ∈ property.2.default?, default.KeysDistinct

/-- A list of members can repeat a key, an object cannot: wherever something can be filled in, no
declared name and no key of a default is repeated. -/
def KeysDistinct : Schema → Prop := Everywhere TopKeysDistinct

theorem TopWellFormed.keysDistinct_default {settings : Settings} {schema : Schema}
    (h : schema.TopWellFormed settings) {default : Json} (hDefault : default ∈ schema.default?) :
    default.KeysDistinct := by
  cases schema with
  | combined combinator members => cases hDefault
  | string common rules => exact (h.1.default default hDefault).2
  | numeric common type rules => exact (h.1.default default hDefault).2
  | boolean common => exact (h.default default hDefault).2
  | array common rules items => exact (h.1.default default hDefault).2
  | object common rules => exact (h.1.default default hDefault).2
  | record common rules properties extra => exact (h.1.default default hDefault).2

theorem keysDistinct_of_readAt {settings : Settings} {root : Path} {raw : Json} {schema : Schema}
    (hRaw : raw.KeysDistinct) (hRead : (readAt root settings raw).result = .ok schema) :
    schema.KeysDistinct := by
  have hWell := topWellFormed_everywhere hRaw (readAt_eq_ok_iff.mp hRead)
  intro reached hReaches
  refine ⟨(hWell reached hReaches).nodup_names, ?_⟩
  intro property hProperty default hDefault
  have hInner : Inner reached property.2 := mem_properties_inner hProperty
  exact (hWell _ (hReaches.tail hInner)).keysDistinct_default hDefault

section

variable {agree : Number → Number → Bool} {properties properties' : List (String × Schema)}
  {extra extra' : Extra Schema} {members members' declared declared' others others' :
    List (String × Json)}

/-- Objects that are equal are filled in to objects that are equal, if their members are. The
declared properties may stand in different orders. -/
theorem equalMembers_of_fills (hNames : (Members.keys properties).Nodup)
    (hProperties : Members.Matches (fun property property' =>
      agreeing (Json.equalBy agree) property.default? property'.default? = true)
      properties properties')
    (hKeys : (Members.keys members).Nodup) (hEqual : Json.EqualMembers agree members members')
    (hDeclared : FillsDeclared properties members declared)
    (hOthers : FillsExtra extra (undeclared properties members) others)
    (hDeclared' : FillsDeclared properties' members' declared')
    (hOthers' : FillsExtra extra' (undeclared properties' members') others')
    (hProperty : ∀ key value value' filled filled' property property', (key, property) ∈ properties →
      (key, property') ∈ properties' → (key, value) ∈ members →
      Json.equalBy agree value value' = true → property.Fills value filled →
      property'.Fills value' filled' → Json.equalBy agree filled filled' = true)
    (hOther : ∀ key value value' filled filled', (key, value) ∈ members →
      Json.equalBy agree value value' = true → FillsOther extra value filled →
      FillsOther extra' value' filled' → Json.equalBy agree filled filled' = true) :
    Json.EqualMembers agree (declared ++ others) (declared' ++ others') := by
  have hKeys' : (Members.keys members').Nodup := hEqual.perm.nodup_iff.mp hKeys
  have hNames' : (Members.keys properties').Nodup := hProperties.perm.nodup_iff.mp hNames
  have hNodup := nodup_keys_of_fills hDeclared hOthers hNames hKeys
  have hNodup' := nodup_keys_of_fills hDeclared' hOthers' hNames' hKeys'
  -- The value under a key of one object is equal to the one under that key of the other.
  have hGiven {key : String} {value value' : Json} (hValue : members.lookup key = some value)
      (hValue' : members'.lookup key = some value') :
      (key, value) ∈ members ∧ Json.equalBy agree value value' = true := by
    have hMember := Members.mem_of_lookup hValue
    exact ⟨hMember, hEqual.equal key value value' hMember (Members.mem_of_lookup hValue')⟩
  constructor
  · rw [List.perm_ext_iff_of_nodup hNodup hNodup']
    intro key
    rw [mem_keys_of_fills_iff hDeclared hOthers, mem_keys_of_fills_iff hDeclared' hOthers',
      hEqual.perm.mem_iff]
    apply or_congr_right
    constructor
    · rintro ⟨property, hMember, hDefault⟩
      obtain ⟨property', hMember', hAgree⟩ := hProperties.exists_right hMember
      exact ⟨property', hMember', isSome_eq_of_agreeing hAgree ▸ hDefault⟩
    · rintro ⟨property', hMember', hDefault⟩
      obtain ⟨property, hMember, hAgree⟩ := hProperties.exists_left hMember'
      exact ⟨property, hMember, isSome_eq_of_agreeing hAgree ▸ hDefault⟩
  · intro key filled filled' hFilled hFilled'
    have hLookup := Members.lookup_of_mem hNodup hFilled
    have hLookup' := Members.lookup_of_mem hNodup' hFilled'
    have hPresent : members.lookup key = none ↔ members'.lookup key = none := by
      rw [Members.lookup_eq_none_iff, Members.lookup_eq_none_iff, hEqual.perm.mem_iff]
    rcases origin_of_lookup hNames hDeclared hOthers hKeys hLookup with
      ⟨property, hMember, -, hOrigin⟩ | ⟨hNoName, value, hValue, hFills⟩
    · rcases origin_of_lookup hNames' hDeclared' hOthers' hKeys' hLookup' with
        ⟨property', hMember', -, hOrigin'⟩ | ⟨hNoName, -⟩
      · rcases hOrigin with ⟨value, hValue, hFills⟩ | ⟨hAbsent, hDefault⟩
        · rcases hOrigin' with ⟨value', hValue', hFills'⟩ | ⟨hAbsent', -⟩
          · obtain ⟨hGivenMember, hSame⟩ := hGiven hValue hValue'
            exact hProperty key value value' filled filled' property property' hMember hMember'
              hGivenMember hSame hFills hFills'
          · cases hValue.symm.trans (hPresent.mpr hAbsent')
        · rcases hOrigin' with ⟨value', hValue', -⟩ | ⟨-, hDefault'⟩
          · cases hValue'.symm.trans (hPresent.mp hAbsent)
          · have hAgree := hProperties.related key property property' hMember hMember'
            rw [hDefault, hDefault'] at hAgree
            exact hAgree
      · exact absurd (hProperties.perm.mem_iff.mp (Members.mem_keys_of_mem hMember)) hNoName
    · rcases origin_of_lookup hNames' hDeclared' hOthers' hKeys' hLookup' with
        ⟨property', hMember', -, -⟩ | ⟨-, value', hValue', hFills'⟩
      · exact absurd (hProperties.perm.mem_iff.mpr (Members.mem_keys_of_mem hMember')) hNoName
      · obtain ⟨hGivenMember, hSame⟩ := hGiven hValue hValue'
        exact hOther key value value' filled filled' hGivenMember hSame hFills hFills'

end

theorem same_of_fills_of_same {schema : Schema} {value other filled filled' : Json}
    (hSchema : schema.KeysDistinct) (hKeys : value.KeysDistinct) (hSame : value.same other = true)
    (h : schema.Fills value filled) (h' : schema.Fills other filled') :
    filled.same filled' = true := by
  have hVerbatim {value other filled filled' : Json} (hSame : value.same other = true)
      (hFilled : filled = value) (hFilled' : filled' = other) : filled.same filled' = true := by
    rw [hFilled, hFilled']
    exact hSame
  induction schema generalizing value other filled filled' with
  | array common rules items ih =>
    cases value with
    | array list =>
      obtain ⟨list', rfl, hItems⟩ := Json.equalBy_array_iff.mp hSame
      obtain ⟨filledList, rfl, hList⟩ := h
      obtain ⟨filledList', rfl, hList'⟩ := h'
      rw [Json.KeysDistinct, Json.keysDistinctItems_iff] at hKeys
      refine Json.equalBy_array_iff.mpr ⟨filledList', rfl, ?_⟩
      exact forall₂_of_images hItems hList hList' fun item hItem =>
        ih (hSchema.inner .items) (hKeys item hItem)
    | _ =>
      cases other with
      | array list' => cases hSame
      | _ => exact hVerbatim hSame h h'
  | record common rules properties extra ihProperties ihExtra =>
    cases value with
    | object members =>
      obtain ⟨members', rfl, hEqual⟩ := Json.exists_members_of_same hKeys.1 hSame
      obtain ⟨declared, others, rfl, hDeclared, hOthers⟩ := h
      obtain ⟨declared', others', rfl, hDeclared', hOthers'⟩ := h'
      have hMemberKeys := Json.keysDistinctMembers_iff.mp hKeys.2
      have hNames : (Members.keys properties).Nodup := hSchema.top.names
      -- The members of both values may stand in different orders, so they are compared by key.
      have hNodup := nodup_keys_of_fills hDeclared hOthers hNames hKeys.1
      refine (Json.equalBy_object_iff_equalMembers hNodup).mpr ⟨_, rfl, ?_⟩
      have hProperties : Members.Matches (fun property property' =>
          agreeing Json.same property.default? property'.default? = true) properties properties := by
        refine ⟨.refl _, fun key property property' hMember hMember' => ?_⟩
        cases Members.eq_of_mem_of_nodup hNames hMember hMember' rfl
        exact agreeing_self fun default hDefault =>
          Json.same_self (hSchema.top.defaults _ hMember default hDefault)
      refine equalMembers_of_fills hNames hProperties hKeys.1 hEqual hDeclared hOthers
        hDeclared' hOthers' ?_ ?_
      · intro key value value' filled filled' property property' hProperty hProperty' hValue hSame
        cases Members.eq_of_mem_of_nodup hNames hProperty hProperty' rfl
        exact ihProperties _ hProperty (hSchema.inner (.property hProperty)) (hMemberKeys _ hValue)
          hSame
      · intro key value value' filled filled' hValue hSame hFills hFills'
        cases extra with
        | matching schema =>
          exact ihExtra schema rfl (hSchema.inner .extra) (hMemberKeys _ hValue) hSame hFills hFills'
        | _ => exact hVerbatim hSame hFills hFills'
    | _ =>
      cases other with
      | object members' => cases hSame
      | _ => exact hVerbatim hSame h h'
  | _ => exact hVerbatim hSame h h'

section

variable {limit : Option Nat} {schema : Schema} {value other : Json} {place : Path}
  {required : Bool}

theorem exists_checkAt_ok_iff : (∃ checked,
    (checkAt place limit schema required (some value)).result = .ok checked) ↔
      Accepts limit 1 schema value := by
  simp only [result_checkAt, mapError_eq_ok, validate, map_eq_ok, Accepts]
  constructor
  · rintro ⟨_, filled, hFilled, -⟩
    exact ⟨filled, hFilled⟩
  · rintro ⟨filled, hFilled⟩
    exact ⟨_, filled, hFilled, rfl⟩

theorem exists_checkAt_ok_iff_of_same (hKeys : value.KeysDistinct)
    (hSame : value.same other = true) :
    (∃ checked, (checkAt place limit schema required (some value)).result = .ok checked) ↔
      ∃ checked, (checkAt place limit schema required (some other)).result = .ok checked := by
  rw [exists_checkAt_ok_iff, exists_checkAt_ok_iff]
  constructor
  · exact accepts_of_same hKeys hSame
  · exact accepts_of_same (Json.keysDistinct_of_same hKeys hSame) (Json.same_symm hKeys hSame)

theorem same_of_checkAt_of_same (hSchema : schema.KeysDistinct) (hKeys : value.KeysDistinct)
    (hSame : value.same other = true) {checked checked' : Option Json}
    (h : (checkAt place limit schema required (some value)).result = .ok checked)
    (h' : (checkAt place limit schema required (some other)).result = .ok checked') :
    ∃ filled filled', checked = some filled ∧ checked' = some filled' ∧
      filled.same filled' = true := by
  simp only [result_checkAt, mapError_eq_ok, validate, map_eq_ok] at h h'
  obtain ⟨filled, hFilled, rfl⟩ := h
  obtain ⟨filled', hFilled', rfl⟩ := h'
  refine ⟨filled, filled', rfl, rfl, ?_⟩
  exact same_of_fills_of_same hSchema hKeys hSame (fills_of_check schema hFilled)
    (fills_of_check schema hFilled')

end

/-- Values that are the same are accepted alike, and what is given back for them is the same. -/
theorem checkAt_same_of_same {limit : Option Nat} {schema : Schema} {value other : Json}
    (hSchema : schema.KeysDistinct) (hKeys : value.KeysDistinct) (hSame : value.same other = true)
    (place : Path) (required : Bool) :
    ((∃ checked, (checkAt place limit schema required (some value)).result = .ok checked) ↔
      ∃ checked, (checkAt place limit schema required (some other)).result = .ok checked) ∧
    ∀ checked checked', (checkAt place limit schema required (some value)).result = .ok checked →
      (checkAt place limit schema required (some other)).result = .ok checked' →
      ∃ filled filled', checked = some filled ∧ checked' = some filled' ∧
        filled.same filled' = true :=
  ⟨exists_checkAt_ok_iff_of_same hKeys hSame,
    fun _ _ h h' => same_of_checkAt_of_same hSchema hKeys hSame h h'⟩

theorem checkAt_same_of_reordered :
    let schema : Schema := .record {} {} [("x", .numeric {} .number {}),
      ("on", .boolean { default := some (.bool true) })] .allowed
    let zero : Json := .number (.double .zero)
    let minusZero : Json := .number (.double ⟨true, 0, Binary64.zero.representable⟩)
    let filled : Json := .object [("x", zero), ("on", .bool true), ("note", .null)]
    (checkAt ⟨"p", []⟩ (some 64) schema true
      (some (.object [("x", zero), ("note", .null)]))).result = .ok (some filled) ∧
    ∃ filled', (checkAt ⟨"p", []⟩ (some 64) schema true
      (some (.object [("note", .null), ("x", minusZero)]))).result = .ok (some filled') ∧
      filled.same filled' = true := by
  intro schema zero minusZero filled
  have hRead : (readAt ⟨"schema", []⟩ {} (.object [("type", .string "object"), ("properties",
      .object [("x", .object [("type", .string "number")]),
        ("on", .object [("type", .string "boolean"), ("default", .bool true)])])])).result =
      .ok schema := rfl
  have h : (checkAt ⟨"p", []⟩ (some 64) schema true
      (some (.object [("x", zero), ("note", .null)]))).result = .ok (some filled) := rfl
  have hSchema : schema.KeysDistinct := by
    apply keysDistinct_of_readAt _ hRead
    simp [Json.KeysDistinct, Json.KeysDistinctMembers, Members.keys]
  have hKeys : (Json.object [("x", zero), ("note", .null)]).KeysDistinct := by
    simp [zero, Json.KeysDistinct, Json.KeysDistinctMembers, Members.keys]
  have hSame : (Json.object [("x", zero), ("note", .null)]).same
      (.object [("note", .null), ("x", minusZero)]) = true := by
    decide
  obtain ⟨hAccepts, hFilled⟩ := checkAt_same_of_same hSchema hKeys hSame ⟨"p", []⟩ true
  obtain ⟨checked, hChecked⟩ := hAccepts.mp ⟨_, h⟩
  obtain ⟨_, filled', hFirst, rfl, hEqual⟩ := hFilled _ _ h hChecked
  cases hFirst
  exact ⟨h, filled', hChecked, hEqual⟩

end Schema

end ParamSchema
