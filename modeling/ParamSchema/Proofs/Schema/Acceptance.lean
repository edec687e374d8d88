import ParamSchema.Proofs.Schema.Grammar

/-!
# What can be read

The reader accepts exactly what is derivable in the grammar of schemas: a leaf if its
keywords are right, a combinator if its members are, and both if what nests inside can
be read one level further down.
-/

set_option autoImplicit false

namespace ParamSchema.Schema

open Results

section

variable {settings : Settings} {read : Json → Reading Schema} {source : Source}

def Readable (read : Json → Reading Schema) (raw : Json) : Prop :=
  ∃ schema, (read raw).result = .ok schema

theorem exists_items_ok_iff {index : Nat} {items : List Json} :
    (∃ members, (Reading.items read index items).result = .ok members) ↔
      ∀ item ∈ items, Readable read item := by
  simp only [items_result_eq_ok_iff]
  exact exists_forall₂_iff

theorem exists_members_ok_iff {members : Source} :
    (∃ properties, (Reading.members read members).result = .ok properties) ↔
      ∀ member ∈ members, Readable read member.2 := by
  simp only [members_result_eq_ok_iff, exists_forall₂_iff]
  constructor
  · rintro h member hMember
    obtain ⟨⟨key, schema⟩, -, hRead⟩ := h member hMember
    exact ⟨schema, hRead⟩
  · rintro h member hMember
    obtain ⟨schema, hRead⟩ := h member hMember
    exact ⟨(member.1, schema), rfl, hRead⟩

theorem exists_readItems_ok_iff : (∃ items, (readItems read source).result = .ok items) ↔
    ∃ members, source.lookup "items" = some (.object members) ∧
      Readable read (.object members) := by
  constructor
  · rintro ⟨items, hItems⟩
    obtain ⟨members, hLookup, hRead⟩ := readItems_ok hItems
    exact ⟨members, hLookup, items, hRead⟩
  · rintro ⟨members, hLookup, items, hRead⟩
    refine ⟨items, ?_⟩
    rw [readItems, Reading.inside, Traced.result_mapBoth, mapError_eq_ok, hLookup]
    exact hRead

theorem exists_readExtra_ok_iff : (∃ extra, (readExtra read source).result = .ok extra) ↔
    Keyword source "additionalProperties" fun value => "properties" ∈ Members.keys source ∧
      (ValueType.boolean.Has value ∨ ValueType.object.Has value ∧ Readable read value) := by
  unfold readExtra Keyword
  cases source.lookup "additionalProperties" with
  | none => simp
  | some value =>
    simp only [Reading.inside, Traced.result_mapBoth, mapError_eq_ok, Option.some.injEq,
      forall_eq', ← Members.contains_eq_true_iff]
    cases Members.contains source "properties" with
    | false => simp [Reading.reject]
    | true =>
      cases value with
      | bool allowed => simp [ValueType.Has]
      | object members =>
        simp only [Bool.not_true, Bool.false_eq_true, if_false, Traced.result_bind,
          Traced.result_pure, exists_bind_eq_ok]
        simp [ValueType.Has, Readable]
      | _ => simp [ValueType.Has, Reading.reject]

theorem exists_readProperties_ok_iff :
    (∃ found, (readProperties read source).result = .ok found) ↔
      Keyword source "properties" fun value =>
        ∃ members, value = .object members ∧ ∀ member ∈ members, Readable read member.2 := by
  simp only [readProperties_eq_ok_iff, Keyword]
  constructor
  · rintro ⟨found, ⟨hNone, -⟩ | ⟨members, properties, hLookup, -, hMembers⟩⟩ value hValue
    · rw [hNone] at hValue
      cases hValue
    · cases hLookup.symm.trans hValue
      exact ⟨members, rfl, exists_members_ok_iff.mp ⟨properties, hMembers⟩⟩
  · intro h
    cases hLookup : source.lookup "properties" with
    | none => exact ⟨none, .inl ⟨rfl, rfl⟩⟩
    | some value =>
      obtain ⟨members, rfl, hReadable⟩ := h value hLookup
      obtain ⟨properties, hMembers⟩ := exists_members_ok_iff.mpr hReadable
      exact ⟨some properties, .inr ⟨members, properties, rfl, rfl, hMembers⟩⟩

theorem mem_declared_iff {found : Option (List (String × Schema))}
    (h : (readProperties read source).result = .ok found) {name : String} :
    name ∈ found.elim [] Members.keys ↔ DeclaresName source name := by
  unfold DeclaresName
  rcases readProperties_eq_ok_iff.mp h with ⟨hNone, rfl⟩ | ⟨members, properties, hLookup, rfl, hOk⟩
  · simp [hNone]
  · rw [Option.elim_some, ← keys_of_members_ok hOk]
    constructor
    · intro hName
      exact ⟨members, hLookup, hName⟩
    · rintro ⟨members', hLookup', hName⟩
      cases hLookup.symm.trans hLookup'
      exact hName

theorem exists_readObject_ok_iff :
    (∃ leaf, (readKind settings read source .object).result = .ok leaf) ↔
      ObjectForm settings (Readable read) source := by
  simp only [readKind, Traced.result_bind, Traced.result_lift, exists_bind_eq_ok]
  have hDeclared {rules : ObjectRules} {found : Option (List (String × Schema))}
      (hRules : objectRules source = .ok rules)
      (hFound : (readProperties read source).result = .ok found) :
      checkRequired settings rules (found.elim [] Members.keys) = .ok () ↔
        (settings.strictRequired = true → ∀ name, RequiresName source name →
          DeclaresName source name) := by
    simp only [checkRequired_eq_ok_iff, mem_required_iff hRules, mem_declared_iff hFound]
  constructor
  · rintro ⟨rules, hRules, extra, hExtra, found, hFound, hLeaf⟩
    have hRequired : checkRequired settings rules (found.elim [] Members.keys) = .ok () := by
      cases found <;>
      · simp only [Traced.result_bind, Traced.result_lift, exists_bind_eq_ok] at hLeaf
        obtain ⟨_, hRequired, -⟩ := hLeaf
        exact hRequired
    obtain ⟨hMin, hMax, hNames⟩ := exists_objectRules_ok_iff.mp ⟨rules, hRules⟩
    exact ⟨hMin, hMax, hNames, exists_readExtra_ok_iff.mp ⟨extra, hExtra⟩,
      exists_readProperties_ok_iff.mp ⟨found, hFound⟩, (hDeclared hRules hFound).mp hRequired⟩
  · rintro ⟨hMin, hMax, hNames, hExtra, hProperties, hStrict⟩
    obtain ⟨rules, hRules⟩ := exists_objectRules_ok_iff.mpr ⟨hMin, hMax, hNames⟩
    obtain ⟨extra, hExtra⟩ := exists_readExtra_ok_iff.mpr hExtra
    obtain ⟨found, hFound⟩ := exists_readProperties_ok_iff.mpr hProperties
    have hRequired : checkRequired settings rules (found.elim [] Members.keys) = .ok () :=
      (hDeclared hRules hFound).mpr hStrict
    refine ⟨rules, hRules, extra, hExtra, found, hFound, ?_⟩
    cases found <;>
    · simp only [Traced.result_bind, Traced.result_lift, exists_bind_eq_ok]
      exact ⟨(), hRequired, _, rfl⟩

theorem exists_readKind_ok_iff {type : ValueType} :
    (∃ leaf, (readKind settings read source type).result = .ok leaf) ↔
      KindForm settings (Readable read) source type := by
  cases type with
  | string =>
    simp only [readKind, Traced.result_bind, Traced.result_lift, Traced.result_pure,
      exists_bind_eq_ok, Except.ok.injEq, exists_eq', and_true]
    exact exists_stringRules_ok_iff
  | numeric kind =>
    cases kind with
    | number =>
      simp only [readKind, Traced.result_bind, Traced.result_lift, Traced.result_pure,
        exists_bind_eq_ok, Except.ok.injEq, exists_eq', and_true]
      exact exists_numberRules_ok_iff
    | integer =>
      simp only [readKind, Traced.result_bind, Traced.result_lift, Traced.result_pure,
        exists_bind_eq_ok, Except.ok.injEq, exists_eq', and_true, exists_and_right,
        exists_numberRules_ok_iff, exists_integerFormat_ok_iff]
      exact Iff.rfl
  | boolean => exact iff_of_true ⟨_, rfl⟩ trivial
  | array =>
    simp only [readKind, Traced.result_bind, Traced.result_lift, Traced.result_pure,
      exists_bind_eq_ok, Except.ok.injEq, exists_eq', and_true, exists_and_right,
      exists_arrayRules_ok_iff, exists_readItems_ok_iff]
    constructor
    · rintro ⟨⟨hMin, hMax, hUnique⟩, hItems⟩
      exact ⟨hMin, hMax, hUnique, hItems⟩
    · rintro ⟨hMin, hMax, hUnique, hItems⟩
      exact ⟨⟨hMin, hMax, hUnique⟩, hItems⟩
  | object => exact exists_readObject_ok_iff

theorem exists_readLeaf_ok_iff : (∃ schema, (readLeaf settings read source).result = .ok schema) ↔
    ∃ type, LeafForm settings (Readable read) source type := by
  have hEnum {type : ValueType} :
      (∃ found, keyword? source "enum" .enum (choices? type) = .ok found) ↔
        Keyword source "enum" type.Lists :=
    exists_keyword?_ok_iff fun _ => ValueType.isSome_choices?_iff
  simp only [readLeaf, Traced.result_bind, Traced.result_lift, exists_bind_eq_ok]
  constructor
  · rintro ⟨found, hType, hLeaf⟩
    cases found with
    | none => simp [Reading.inside, Reading.reject, mapError_eq_ok] at hLeaf
    | some type =>
      simp only [Traced.result_bind, Traced.result_lift, Traced.result_pure, exists_bind_eq_ok,
        Except.ok.injEq, exists_eq', and_true, exists_and_right, exists_flag_ok_iff, hEnum,
        exists_readKind_ok_iff, exists_defaultValue_ok_iff] at hLeaf
      obtain ⟨hNullable, hEnum, hKind, hDefault⟩ := hLeaf
      exact ⟨type, typeKeyword_eq_ok_iff.mp hType, hNullable, hEnum, hKind, hDefault⟩
  · rintro ⟨type, hType, hNullable, hEnum', hKind, hDefault⟩
    refine ⟨some type, typeKeyword_eq_ok_iff.mpr hType, ?_⟩
    simp only [Traced.result_bind, Traced.result_lift, Traced.result_pure, exists_bind_eq_ok,
      Except.ok.injEq, exists_eq', and_true, exists_and_right, exists_flag_ok_iff, hEnum,
      exists_readKind_ok_iff, exists_defaultValue_ok_iff]
    exact ⟨hNullable, hEnum', hKind, hDefault⟩

theorem mem_combinators_iff {combinator : Combinator} :
    combinator ∈ combinators source ↔ combinator.keyword ∈ Members.keys source := by
  have hAll : combinator ∈ Combinator.all := by cases combinator <;> decide
  simp [combinators, hAll, Members.contains_eq_true_iff]

theorem mem_keys_of_combinators {combinator : Combinator} {ignored : List Combinator}
    (h : combinators source = combinator :: ignored) :
    combinator.keyword ∈ Members.keys source := by
  rw [← mem_combinators_iff, h]
  exact List.mem_cons_self

theorem pairwise_rank_combinators :
    (combinators source).Pairwise fun a b => a.rank < b.rank := by
  have hAll : Combinator.all.Pairwise fun a b => a.rank < b.rank := by decide
  exact hAll.sublist List.filter_sublist

theorem exists_readMembers_ok_iff {combinator : Combinator} :
    (∃ schema, (readMembers read source combinator).result = .ok schema) ↔
      ∃ items, source.lookup combinator.keyword = some (.array items) ∧ items ≠ [] ∧
        ∀ item ∈ items, Readable read item := by
  simp only [readMembers, Reading.inside, Traced.result_mapBoth, mapError_eq_ok]
  constructor
  · rintro ⟨schema, hSchema⟩
    split at hSchema
    · rename_i first rest hItems
      rw [Traced.result_bind, bind_eq_ok] at hSchema
      obtain ⟨members, hMembers, -⟩ := hSchema
      exact ⟨first :: rest, hItems, List.cons_ne_nil _ _, exists_items_ok_iff.mp ⟨members, hMembers⟩⟩
    · cases hSchema
  · rintro ⟨items, hItems, hNonempty, hReadable⟩
    obtain ⟨members, hMembers⟩ := exists_items_ok_iff.mpr hReadable
    cases items with
    | nil => exact absurd rfl hNonempty
    | cons first rest =>
      refine ⟨.combined combinator members, ?_⟩
      rw [hItems, Traced.result_bind, hMembers]
      rfl

theorem CombinedForm.mem_keys {nested : Json → Prop} {combinator : Combinator}
    (h : CombinedForm settings nested source combinator) :
    combinator.keyword ∈ Members.keys source := by
  obtain ⟨items, hItems, -⟩ := h.members
  exact Members.mem_keys_of_mem (Members.mem_of_lookup hItems)

theorem combinedForm_iff {nested : Json → Prop} {combinator : Combinator}
    {ignored : List Combinator} (hCombinators : combinators source = combinator :: ignored) :
    CombinedForm settings nested source combinator ↔
      (settings.strictCombinators = true → ignored = []) ∧
      ∃ items, source.lookup combinator.keyword = some (.array items) ∧ items ≠ [] ∧
        ∀ item ∈ items, nested item := by
  -- What is ignored has a greater rank than what is honoured.
  have hRank := @pairwise_rank_combinators source
  rw [hCombinators, List.pairwise_cons] at hRank
  have hMem (other : Combinator) :
      other.keyword ∈ Members.keys source ↔ other = combinator ∨ other ∈ ignored := by
    rw [← mem_combinators_iff, hCombinators, List.mem_cons]
  constructor
  · rintro ⟨hMembers, -, hAlone⟩
    refine ⟨?_, hMembers⟩
    intro hStrict
    rw [List.eq_nil_iff_forall_not_mem]
    intro other hOther
    have hLess : combinator.rank < other.rank := hRank.1 other hOther
    rw [hAlone hStrict other ((hMem other).mpr (.inr hOther))] at hLess
    exact Nat.lt_irrefl _ hLess
  · rintro ⟨hStrict, hMembers⟩
    refine ⟨hMembers, ?_, ?_⟩
    · intro other hLess hOther
      rcases (hMem other).mp hOther with rfl | hIgnored
      · exact Nat.lt_irrefl _ hLess
      · exact Nat.lt_asymm hLess (hRank.1 other hIgnored)
    · intro hFlag other hOther
      rcases (hMem other).mp hOther with rfl | hIgnored
      · rfl
      · rw [hStrict hFlag] at hIgnored
        cases hIgnored

/-- Only the combinator that takes precedence is looked at. -/
theorem CombinedForm.eq_of_combinators {nested : Json → Prop} {combinator other : Combinator}
    {ignored : List Combinator} (h : CombinedForm settings nested source other)
    (hCombinators : combinators source = combinator :: ignored) : other = combinator := by
  have hOther : other ∈ combinators source := mem_combinators_iff.mpr h.mem_keys
  have hKey := mem_keys_of_combinators hCombinators
  have hRank := @pairwise_rank_combinators source
  rw [hCombinators, List.pairwise_cons] at hRank
  rw [hCombinators, List.mem_cons] at hOther
  rcases hOther with rfl | hIgnored
  · rfl
  · exact absurd hKey (h.first combinator (hRank.1 other hIgnored))

end

/-- One level: an object can be read if it has one of the forms over what can be read below. -/
theorem readable_object_iff {settings : Settings} {levels : Nat} {source : Source} :
    Readable (readLevels settings (levels + 1)) (.object source) ↔
      SchemaForm settings (Readable (readLevels settings levels)) source := by
  rw [Readable, readLevels, SchemaForm]
  cases hCombinators : combinators source with
  | nil =>
    have hNone (combinator : Combinator) : combinator.keyword ∉ Members.keys source := by
      rw [← mem_combinators_iff, hCombinators]
      exact List.not_mem_nil
    rw [exists_readLeaf_ok_iff]
    constructor
    · intro hLeaf
      exact .inr ⟨hNone, hLeaf⟩
    · rintro (⟨combinator, hCombined⟩ | ⟨-, hLeaf⟩)
      · exact absurd hCombined.mem_keys (hNone combinator)
      · exact hLeaf
  | cons combinator ignored =>
    have hForm := @combinedForm_iff settings source (Readable (readLevels settings levels)) _ _
      hCombinators
    rw [← checkIgnored_eq_ok_iff, ← exists_readMembers_ok_iff] at hForm
    rw [Traced.result_bind, exists_bind_eq_ok]
    constructor
    · rintro ⟨_, hIgnored, hMembers⟩
      exact .inl ⟨combinator, hForm.mpr ⟨hIgnored, hMembers⟩⟩
    · rintro (⟨other, hCombined⟩ | ⟨hNone, -⟩)
      · cases hCombined.eq_of_combinators hCombinators
        exact ⟨(), hForm.mp hCombined⟩
      · exact absurd (mem_keys_of_combinators hCombinators) (hNone combinator)

theorem readable_readLevels_iff {settings : Settings} {levels : Nat} {raw : Json} :
    Readable (readLevels settings levels) raw ↔ Derivable settings levels raw := by
  induction levels generalizing raw with
  | zero => simp [Readable, readLevels, Derivable, Reading.reject]
  | succ lower ih =>
    have hNested : Readable (readLevels settings lower) = Derivable settings lower :=
      funext fun nested => propext ih
    rw [Derivable, ← hNested]
    cases raw with
    | object source =>
      rw [readable_object_iff]
      constructor
      · intro hForm
        exact ⟨source, rfl, hForm⟩
      · rintro ⟨_, hSource, hForm⟩
        cases hSource
        exact hForm
    | _ => simp [Readable, readLevels, Reading.reject]

/-- A value can be read as a schema exactly if it is derivable in the grammar with as many levels
as the settings allow. -/
theorem readAt_accepts_iff_derivable (place : Path) (settings : Settings) (raw : Json) :
    (∃ schema, (readAt place settings raw).result = .ok schema) ↔
      Derivable settings settings.maxDepth raw := by
  simp only [readAt_eq_ok_iff]
  exact readable_readLevels_iff

end ParamSchema.Schema
