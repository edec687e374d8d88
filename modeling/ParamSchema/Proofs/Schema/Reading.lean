import Mathlib.Data.List.Forall2
import ParamSchema.Event
import ParamSchema.Proofs.Results
import ParamSchema.Proofs.Schema.Nesting

/-!
# What is read

The schemas that a source can be read as, one rule for each kind of schema. Later
results about schemas that were read go by these rules and do not open the reader.
-/

set_option autoImplicit false

namespace ParamSchema.Schema

structure ReadsCommon (source : Source) (type : ValueType) (common : Common) : Prop where
  noCombinator : combinators source = []
  typeName : keyword? source "type" .type (fun value => value.string?.bind ValueType.ofName?) =
    .ok (some type)
  nullable : flag source "nullable" .nullable = .ok common.nullable
  choices : keyword? source "enum" .enum (choices? type) = .ok common.choices
  default : defaultValue source type = .ok common.default

/-- A source is read as a schema whose nested schemas are read by `read`. -/
inductive Reads (settings : Settings) (read : Json → Reading Schema) (source : Source) :
    Schema → Prop
  | combined {combinator : Combinator} {ignored : List Combinator} {items : List Json}
      {members : List Schema} (hCombinators : combinators source = combinator :: ignored)
      (hStrict : settings.strictCombinators = true → ignored = [])
      (hItems : source.lookup combinator.keyword = some (.array items)) (hNonempty : items ≠ [])
      (hMembers : (Reading.items read 0 items).result = .ok members) :
      Reads settings read source (.combined combinator members)
  | string {common : Common} {rules : StringRules} (hCommon : ReadsCommon source .string common)
      (hRules : stringRules source = .ok rules) : Reads settings read source (.string common rules)
  | number {common : Common} {rules : NumberRules}
      (hCommon : ReadsCommon source (.numeric .number) common)
      (hRules : numberRules source = .ok rules) :
      Reads settings read source (.numeric common .number rules)
  | integer {common : Common} {rules : NumberRules} {format : Option IntegerFormat}
      (hCommon : ReadsCommon source (.numeric .integer) common)
      (hRules : numberRules source = .ok rules) (hFormat : integerFormat source = .ok format) :
      Reads settings read source (.numeric common (.integer format) rules)
  | boolean {common : Common} (hCommon : ReadsCommon source .boolean common) :
      Reads settings read source (.boolean common)
  | array {common : Common} {rules : ArrayRules} {items : Schema}
      (hCommon : ReadsCommon source .array common) (hRules : arrayRules source = .ok rules)
      (hItems : (readItems read source).result = .ok items) :
      Reads settings read source (.array common rules items)
  | object {common : Common} {rules : ObjectRules} {extra : Extra Schema}
      (hCommon : ReadsCommon source .object common) (hRules : objectRules source = .ok rules)
      (hExtra : (readExtra read source).result = .ok extra)
      (hProperties : (readProperties read source).result = .ok none)
      (hRequired : checkRequired settings rules [] = .ok ()) :
      Reads settings read source (.object common rules)
  | record {common : Common} {rules : ObjectRules} {extra : Extra Schema}
      {properties : List (String × Schema)} (hCommon : ReadsCommon source .object common)
      (hRules : objectRules source = .ok rules)
      (hExtra : (readExtra read source).result = .ok extra)
      (hProperties : (readProperties read source).result = .ok (some properties))
      (hRequired : checkRequired settings rules (Members.keys properties) = .ok ()) :
      Reads settings read source (.record common rules properties extra)

theorem checkIgnored_eq_ok_iff {settings : Settings} {combinator : Combinator}
    {ignored : List Combinator} :
    (checkIgnored settings combinator ignored).result = .ok () ↔
      (settings.strictCombinators = true → ignored = []) := by
  cases ignored with
  | nil => simp [checkIgnored]
  | cons first rest =>
    cases hStrict : settings.strictCombinators with
    | false => simp [checkIgnored, hStrict]
    | true => simp [checkIgnored, hStrict, Reading.inside, Reading.reject, Results.mapError_eq_ok]

theorem reads_of_readMembers {settings : Settings} {read : Json → Reading Schema}
    {source : Source} {combinator : Combinator} {ignored : List Combinator} {schema : Schema}
    (hCombinators : combinators source = combinator :: ignored)
    (hIgnored : (checkIgnored settings combinator ignored).result = .ok ())
    (h : (readMembers read source combinator).result = .ok schema) :
    Reads settings read source schema := by
  have hStrict : settings.strictCombinators = true → ignored = [] :=
    checkIgnored_eq_ok_iff.mp hIgnored
  unfold readMembers Reading.inside at h
  rw [Traced.result_mapBoth, Results.mapError_eq_ok] at h
  split at h
  · rename_i first rest hItems
    rw [Traced.result_bind, Results.bind_eq_ok] at h
    obtain ⟨members, hMembers, hSchema⟩ := h
    cases hSchema
    exact .combined hCombinators hStrict hItems (List.cons_ne_nil _ _) hMembers
  · cases h

theorem reads_of_readKind {settings : Settings} {read : Json → Reading Schema} {source : Source}
    {type : ValueType} {common : Common} {leaf : Common → Schema}
    (hCommon : ReadsCommon source type common)
    (h : (readKind settings read source type).result = .ok leaf) :
    Reads settings read source (leaf common) := by
  cases type with
  | string =>
    simp only [readKind, Traced.result_bind, Traced.result_lift, Traced.result_pure,
      Results.bind_eq_ok] at h
    obtain ⟨rules, hRules, hLeaf⟩ := h
    cases hLeaf
    exact .string hCommon hRules
  | numeric kind =>
    cases kind with
    | number =>
      simp only [readKind, Traced.result_bind, Traced.result_lift, Traced.result_pure,
        Results.bind_eq_ok] at h
      obtain ⟨rules, hRules, hLeaf⟩ := h
      cases hLeaf
      exact .number hCommon hRules
    | integer =>
      simp only [readKind, Traced.result_bind, Traced.result_lift, Traced.result_pure,
        Results.bind_eq_ok] at h
      obtain ⟨rules, hRules, format, hFormat, hLeaf⟩ := h
      cases hLeaf
      exact .integer hCommon hRules hFormat
  | boolean =>
    cases h
    exact .boolean hCommon
  | array =>
    simp only [readKind, Traced.result_bind, Traced.result_lift, Traced.result_pure,
      Results.bind_eq_ok] at h
    obtain ⟨rules, hRules, items, hItems, hLeaf⟩ := h
    cases hLeaf
    exact .array hCommon hRules hItems
  | object =>
    simp only [readKind, Traced.result_bind, Traced.result_lift, Results.bind_eq_ok] at h
    obtain ⟨rules, hRules, extra, hExtra, declared, hProperties, h⟩ := h
    cases declared with
    | none =>
      rw [Traced.result_bind, Results.bind_eq_ok] at h
      obtain ⟨_, hRequired, hLeaf⟩ := h
      cases hLeaf
      exact .object hCommon hRules hExtra hProperties hRequired
    | some properties =>
      rw [Traced.result_bind, Results.bind_eq_ok] at h
      obtain ⟨_, hRequired, hLeaf⟩ := h
      cases hLeaf
      exact .record hCommon hRules hExtra hProperties hRequired

theorem reads_of_readLeaf {settings : Settings} {read : Json → Reading Schema}
    {source : Source} {schema : Schema} (hCombinators : combinators source = [])
    (h : (readLeaf settings read source).result = .ok schema) :
    Reads settings read source schema := by
  unfold readLeaf at h
  rw [Traced.result_bind, Results.bind_eq_ok] at h
  obtain ⟨found, hType, h⟩ := h
  cases found with
  | none =>
    rw [Reading.inside, Traced.result_mapBoth, Results.mapError_eq_ok] at h
    cases h
  | some type =>
    simp only [Traced.result_bind, Traced.result_lift, Traced.result_pure,
      Results.bind_eq_ok] at h hType
    obtain ⟨nullable, hNullable, choices, hChoices, leaf, hLeaf, default, hDefault, hSchema⟩ := h
    cases hSchema
    exact reads_of_readKind ⟨hCombinators, hType, hNullable, hChoices, hDefault⟩ hLeaf

/-- A schema that was read at some level was read by one of the rules, from an object, with the
nested schemas one level further down. -/
theorem reads_of_readLevels {settings : Settings} {levels : Nat} {raw : Json} {schema : Schema}
    (h : (readLevels settings levels raw).result = .ok schema) :
    ∃ lower source, levels = lower + 1 ∧ raw = .object source ∧
      Reads settings (readLevels settings lower) source schema := by
  unfold readLevels at h
  split at h
  · cases h
  · rename_i lower source
    refine ⟨lower, source, rfl, rfl, ?_⟩
    split at h
    · rename_i hCombinators
      exact reads_of_readLeaf hCombinators h
    · rename_i combinator ignored hCombinators
      rw [Traced.result_bind, Results.bind_eq_ok] at h
      obtain ⟨_, hIgnored, hMembers⟩ := h
      exact reads_of_readMembers hCombinators hIgnored hMembers
  · cases h

theorem result_readLeaf_of_reads {settings : Settings} {read : Json → Reading Schema}
    {source : Source} {type : ValueType} {common : Common} {leaf : Common → Schema}
    (hCommon : ReadsCommon source type common)
    (hKind : (readKind settings read source type).result = .ok leaf) :
    (readLeaf settings read source).result = .ok (leaf common) := by
  rw [readLeaf, hCommon.typeName, Traced.lift_ok, Traced.pure_bind]
  simp only [Traced.result_bind, Traced.result_lift, Traced.result_pure, Results.bind_eq_ok]
  exact ⟨_, hCommon.nullable, _, hCommon.choices, leaf, hKind, _, hCommon.default, rfl⟩

theorem result_readLevels_of_reads {settings : Settings} {levels : Nat} {source : Source}
    {schema : Schema} (h : Reads settings (readLevels settings levels) source schema) :
    (readLevels settings (levels + 1) (.object source)).result = .ok schema := by
  have hLeaf {type : ValueType} {common : Common} {leaf : Common → Schema}
      (hCommon : ReadsCommon source type common)
      (hKind : (readKind settings (readLevels settings levels) source type).result = .ok leaf) :
      (readLevels settings (levels + 1) (.object source)).result = .ok (leaf common) := by
    rw [readLevels, hCommon.noCombinator]
    exact result_readLeaf_of_reads hCommon hKind
  cases h with
  | @combined combinator ignored items members hSource hStrict hItems hNonempty hMembers =>
    obtain ⟨first, rest, rfl⟩ := List.exists_cons_of_ne_nil hNonempty
    rw [readLevels, hSource]
    simp only [Traced.result_bind, Results.bind_eq_ok]
    refine ⟨(), checkIgnored_eq_ok_iff.mpr hStrict, ?_⟩
    rw [readMembers, Reading.inside, Traced.result_mapBoth, Results.mapError_eq_ok, hItems]
    simp only [Traced.result_bind, Traced.result_pure, Results.bind_eq_ok]
    exact ⟨members, hMembers, rfl⟩
  | string hCommon hRules =>
    apply hLeaf hCommon
    simp only [readKind, Traced.result_bind, Traced.result_lift, Traced.result_pure,
      Results.bind_eq_ok]
    exact ⟨_, hRules, rfl⟩
  | number hCommon hRules =>
    apply hLeaf hCommon
    simp only [readKind, Traced.result_bind, Traced.result_lift, Traced.result_pure,
      Results.bind_eq_ok]
    exact ⟨_, hRules, rfl⟩
  | integer hCommon hRules hFormat =>
    apply hLeaf hCommon
    simp only [readKind, Traced.result_bind, Traced.result_lift, Traced.result_pure,
      Results.bind_eq_ok]
    exact ⟨_, hRules, _, hFormat, rfl⟩
  | boolean hCommon => exact hLeaf hCommon rfl
  | array hCommon hRules hItems =>
    apply hLeaf hCommon
    simp only [readKind, Traced.result_bind, Traced.result_lift, Traced.result_pure,
      Results.bind_eq_ok]
    exact ⟨_, hRules, _, hItems, rfl⟩
  | object hCommon hRules hExtra hProperties hRequired =>
    apply hLeaf hCommon
    simp only [readKind, Traced.result_bind, Traced.result_lift, Results.bind_eq_ok]
    refine ⟨_, hRules, _, hExtra, none, hProperties, ?_⟩
    simp only [Traced.result_bind, Traced.result_lift, Traced.result_pure, Results.bind_eq_ok]
    exact ⟨(), hRequired, trivial⟩
  | record hCommon hRules hExtra hProperties hRequired =>
    apply hLeaf hCommon
    simp only [readKind, Traced.result_bind, Traced.result_lift, Results.bind_eq_ok]
    refine ⟨_, hRules, _, hExtra, some _, hProperties, ?_⟩
    simp only [Traced.result_bind, Traced.result_lift, Traced.result_pure, Results.bind_eq_ok]
    exact ⟨(), hRequired, trivial⟩

/-- A nested schema is read from a value of the source, or from an item or a member of one. -/
inductive Within (source : Source) : Json → Prop
  | value {key : String} {value : Json} (hValue : source.lookup key = some value) :
      Within source value
  | item {key : String} {items : List Json} {item : Json}
      (hValue : source.lookup key = some (.array items)) (hItem : item ∈ items) :
      Within source item
  | member {key : String} {members : Source} {member : String × Json}
      (hValue : source.lookup key = some (.object members)) (hMember : member ∈ members) :
      Within source member.2

theorem items_result_eq_ok_iff {α : Type} {read : Json → Reading α} {index : Nat}
    {items : List Json} {results : List α} :
    (Reading.items read index items).result = .ok results ↔
      List.Forall₂ (fun item result => (read item).result = .ok result) items results := by
  induction items generalizing index results with
  | nil =>
    rw [List.forall₂_nil_left_iff]
    simp [Reading.items, eq_comm]
  | cons item rest ih =>
    simp only [Reading.items, Reading.inside, Traced.result_bind, Traced.result_mapBoth,
      Traced.result_pure, Results.bind_eq_ok, Results.mapError_eq_ok, ih,
      List.forall₂_cons_left_iff]
    constructor
    · rintro ⟨first, hFirst, others, hOthers, hEq⟩
      exact ⟨first, others, hFirst, hOthers, (Except.ok.inj hEq).symm⟩
    · rintro ⟨first, others, hFirst, hOthers, rfl⟩
      exact ⟨first, hFirst, others, hOthers, rfl⟩

theorem members_result_eq_ok_iff {α : Type} {read : Json → Reading α} {members : Source}
    {results : List (String × α)} :
    (Reading.members read members).result = .ok results ↔
      List.Forall₂ (fun member result => member.1 = result.1 ∧ (read member.2).result = .ok result.2)
        members results := by
  induction members generalizing results with
  | nil =>
    rw [List.forall₂_nil_left_iff]
    simp [Reading.members, eq_comm]
  | cons member rest ih =>
    obtain ⟨key, value⟩ := member
    simp only [Reading.members, Reading.inside, Traced.result_bind, Traced.result_mapBoth,
      Traced.result_pure, Results.bind_eq_ok, Results.mapError_eq_ok, ih,
      List.forall₂_cons_left_iff]
    constructor
    · rintro ⟨first, hFirst, others, hOthers, hEq⟩
      exact ⟨(key, first), others, ⟨rfl, hFirst⟩, hOthers, (Except.ok.inj hEq).symm⟩
    · rintro ⟨⟨name, first⟩, others, ⟨rfl, hFirst⟩, hOthers, rfl⟩
      exact ⟨first, hFirst, others, hOthers, rfl⟩

theorem exists_mem_of_forall₂ {α β : Type} {related : α → β → Prop} {sources : List α}
    {results : List β} (h : List.Forall₂ related sources results) {result : β}
    (hMem : result ∈ results) : ∃ source ∈ sources, related source result := by
  induction h with
  | nil => cases hMem
  | cons hHead _ ih =>
    rcases List.mem_cons.mp hMem with rfl | hTail
    · exact ⟨_, List.mem_cons_self, hHead⟩
    · obtain ⟨source, hSource, hRelated⟩ := ih hTail
      exact ⟨source, List.mem_cons_of_mem _ hSource, hRelated⟩

theorem exists_forall₂_iff {α β : Type} {related : α → β → Prop} {sources : List α} :
    (∃ results, List.Forall₂ related sources results) ↔
      ∀ source ∈ sources, ∃ result, related source result := by
  induction sources with
  | nil => simp
  | cons source rest ih =>
    simp only [List.forall₂_cons_left_iff, List.forall_mem_cons, ← ih]
    constructor
    · rintro ⟨_, result, results, hHead, hTail, rfl⟩
      exact ⟨⟨result, hHead⟩, results, hTail⟩
    · rintro ⟨⟨result, hHead⟩, results, hTail⟩
      exact ⟨_, result, results, hHead, hTail, rfl⟩

theorem forall₂_imp_of_mem {α β : Type} {related related' : α → β → Prop} {sources : List α}
    {results : List β} (h : List.Forall₂ related sources results)
    (hImp : ∀ source ∈ sources, ∀ result ∈ results, related source result →
      related' source result) : List.Forall₂ related' sources results := by
  induction h with
  | nil => exact .nil
  | cons hHead _ ih =>
    refine .cons (hImp _ List.mem_cons_self _ List.mem_cons_self hHead) (ih ?_)
    intro source hSource result hResult
    exact hImp source (List.mem_cons_of_mem _ hSource) result (List.mem_cons_of_mem _ hResult)

theorem forall₂_of_images {α β γ δ : Type} {related : α → β → Prop} {image : α → γ → Prop}
    {image' : β → δ → Prop} {related' : γ → δ → Prop} {sources : List α} {sources' : List β}
    {results : List γ} {results' : List δ} (hSources : List.Forall₂ related sources sources')
    (h : List.Forall₂ image sources results) (h' : List.Forall₂ image' sources' results')
    (hImp : ∀ source ∈ sources, ∀ {source' result result'}, related source source' →
      image source result → image' source' result' → related' result result') :
    List.Forall₂ related' results results' := by
  induction hSources generalizing results results' with
  | nil =>
    cases h
    cases h'
    exact .nil
  | cons hHead _ ih =>
    rw [List.forall_mem_cons] at hImp
    obtain ⟨result, rest, hResult, hRest, rfl⟩ := List.forall₂_cons_left_iff.mp h
    obtain ⟨result', rest', hResult', hRest', rfl⟩ := List.forall₂_cons_left_iff.mp h'
    exact .cons (hImp.1 hHead hResult hResult') (ih hRest hRest' hImp.2)

section

variable {read : Json → Reading Schema} {source : Source}

theorem readItems_ok {items : Schema} (h : (readItems read source).result = .ok items) :
    ∃ members, source.lookup "items" = some (.object members) ∧
      (read (.object members)).result = .ok items := by
  rw [readItems, Reading.inside, Traced.result_mapBoth, Results.mapError_eq_ok] at h
  split at h
  · rename_i members hMembers
    exact ⟨members, hMembers, h⟩
  · cases h

theorem readProperties_eq_ok_iff {found : Option (List (String × Schema))} :
    (readProperties read source).result = .ok found ↔
      source.lookup "properties" = none ∧ found = none ∨
      ∃ members properties, source.lookup "properties" = some (.object members) ∧
        found = some properties ∧ (Reading.members read members).result = .ok properties := by
  unfold readProperties
  cases source.lookup "properties" with
  | none => simp [eq_comm]
  | some value =>
    simp only [Reading.inside, Traced.result_mapBoth, Results.mapError_eq_ok]
    cases value with
    | object members =>
      simp only [Traced.result_bind, Traced.result_pure, Results.bind_eq_ok]
      constructor
      · rintro ⟨properties, hMembers, hFound⟩
        cases hFound
        exact .inr ⟨members, properties, rfl, rfl, hMembers⟩
      · rintro (⟨hNone, -⟩ | ⟨_, properties, hObject, rfl, hMembers⟩)
        · cases hNone
        · cases hObject
          exact ⟨properties, hMembers, rfl⟩
    | _ => simp [Reading.reject]

theorem readProperties_ok {properties : List (String × Schema)}
    (h : (readProperties read source).result = .ok (some properties)) :
    ∃ members, source.lookup "properties" = some (.object members) ∧
      (Reading.members read members).result = .ok properties := by
  rcases readProperties_eq_ok_iff.mp h with ⟨-, hNone⟩ | ⟨members, found, hLookup, hSome, hMembers⟩
  · cases hNone
  · cases hSome
    exact ⟨members, hLookup, hMembers⟩

theorem readExtra_ok {extra : Extra Schema} (h : (readExtra read source).result = .ok extra) :
    (extra = .allowed ∨ Members.contains source "properties" = true) ∧
      ∀ schema, extra = .matching schema → ∃ members,
        source.lookup "additionalProperties" = some (.object members) ∧
          (read (.object members)).result = .ok schema := by
  unfold readExtra at h
  split at h
  · cases h
    exact ⟨.inl rfl, fun schema hSchema => nomatch hSchema⟩
  · rename_i value hValue
    rw [Reading.inside, Traced.result_mapBoth, Results.mapError_eq_ok] at h
    split at h
    · cases h
    · rename_i hProperties
      rw [Bool.not_eq_true', Bool.not_eq_false] at hProperties
      refine ⟨.inr hProperties, ?_⟩
      rintro schema rfl
      split at h
      · split at h <;> cases h
      · rename_i members
        rw [Traced.result_bind, Results.bind_eq_ok] at h
        obtain ⟨found, hFound, hEq⟩ := h
        cases hEq
        exact ⟨members, hValue, hFound⟩
      · cases h

/-- What holds of every schema that is read from within a source holds of every schema directly
inside the one that the source is read as. -/
theorem Reads.eachNested {settings : Settings} {schema : Schema} {property : Schema → Prop}
    (h : Reads settings read source schema)
    (hRead : ∀ raw nested, Within source raw → (read raw).result = .ok nested → property nested) :
    schema.EachNested property := by
  cases h with
  | combined hCombinators hStrict hItems hNonempty hMembers =>
    rw [items_result_eq_ok_iff] at hMembers
    intro member hMember
    obtain ⟨item, hItem, hOk⟩ := exists_mem_of_forall₂ hMembers hMember
    exact hRead item member (.item hItems hItem) hOk
  | array hCommon hRules hItems =>
    obtain ⟨members, hLookup, hOk⟩ := readItems_ok hItems
    exact hRead _ _ (.value hLookup) hOk
  | record hCommon hRules hExtra hProperties hRequired =>
    obtain ⟨members, hLookup, hOk⟩ := readProperties_ok hProperties
    rw [members_result_eq_ok_iff] at hOk
    constructor
    · intro entry hEntry
      obtain ⟨member, hMember, -, hOk⟩ := exists_mem_of_forall₂ hOk hEntry
      exact hRead _ _ (.member hLookup hMember) hOk
    · intro nested hNested
      obtain ⟨members, hLookup, hOk⟩ := (readExtra_ok hExtra).2 nested hNested
      exact hRead _ _ (.value hLookup) hOk
  | string hCommon hRules => trivial
  | number hCommon hRules => trivial
  | integer hCommon hRules hFormat => trivial
  | boolean hCommon => trivial
  | object hCommon hRules hExtra hProperties hRequired => trivial

end

theorem nesting_le_of_readLevels {settings : Settings} {levels : Nat} {raw : Json}
    {schema : Schema} (h : (readLevels settings levels raw).result = .ok schema) :
    schema.nesting ≤ levels := by
  induction levels generalizing raw schema with
  | zero => cases h
  | succ lower ih =>
    obtain ⟨lower', source, hLevels, -, hReads⟩ := reads_of_readLevels h
    cases hLevels
    rw [nesting_le_succ_iff]
    exact hReads.eachNested fun raw nested _ hNested => ih hNested

theorem readAt_eq_ok_iff {place : Path} {settings : Settings} {raw : Json} {schema : Schema} :
    (readAt place settings raw).result = .ok schema ↔
      (readLevels settings settings.maxDepth raw).result = .ok schema := by
  rw [readAt, Traced.result_mapBoth, Results.mapError_eq_ok, ofJson]

theorem nesting_le_of_readAt {place : Path} {settings : Settings} {raw : Json} {schema : Schema}
    (h : (readAt place settings raw).result = .ok schema) : schema.nesting ≤ settings.maxDepth :=
  nesting_le_of_readLevels (readAt_eq_ok_iff.mp h)

end ParamSchema.Schema
