import ParamSchema.Proofs.Schema.Keywords
import ParamSchema.Proofs.Schema.WellFormed
import ParamSchema.Schema.Equality

/-!
# Equal schemas

What equality of schemas says at the top of two schemas, and what it forgets: the order
of properties, the sign of a zero, and how a pattern was compiled.
-/

set_option autoImplicit false

namespace ParamSchema

theorem agreeing_cases {α : Type} {agree : α → α → Bool} {found found' : Option α}
    (h : agreeing agree found found' = true) :
    found = none ∧ found' = none ∨ ∃ x y, found = some x ∧ found' = some y ∧ agree x y = true := by
  cases found with
  | none =>
    cases found' with
    | none => exact .inl ⟨rfl, rfl⟩
    | some y => cases h
  | some x =>
    cases found' with
    | none => cases h
    | some y => exact .inr ⟨x, y, rfl, rfl, h⟩

theorem isSome_eq_of_agreeing {α : Type} {agree : α → α → Bool} {found found' : Option α}
    (h : agreeing agree found found' = true) : found.isSome = found'.isSome := by
  rcases agreeing_cases h with ⟨rfl, rfl⟩ | ⟨x, y, rfl, rfl, -⟩ <;> rfl

theorem forall_mem_iff_of_agreeing {α : Type} {agree : α → α → Bool} {holds : α → Prop}
    {found found' : Option α} (h : agreeing agree found found' = true)
    (hHolds : ∀ x ∈ found, ∀ y ∈ found', agree x y = true → (holds x ↔ holds y)) :
    (∀ x ∈ found, holds x) ↔ ∀ y ∈ found', holds y := by
  rcases agreeing_cases h with ⟨rfl, rfl⟩ | ⟨x, y, rfl, rfl, hAgree⟩
  · exact Iff.rfl
  · simpa using hHolds x rfl y rfl hAgree

theorem Pattern.eq_of_source {pattern other : Pattern} (h : pattern.source = other.source) :
    pattern = other := by
  have hCompiled := pattern.compile?_source
  rw [h, other.compile?_source] at hCompiled
  exact (Option.some.inj hCompiled).symm

theorem StringRules.eq_of_same {rules other : StringRules} (h : rules.same other = true) :
    rules = other := by
  obtain ⟨minLength, maxLength, pattern, format⟩ := rules
  simp only [StringRules.same, Bool.and_eq_true, beq_iff_eq] at h
  obtain ⟨⟨⟨rfl, rfl⟩, hPattern⟩, rfl⟩ := h
  rcases agreeing_cases hPattern with ⟨rfl, hNone⟩ | ⟨p, q, rfl, hSome, hSource⟩
  · rw [← hNone]
  · rw [Pattern.eq_of_source (beq_iff_eq.mp hSource), ← hSome]

theorem Common.same_iff {common other : Common} : common.same other = true ↔
    common.nullable = other.nullable ∧
      agreeing (Json.equalItemsBy Number.identical) common.choices other.choices = true ∧
      agreeing Json.identical common.default other.default = true := by
  simp only [Common.same, Bool.and_eq_true, beq_iff_eq, and_assoc]

theorem Bound.same_iff {bound other : Bound} : bound.same other = true ↔
    bound.value.signedUnits = other.value.signedUnits ∧ bound.exclusive = other.exclusive := by
  simp only [Bound.same, Binary64.sameValue, Bool.and_eq_true, beq_iff_eq]

theorem NumberRules.same_iff {rules other : NumberRules} : rules.same other = true ↔
    agreeing Bound.same rules.minimum other.minimum = true ∧
      agreeing Bound.same rules.maximum other.maximum = true ∧
      agreeing Binary64.sameValue rules.multipleOf other.multipleOf = true := by
  simp only [NumberRules.same, Bool.and_eq_true, and_assoc]

namespace Schema

inductive SameExtra (related : Schema → Schema → Prop) : Extra Schema → Extra Schema → Prop
  | allowed : SameExtra related .allowed .allowed
  | refused : SameExtra related .refused .refused
  | matching {schema other : Schema} (hSame : related schema other) :
      SameExtra related (.matching schema) (.matching other)

inductive SameTop (related : Schema → Schema → Prop) : Schema → Schema → Prop
  | combined {combinator : Combinator} {members others : List Schema}
      (hMembers : List.Forall₂ related members others) :
      SameTop related (.combined combinator members) (.combined combinator others)
  | string {common common' : Common} {rules : StringRules}
      (hCommon : common.same common' = true) :
      SameTop related (.string common rules) (.string common' rules)
  | numeric {common common' : Common} {type : NumericType} {rules rules' : NumberRules}
      (hCommon : common.same common' = true) (hRules : rules.same rules' = true) :
      SameTop related (.numeric common type rules) (.numeric common' type rules')
  | boolean {common common' : Common} (hCommon : common.same common' = true) :
      SameTop related (.boolean common) (.boolean common')
  | array {common common' : Common} {rules : ArrayRules} {items items' : Schema}
      (hCommon : common.same common' = true) (hItems : related items items') :
      SameTop related (.array common rules items) (.array common' rules items')
  | object {common common' : Common} {rules : ObjectRules}
      (hCommon : common.same common' = true) :
      SameTop related (.object common rules) (.object common' rules)
  | record {common common' : Common} {rules : ObjectRules}
      {properties properties' : List (String × Schema)} {extra extra' : Extra Schema}
      (hCommon : common.same common' = true) (hLength : properties.length = properties'.length)
      (hProperties : ∀ property ∈ properties, ∃ other,
        properties'.lookup property.1 = some other ∧ related property.2 other)
      (hExtra : SameExtra related extra extra') :
      SameTop related (.record common rules properties extra)
        (.record common' rules properties' extra')

theorem sameMembers_iff {members others : List Schema} : sameMembers members others = true ↔
    List.Forall₂ (fun member other => member.same other = true) members others := by
  induction members generalizing others with
  | nil => cases others <;> simp [sameMembers]
  | cons member rest ih => cases others <;> simp [sameMembers, ih]

theorem sameProperties_iff {properties others : List (String × Schema)} :
    sameProperties properties others = true ↔ ∀ property ∈ properties, ∃ other,
      others.lookup property.1 = some other ∧ property.2.same other = true := by
  induction properties with
  | nil => simp [sameProperties]
  | cons property rest ih =>
    obtain ⟨name, schema⟩ := property
    rw [sameProperties, Bool.and_eq_true, ih, List.forall_mem_cons]
    cases others.lookup name <;> simp

theorem sameExtra_iff {extra extra' : Extra Schema} : sameExtra extra extra' = true ↔
    SameExtra (fun schema other => schema.same other = true) extra extra' := by
  constructor
  · intro h
    cases extra with
    | allowed =>
      cases extra' with
      | allowed => exact .allowed
      | _ => simp [sameExtra] at h
    | refused =>
      cases extra' with
      | refused => exact .refused
      | _ => simp [sameExtra] at h
    | matching schema =>
      cases extra' with
      | matching other =>
        rw [sameExtra] at h
        exact .matching h
      | _ => simp [sameExtra] at h
  · intro h
    cases h with
    | allowed => rw [sameExtra]
    | refused => rw [sameExtra]
    | matching hSame => rwa [sameExtra]

theorem sameTop_of_same {schema other : Schema} (h : schema.same other = true) :
    SameTop (fun schema other => schema.same other = true) schema other := by
  cases schema with
  | combined combinator members =>
    cases other with
    | combined combinator' others =>
      rw [same, Bool.and_eq_true, beq_iff_eq] at h
      obtain ⟨rfl, hMembers⟩ := h
      exact .combined (sameMembers_iff.mp hMembers)
    | _ => simp [same] at h
  | string common rules =>
    cases other with
    | string common' rules' =>
      rw [same, Bool.and_eq_true] at h
      obtain ⟨hCommon, hRules⟩ := h
      rw [StringRules.eq_of_same hRules]
      exact .string hCommon
    | _ => simp [same] at h
  | numeric common type rules =>
    cases other with
    | numeric common' type' rules' =>
      simp only [same, Bool.and_eq_true, beq_iff_eq] at h
      obtain ⟨⟨hCommon, rfl⟩, hRules⟩ := h
      exact .numeric hCommon hRules
    | _ => simp [same] at h
  | boolean common =>
    cases other with
    | boolean common' =>
      rw [same] at h
      exact .boolean h
    | _ => simp [same] at h
  | array common rules items =>
    cases other with
    | array common' rules' items' =>
      simp only [same, Bool.and_eq_true, beq_iff_eq] at h
      obtain ⟨⟨hCommon, rfl⟩, hItems⟩ := h
      exact .array hCommon hItems
    | _ => simp [same] at h
  | object common rules =>
    cases other with
    | object common' rules' =>
      simp only [same, Bool.and_eq_true, beq_iff_eq] at h
      obtain ⟨hCommon, rfl⟩ := h
      exact .object hCommon
    | _ => simp [same] at h
  | record common rules properties extra =>
    cases other with
    | record common' rules' properties' extra' =>
      simp only [same, Bool.and_eq_true, beq_iff_eq] at h
      obtain ⟨⟨⟨⟨hCommon, rfl⟩, hLength⟩, hProperties⟩, hExtra⟩ := h
      exact .record hCommon hLength (sameProperties_iff.mp hProperties) (sameExtra_iff.mp hExtra)
    | _ => simp [same] at h

theorem agreeing_default_of_same {schema other : Schema} (h : schema.same other = true) :
    agreeing Json.identical schema.default? other.default? = true := by
  cases sameTop_of_same h with
  | combined => rfl
  | string hCommon => exact (Common.same_iff.mp hCommon).2.2
  | numeric hCommon => exact (Common.same_iff.mp hCommon).2.2
  | boolean hCommon => exact (Common.same_iff.mp hCommon).2.2
  | array hCommon => exact (Common.same_iff.mp hCommon).2.2
  | object hCommon => exact (Common.same_iff.mp hCommon).2.2
  | record hCommon => exact (Common.same_iff.mp hCommon).2.2

/-- A schema that some reader gave at some level, for a source without repeated keys. -/
def WasRead (schema : Schema) : Prop :=
  ∃ settings levels raw, Json.KeysDistinct raw ∧
    (readLevels settings levels raw).result = .ok schema

theorem wasRead_of_readAt {place : Path} {settings : Settings} {raw : Json} {schema : Schema}
    (hKeys : raw.KeysDistinct) (h : (readAt place settings raw).result = .ok schema) :
    schema.WasRead :=
  ⟨settings, settings.maxDepth, raw, hKeys, readAt_eq_ok_iff.mp h⟩

namespace WasRead

variable {schema : Schema}

theorem topWellFormed (h : schema.WasRead) : ∃ settings, schema.TopWellFormed settings := by
  obtain ⟨settings, levels, raw, hKeys, hRead⟩ := h
  obtain ⟨lower, source, rfl, rfl, hReads⟩ := reads_of_readLevels hRead
  exact ⟨settings, hReads.topWellFormed hKeys⟩

theorem nested (h : schema.WasRead) : schema.EachNested WasRead := by
  obtain ⟨settings, levels, raw, hKeys, hRead⟩ := h
  obtain ⟨lower, source, rfl, rfl, hReads⟩ := reads_of_readLevels hRead
  exact hReads.eachNested fun raw nested hWithin hNested =>
    ⟨settings, lower, raw, hWithin.keysDistinct hKeys, hNested⟩

theorem keysDistinct_of_choices (h : schema.WasRead) {common : Common}
    (hCommon : schema.common? = some common) :
    ∀ choices ∈ common.choices, ∀ choice ∈ choices, choice.KeysDistinct := by
  obtain ⟨settings, hTop⟩ := h.topWellFormed
  have hWell : ∃ type, common.WellFormed type := by
    cases schema with
    | combined => cases hCommon
    | boolean =>
      cases hCommon
      exact ⟨_, hTop⟩
    | _ =>
      cases hCommon
      exact ⟨_, hTop.1⟩
  obtain ⟨type, hWell⟩ := hWell
  exact fun choices hChoices => (hWell.choices choices hChoices).2

section

variable {common : Common} {rules : ObjectRules} {properties : List (String × Schema)}
  {extra : Extra Schema} (h : (record common rules properties extra).WasRead)

include h

theorem nodup_names : (Members.keys properties).Nodup := by
  obtain ⟨settings, hTop⟩ := h.topWellFormed
  exact hTop.2.2

theorem matches_of_same {properties' : List (String × Schema)}
    (hLength : properties.length = properties'.length)
    (hProperties : ∀ property ∈ properties, ∃ other,
      properties'.lookup property.1 = some other ∧ property.2.same other = true) :
    Members.Matches (fun schema other => schema.same other = true) properties properties' :=
  Members.matches_of_lookup h.nodup_names hLength hProperties

end

end WasRead

mutual

/-- Records at the same place declare the same names in the same order. A combinator hides what
its members find wrong, so below one any order will do. -/
def SameOrder : Schema → Schema → Prop
  | .array _ _ items, .array _ _ items' => SameOrder items items'
  | .record _ _ properties extra, .record _ _ properties' extra' =>
    SameOrderProperties properties properties' ∧ SameOrderExtra extra extra'
  | _, _ => True

def SameOrderProperties : List (String × Schema) → List (String × Schema) → Prop
  | [], [] => True
  | (name, property) :: rest, (name', property') :: rest' =>
    name = name' ∧ SameOrder property property' ∧ SameOrderProperties rest rest'
  | _, _ => False

def SameOrderExtra : Extra Schema → Extra Schema → Prop
  | .matching schema, .matching schema' => SameOrder schema schema'
  | _, _ => True

end

theorem sameOrderProperties_iff {properties properties' : List (String × Schema)} :
    SameOrderProperties properties properties' ↔ List.Forall₂ (fun property property' =>
      property.1 = property'.1 ∧ property.2.SameOrder property'.2) properties properties' := by
  induction properties generalizing properties' with
  | nil => cases properties' <;> simp [SameOrderProperties]
  | cons property rest ih =>
    cases properties' with
    | nil => simp [SameOrderProperties]
    | cons property' rest' => simp [SameOrderProperties, ih, and_assoc]

end Schema

end ParamSchema
