import ParamSchema.Proofs.Schema.WellFormed
import ParamSchema.Schema.Equality

/-!
# Canonical schemas

The schema that is written in place of another: the same but for bounds of
negative zero, which become zero. It is equal to the other and has the same
canonical form.
-/

set_option autoImplicit false

namespace ParamSchema

def Bound.canonical (bound : Bound) : Bound := { bound with value := bound.value.canonical }

def NumberRules.canonical (rules : NumberRules) : NumberRules :=
  { rules with
    minimum := rules.minimum.map Bound.canonical
    maximum := rules.maximum.map Bound.canonical }

namespace Schema

mutual

def canonical : Schema → Schema
  | .combined combinator members => .combined combinator (canonicalMembers members)
  | .numeric common type rules => .numeric common type rules.canonical
  | .array common rules items => .array common rules (canonical items)
  | .record common rules properties extra =>
    .record common rules (canonicalProperties properties) (canonicalExtra extra)
  | .string common rules => .string common rules
  | .boolean common => .boolean common
  | .object common rules => .object common rules

def canonicalMembers : List Schema → List Schema
  | [] => []
  | member :: rest => canonical member :: canonicalMembers rest

def canonicalProperties : List (String × Schema) → List (String × Schema)
  | [] => []
  | (name, property) :: rest => (name, canonical property) :: canonicalProperties rest

def canonicalExtra : Extra Schema → Extra Schema
  | .matching schema => .matching (canonical schema)
  | .allowed => .allowed
  | .refused => .refused

end

end Schema

theorem Bound.keywords_canonical (key flagKey : String) (bound : Bound) :
    bound.canonical.keywords key flagKey = bound.keywords key flagKey := by
  simp only [Bound.keywords, Bound.canonical, Json.ofBinary64, Number.ofBinary64_canonical]

theorem NumberRules.keywords_canonical (type : NumericType) (rules : NumberRules) :
    rules.canonical.keywords type = rules.keywords type := by
  unfold NumberRules.keywords NumberRules.canonical
  cases rules.minimum <;> cases rules.maximum <;> simp [Bound.keywords_canonical]

namespace Schema

theorem memberList_canonicalMembers {members : List Schema}
    (hMembers : ∀ member ∈ members, member.canonical.toJson = member.toJson) :
    memberList (canonicalMembers members) = memberList members := by
  induction members with
  | nil => rfl
  | cons member rest ih =>
    rw [List.forall_mem_cons] at hMembers
    rw [canonicalMembers, memberList, memberList, hMembers.1, ih hMembers.2]

theorem propertyList_canonicalProperties {properties : List (String × Schema)}
    (hProperties : ∀ entry ∈ properties, entry.2.canonical.toJson = entry.2.toJson) :
    propertyList (canonicalProperties properties) = propertyList properties := by
  induction properties with
  | nil => rfl
  | cons entry rest ih =>
    obtain ⟨name, schema⟩ := entry
    rw [List.forall_mem_cons] at hProperties
    rw [canonicalProperties, propertyList, propertyList, hProperties.1, ih hProperties.2]

theorem extraKeyword_canonicalExtra {extra : Extra Schema}
    (hExtra : ∀ schema, extra = .matching schema → schema.canonical.toJson = schema.toJson) :
    extraKeyword (canonicalExtra extra) = extraKeyword extra := by
  cases extra with
  | allowed => rfl
  | refused => rfl
  | matching schema => rw [canonicalExtra, extraKeyword, extraKeyword, hExtra schema rfl]

theorem toJson_canonical (schema : Schema) : schema.canonical.toJson = schema.toJson := by
  induction schema with
  | combined combinator members ih =>
    rw [canonical, toJson, toJson, memberList_canonicalMembers ih]
  | numeric common type rules =>
    rw [canonical, toJson, toJson, NumberRules.keywords_canonical]
  | array common rules items ih => rw [canonical, toJson, toJson, ih]
  | record common rules properties extra hProperties hExtra =>
    rw [canonical, toJson, toJson, propertyList_canonicalProperties hProperties,
      extraKeyword_canonicalExtra hExtra]
  | string common rules => rw [canonical]
  | boolean common => rw [canonical]
  | object common rules => rw [canonical]

end Schema

theorem agreeing_map {α : Type} {agree : α → α → Bool} {f : α → α} {found : Option α}
    (hAgree : ∀ x, found = some x → agree (f x) x = true) :
    agreeing agree (found.map f) found = true := by
  cases found with
  | none => rfl
  | some x => exact hAgree x rfl

theorem agreeing_self {α : Type} {agree : α → α → Bool} {found : Option α}
    (hAgree : ∀ x, found = some x → agree x x = true) : agreeing agree found found = true := by
  cases found with
  | none => rfl
  | some x => exact hAgree x rfl

theorem Common.WellFormed.same_self {type : ValueType} {common : Common}
    (h : common.WellFormed type) : common.same common = true := by
  have hChoices : agreeing (Json.equalItemsBy Number.identical) common.choices common.choices := by
    apply agreeing_self
    intro items hItems
    exact Json.equalItemsBy_self Number.identical_self (h.choices items hItems).2
  have hDefault : agreeing Json.identical common.default common.default := by
    apply agreeing_self
    intro value hValue
    exact Json.identical_self (h.default value hValue).2
  simp [Common.same, hChoices, hDefault]

theorem StringRules.same_self (rules : StringRules) : rules.same rules = true := by
  have hPattern : agreeing (fun p q => p.source == q.source) rules.pattern rules.pattern :=
    agreeing_self fun pattern _ => beq_self_eq_true pattern.source
  simp [StringRules.same, hPattern]

theorem Bound.canonical_same (bound : Bound) : bound.canonical.same bound = true := by
  simp [Bound.same, Bound.canonical, Binary64.canonical_sameValue]

theorem NumberRules.canonical_same (rules : NumberRules) : rules.canonical.same rules = true := by
  have hDivisor : agreeing Binary64.sameValue rules.multipleOf rules.multipleOf :=
    agreeing_self fun divisor _ => beq_self_eq_true divisor.signedUnits
  simp only [NumberRules.same, NumberRules.canonical, Bool.and_eq_true]
  exact ⟨⟨agreeing_map fun bound _ => bound.canonical_same,
    agreeing_map fun bound _ => bound.canonical_same⟩, hDivisor⟩

namespace Schema

theorem sameMembers_canonicalMembers {members : List Schema}
    (hMembers : ∀ member ∈ members, member.canonical.same member = true) :
    sameMembers (canonicalMembers members) members = true := by
  induction members with
  | nil => rw [canonicalMembers, sameMembers]
  | cons member rest ih =>
    rw [List.forall_mem_cons] at hMembers
    rw [canonicalMembers, sameMembers, hMembers.1, ih hMembers.2, Bool.and_true]

theorem keys_canonicalProperties (properties : List (String × Schema)) :
    Members.keys (canonicalProperties properties) = Members.keys properties := by
  induction properties with
  | nil => rfl
  | cons entry rest ih => exact congrArg (List.cons entry.1) ih

theorem length_canonicalProperties (properties : List (String × Schema)) :
    (canonicalProperties properties).length = properties.length := by
  induction properties with
  | nil => rfl
  | cons entry rest ih =>
    rw [canonicalProperties, List.length_cons, List.length_cons, ih]

theorem sameProperties_canonicalProperties {properties whole : List (String × Schema)}
    (hWhole : ∀ entry ∈ properties, whole.lookup entry.1 = some entry.2)
    (hProperties : ∀ entry ∈ properties, entry.2.canonical.same entry.2 = true) :
    sameProperties (canonicalProperties properties) whole = true := by
  induction properties with
  | nil => rw [canonicalProperties, sameProperties]
  | cons entry rest ih =>
    obtain ⟨name, schema⟩ := entry
    rw [List.forall_mem_cons] at hWhole hProperties
    have hFound : whole.lookup name = some schema := hWhole.1
    rw [canonicalProperties, sameProperties, hFound, ih hWhole.2 hProperties.2, Bool.and_true]
    exact hProperties.1

theorem sameExtra_canonicalExtra {extra : Extra Schema}
    (hExtra : ∀ schema, extra = .matching schema → schema.canonical.same schema = true) :
    sameExtra (canonicalExtra extra) extra = true := by
  cases extra with
  | allowed => rw [canonicalExtra, sameExtra]
  | refused => rw [canonicalExtra, sameExtra]
  | matching schema =>
    rw [canonicalExtra, sameExtra]
    exact hExtra schema rfl

theorem canonical_same_of_nested {settings : Settings} {schema : Schema}
    (hTop : schema.TopWellFormed settings)
    (hNested : schema.EachNested fun nested => nested.canonical.same nested = true) :
    schema.canonical.same schema = true := by
  cases schema with
  | combined combinator members =>
    rw [canonical, same, beq_self_eq_true, Bool.true_and]
    exact sameMembers_canonicalMembers hNested
  | string common rules =>
    rw [canonical, same, hTop.1.same_self, rules.same_self, Bool.and_true]
  | numeric common type rules =>
    rw [canonical, same, hTop.1.same_self, beq_self_eq_true, rules.canonical_same]
    rfl
  | boolean common =>
    rw [canonical, same]
    exact hTop.same_self
  | array common rules items =>
    rw [canonical, same, hTop.1.same_self, beq_self_eq_true]
    exact hNested
  | object common rules =>
    rw [canonical, same, hTop.1.same_self, beq_self_eq_true, Bool.and_true]
  | record common rules properties extra =>
    -- A property is compared with what is found under its name, so no name may be repeated.
    have hProperties : sameProperties (canonicalProperties properties) properties = true :=
      sameProperties_canonicalProperties
        (fun entry hEntry => Members.lookup_of_mem hTop.2.2 hEntry) hNested.1
    rw [canonical, same, hTop.1.same_self, beq_self_eq_true, length_canonicalProperties,
      beq_self_eq_true, hProperties, sameExtra_canonicalExtra hNested.2]
    rfl

end Schema

end ParamSchema
