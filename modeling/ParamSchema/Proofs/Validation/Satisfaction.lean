import ParamSchema.Proofs.Json.Equality
import ParamSchema.Proofs.Validation.Guard

/-!
# Satisfaction

What a schema says about values: a relation between the two that knows no order of
checks, no places, no nesting limit and no errors. A schema that was read accepts
exactly the values that satisfy it.
-/

set_option autoImplicit false

namespace ParamSchema

open Results Validation

def Combinator.Asks : Combinator → Nat → Nat → Prop
  | .oneOf, count, _ => count = 1
  | .anyOf, count, _ => 1 ≤ count
  | .allOf, count, total => count = total

structure StringRules.Holds (rules : StringRules) (text : String) : Prop where
  format : ∀ format ∈ rules.format, format.accepts text = true
  minLength : ∀ least ∈ rules.minLength, least ≤ Text.units16 text
  maxLength : ∀ most ∈ rules.maxLength, Text.units16 text ≤ most
  pattern : ∀ pattern ∈ rules.pattern, pattern.isMatch text = true

structure NumberRules.Holds (type : NumericType) (rules : NumberRules) (x : Binary64) : Prop where
  format : ∀ format ∈ type.format?, format.bounds.1 * Binary64.one ≤ x.signedUnits ∧
    x.signedUnits ≤ format.bounds.2 * Binary64.one
  minimum : ∀ bound ∈ rules.minimum, bound.value.signedUnits ≤ x.signedUnits ∧
    (bound.exclusive = true → bound.value.signedUnits ≠ x.signedUnits)
  maximum : ∀ bound ∈ rules.maximum, x.signedUnits ≤ bound.value.signedUnits ∧
    (bound.exclusive = true → x.signedUnits ≠ bound.value.signedUnits)
  multipleOf : ∀ divisor ∈ rules.multipleOf, x.isMultipleOf divisor = true

structure ArrayRules.Holds (rules : ArrayRules) (items : List Json) : Prop where
  minItems : ∀ least ∈ rules.minItems, least ≤ items.length
  maxItems : ∀ most ∈ rules.maxItems, items.length ≤ most
  uniqueItems : rules.uniqueItems = true → items.Pairwise fun a b => a.same b = false

structure ObjectRules.Holds (rules : ObjectRules) (members : List (String × Json)) : Prop where
  minProperties : ∀ least ∈ rules.minProperties, least ≤ members.length
  maxProperties : ∀ most ∈ rules.maxProperties, members.length ≤ most
  required : ∀ name ∈ rules.required, name ∈ Members.keys members

/-- A leaf allows null if it says so, and else the values among those that it lists, if it lists
any, which are as its type and its rules want them. -/
def Common.Allows (common : Common) (value : Json) (asTyped : Prop) : Prop :=
  common.nullable = true ∧ value = .null ∨
    (∀ choices ∈ common.choices, ∃ choice ∈ choices, choice.same value = true) ∧ asTyped

namespace Schema

noncomputable section

open Classical

mutual

def Satisfies : Schema → Json → Prop
  | .combined combinator members, value =>
    combinator.Asks (satisfied members value) members.length
  | .string common rules, value => common.Allows value <|
    ∃ text, value = .string text ∧ rules.Holds text
  | .numeric common type rules, value => common.Allows value <|
    ∃ number, value = .number number ∧
      (type.kind = .integer → number.toBinary64.isIntegral = true) ∧
      rules.Holds type number.toBinary64
  | .boolean common, value => common.Allows value <| ∃ flag, value = .bool flag
  | .array common rules items, value => common.Allows value <|
    ∃ list, value = .array list ∧ rules.Holds list ∧ ∀ item ∈ list, Satisfies items item
  | .object common rules, value => common.Allows value <|
    ∃ members, value = .object members ∧ rules.Holds members
  | .record common rules properties extra, value => common.Allows value <|
    ∃ members, value = .object members ∧ rules.Holds members ∧
      PropertiesSatisfied properties members ∧
      ExtraSatisfied extra (undeclared properties members)

def satisfied : List Schema → Json → Nat
  | [], _ => 0
  | member :: rest, value => (if Satisfies member value then 1 else 0) + satisfied rest value

def PropertiesSatisfied : List (String × Schema) → List (String × Json) → Prop
  | [], _ => True
  | (name, property) :: rest, members =>
    (∀ value, members.lookup name = some value → Satisfies property value) ∧
      PropertiesSatisfied rest members

def ExtraSatisfied : Extra Schema → List (String × Json) → Prop
  | .allowed, _ => True
  | .refused, others => others = []
  | .matching schema, others => ∀ member ∈ others, Satisfies schema member.2

end

end

end Schema

namespace Validation

theorem broken_eq_nil_iff {α : Type} {rule : Option α} {holds : α → Bool} {fault : ValueFault}
    {key : String} {text : α → String} :
    broken rule holds fault key text = [] ↔ ∀ x ∈ rule, holds x = true := by
  cases rule with
  | none => simp [broken]
  | some x =>
    rw [broken, Option.elim_some]
    split <;> simp_all

theorem stringFlaws_eq_nil_iff {rules : StringRules} {text : String} :
    stringFlaws rules text = [] ↔ rules.Holds text := by
  simp only [stringFlaws, List.append_eq_nil_iff, broken_eq_nil_iff, decide_eq_true_eq]
  constructor
  · rintro ⟨⟨⟨hFormat, hMin⟩, hMax⟩, hPattern⟩
    exact ⟨hFormat, hMin, hMax, hPattern⟩
  · rintro ⟨hFormat, hMin, hMax, hPattern⟩
    exact ⟨⟨⟨hFormat, hMin⟩, hMax⟩, hPattern⟩

theorem boundFlaws_eq_nil_iff {bound : Option Bound} {outside : Bound → Bool} {x : Binary64}
    {fault exclusiveFault : ValueFault} {key : String} :
    boundFlaws bound outside x fault exclusiveFault key = [] ↔
      ∀ b ∈ bound, outside b = false ∧
        (b.exclusive = true → b.value.signedUnits ≠ x.signedUnits) := by
  cases bound with
  | none => simp [boundFlaws]
  | some b =>
    have hSame : x.sameValue b.value = true ↔ b.value.signedUnits = x.signedUnits := by
      rw [Binary64.sameValue, beq_iff_eq, eq_comm]
    simp only [boundFlaws, Option.elim_some, Option.mem_some, forall_eq', ← hSame, ne_eq]
    cases outside b with
    | true => simp
    | false => cases b.exclusive <;> simp

theorem numberFlaws_eq_nil_iff {type : NumericType} {rules : NumberRules} {x : Binary64} :
    numberFlaws type rules x = [] ↔ rules.Holds type x := by
  simp only [numberFlaws, List.append_eq_nil_iff, broken_eq_nil_iff, boundFlaws_eq_nil_iff,
    Binary64.lessThan, decide_eq_false_iff_not, Int.not_lt, IntegerFormat.accepts,
    decide_eq_true_eq]
  constructor
  · rintro ⟨⟨⟨hFormat, hMin⟩, hMax⟩, hMultiple⟩
    refine ⟨hFormat, hMin, ?_, hMultiple⟩
    intro bound hBound
    exact ⟨(hMax bound hBound).1, fun hFlag => ((hMax bound hBound).2 hFlag).symm⟩
  · rintro ⟨hFormat, hMin, hMax, hMultiple⟩
    refine ⟨⟨⟨hFormat, hMin⟩, ?_⟩, hMultiple⟩
    intro bound hBound
    exact ⟨(hMax bound hBound).1, fun hFlag => ((hMax bound hBound).2 hFlag).symm⟩

theorem arrayFlaws_eq_nil_iff {rules : ArrayRules} {items : List Json} :
    arrayFlaws rules items = [] ↔ rules.Holds items := by
  have hUnique : (if rules.uniqueItems && !Json.allDistinct items then [flaw .uniqueItems] else [])
      = [] ↔ (rules.uniqueItems = true → items.Pairwise fun a b => a.same b = false) := by
    rw [← Json.allDistinct_eq_true_iff]
    cases rules.uniqueItems <;> cases Json.allDistinct items <;> simp
  simp only [arrayFlaws, List.append_eq_nil_iff, broken_eq_nil_iff, hUnique, decide_eq_true_eq]
  constructor
  · rintro ⟨⟨hMin, hMax⟩, hDistinct⟩
    exact ⟨hMin, hMax, hDistinct⟩
  · rintro ⟨hMin, hMax, hDistinct⟩
    exact ⟨⟨hMin, hMax⟩, hDistinct⟩

theorem objectFlaws_eq_nil_iff {rules : ObjectRules} {members : List (String × Json)} :
    objectFlaws rules members = [] ↔ rules.Holds members := by
  simp only [objectFlaws, List.append_eq_nil_iff, broken_eq_nil_iff, List.map_eq_nil_iff,
    List.filter_eq_nil_iff, Bool.not_eq_true', Bool.not_eq_false, decide_eq_true_eq,
    Members.contains_eq_true_iff]
  constructor
  · rintro ⟨⟨hMin, hMax⟩, hRequired⟩
    exact ⟨hMin, hMax, hRequired⟩
  · rintro ⟨hMin, hMax, hRequired⟩
    exact ⟨⟨hMin, hMax⟩, hRequired⟩

theorem leafFlaws_eq_nil_iff {common : Common} {value : Json} {rest : List Flaw} {asTyped : Prop}
    (hRest : rest = [] ↔ asTyped) :
    leafFlaws common value rest = [] ↔ common.Allows value asTyped := by
  have hNull : value.isNull = true ↔ value = .null := by cases value <;> simp [Json.isNull]
  unfold leafFlaws Common.Allows
  rw [choiceFlaws, ← hNull, ← hRest, ← Bool.and_eq_true]
  split
  · rename_i h
    exact ⟨fun _ => .inl h, fun _ => rfl⟩
  · rename_i h
    simp only [List.append_eq_nil_iff, broken_eq_nil_iff, List.any_eq_true]
    exact ⟨.inr, fun hAllows => hAllows.resolve_left h⟩

end Validation

namespace Schema

theorem isSatisfied_eq_true_iff {combinator : Combinator} {count total : Nat} :
    combinator.isSatisfied count total = true ↔ combinator.Asks count total := by
  cases combinator <;> simp [Combinator.isSatisfied, Combinator.Asks]

theorem propertiesSatisfied_iff {properties : List (String × Schema)}
    {members : List (String × Json)} : PropertiesSatisfied properties members ↔
      ∀ property ∈ properties, ∀ value, members.lookup property.1 = some value →
        property.2.Satisfies value := by
  induction properties with
  | nil => simp [PropertiesSatisfied]
  | cons property rest ih =>
    obtain ⟨name, schema⟩ := property
    rw [PropertiesSatisfied, ih, List.forall_mem_cons]

theorem flawless_eq_satisfied {members : List Schema} {value : Json}
    (hMembers : ∀ member ∈ members, member.violations value = [] ↔ member.Satisfies value) :
    flawless members value = satisfied members value := by
  induction members with
  | nil => rfl
  | cons member rest ih =>
    have hFirst : (member.violations value).isEmpty = true ↔ member.Satisfies value :=
      List.isEmpty_iff.trans (hMembers member List.mem_cons_self)
    rw [flawless, satisfied, ih fun other hOther => hMembers other (List.mem_cons_of_mem _ hOther)]
    by_cases hSatisfies : member.Satisfies value
    · rw [if_pos (hFirst.mpr hSatisfies), if_pos hSatisfies]
    · rw [if_neg (hSatisfies ∘ hFirst.mp), if_neg hSatisfies]

theorem itemFlaws_eq_nil_iff {flaws : Json → List Flaw} {index : Nat} {items : List Json} :
    itemFlaws flaws index items = [] ↔ ∀ item ∈ items, flaws item = [] := by
  induction items generalizing index with
  | nil => simp [itemFlaws]
  | cons item rest ih =>
    have hRest := @ih (index + 1)
    simp only [itemFlaws] at hRest
    simp [itemFlaws, hRest]

theorem memberFlaws_eq_nil_iff {flaws : Json → List Flaw} {members : List (String × Json)} :
    memberFlaws flaws members = [] ↔ ∀ member ∈ members, flaws member.2 = [] := by
  simp [memberFlaws]

theorem propertyFlaws_eq_nil_iff {properties : List (String × Schema)}
    {members : List (String × Json)}
    (hProperties : ∀ property ∈ properties, ∀ value,
      property.2.violations value = [] ↔ property.2.Satisfies value) :
    propertyFlaws properties members = [] ↔ PropertiesSatisfied properties members := by
  induction properties with
  | nil => simp [propertyFlaws, PropertiesSatisfied]
  | cons property rest ih =>
    obtain ⟨name, schema⟩ := property
    have hFirst := hProperties (name, schema) List.mem_cons_self
    rw [propertyFlaws, PropertiesSatisfied, List.append_eq_nil_iff,
      ih fun other hOther => hProperties other (List.mem_cons_of_mem _ hOther)]
    cases members.lookup name with
    | none => simp
    | some value => simp [hFirst]

theorem extraFlaws_eq_nil_iff {extra : Extra Schema} {others : List (String × Json)}
    (hExtra : ∀ schema, extra = .matching schema → ∀ value,
      schema.violations value = [] ↔ schema.Satisfies value) :
    refusedFlaws extra others = [] ∧ extraFlaws extra others = [] ↔ ExtraSatisfied extra others := by
  cases extra with
  | allowed => simp [refusedFlaws, extraFlaws, ExtraSatisfied]
  | refused => simp [refusedFlaws, extraFlaws, ExtraSatisfied]
  | matching schema =>
    simp [refusedFlaws, extraFlaws, ExtraSatisfied, memberFlaws_eq_nil_iff, hExtra schema rfl]

theorem violations_eq_nil_iff (schema : Schema) (value : Json) :
    schema.violations value = [] ↔ schema.Satisfies value := by
  induction schema generalizing value with
  | combined combinator members ih =>
    rw [violations, Satisfies, flawless_eq_satisfied fun member hMember => ih member hMember value,
      ← isSatisfied_eq_true_iff]
    split <;> simp_all
  | string common rules =>
    rw [violations.eq_def, Satisfies]
    apply leafFlaws_eq_nil_iff
    cases value with
    | string text => simp [stringFlaws_eq_nil_iff]
    | _ => simp
  | numeric common type rules =>
    rw [violations, Satisfies]
    apply leafFlaws_eq_nil_iff
    cases value with
    | number number =>
      -- The violations test type and value at once, satisfaction each alone.
      have hKind : (type.kind == .number || number.toBinary64.isIntegral) = true ↔
          (type.kind = .integer → number.toBinary64.isIntegral = true) := by
        cases type <;> simp [NumericType.kind]
      simp only [Json.binary64?, Option.filter_some]
      split
      · rename_i x hx
        simp only [Option.ite_none_right_eq_some, Option.some.injEq] at hx
        obtain ⟨hAllowed, rfl⟩ := hx
        have hIntegral := hKind.mp hAllowed
        simpa [numberFlaws_eq_nil_iff] using fun _ => hIntegral
      · rename_i hRefused
        simp only [ite_eq_right_iff, reduceCtorEq, imp_false, hKind] at hRefused
        simp [hRefused]
    | _ => simp [Json.binary64?]
  | boolean common =>
    rw [violations.eq_def, Satisfies]
    apply leafFlaws_eq_nil_iff
    cases value <;> simp
  | array common rules items ih =>
    rw [violations.eq_def, Satisfies]
    apply leafFlaws_eq_nil_iff
    cases value with
    | array list => simp [arrayFlaws_eq_nil_iff, itemFlaws_eq_nil_iff, ih]
    | _ => simp
  | object common rules =>
    rw [violations.eq_def, Satisfies]
    apply leafFlaws_eq_nil_iff
    cases value with
    | object members => simp [objectFlaws_eq_nil_iff]
    | _ => simp
  | record common rules properties extra ihProperties ihExtra =>
    rw [violations.eq_def, Satisfies]
    apply leafFlaws_eq_nil_iff
    cases value with
    | object members =>
      simp only [List.append_eq_nil_iff, objectFlaws_eq_nil_iff,
        propertyFlaws_eq_nil_iff ihProperties, ← extraFlaws_eq_nil_iff ihExtra]
      constructor
      · rintro ⟨⟨⟨hRules, hRefused⟩, hProperties⟩, hExtra⟩
        exact ⟨members, rfl, hRules, hProperties, hRefused, hExtra⟩
      · rintro ⟨_, hMembers, hRules, hProperties, hRefused, hExtra⟩
        cases hMembers
        exact ⟨⟨⟨hRules, hRefused⟩, hProperties⟩, hExtra⟩
    | _ => simp

end Schema

end ParamSchema
