import ParamSchema.Proofs.Results
import ParamSchema.Proofs.Schema.Nesting
import ParamSchema.Validation.Basic

/-!
# All violations

Everything that is wrong with a value, listed in the order in which the checks are
documented, without stopping at the first. The check that stops at the first flaw
and sets no limit to nesting reports the head of this list.
-/

set_option autoImplicit false

namespace ParamSchema

open Results

namespace Validation

def flaw (fault : ValueFault) (params : List (String × String) := []) : Flaw :=
  ⟨[], .value fault, params⟩

def broken {α : Type} (rule : Option α) (holds : α → Bool) (fault : ValueFault) (key : String)
    (text : α → String) : List Flaw :=
  rule.elim [] fun x => if holds x then [] else [flaw fault [(key, text x)]]

def choiceFlaws (common : Common) (value : Json) : List Flaw :=
  broken common.choices (·.any (Json.same · value)) .enum "enumList" fun list =>
    (Json.array list).write

def leafFlaws (common : Common) (value : Json) (rest : List Flaw) : List Flaw :=
  if common.nullable && value.isNull then [] else choiceFlaws common value ++ rest

def stringFlaws (rules : StringRules) (text : String) : List Flaw :=
  broken rules.format (·.accepts text) .stringFormat "format" StringFormat.name ++
  broken rules.minLength (· ≤ Text.units16 text) .minLength "minLength" toString ++
  broken rules.maxLength (Text.units16 text ≤ ·) .maxLength "maxLength" toString ++
  broken rules.pattern (·.isMatch text) .pattern "pattern" Pattern.text

/-- A number outside a bound has one flaw, and one on a bound that is excluded has another. -/
def boundFlaws (bound : Option Bound) (outside : Bound → Bool) (x : Binary64)
    (fault exclusiveFault : ValueFault) (key : String) : List Flaw :=
  bound.elim [] fun b =>
    if outside b then [flaw fault [(key, b.value.canonicalText)]]
    else if b.exclusive && x.sameValue b.value then
      [flaw exclusiveFault [(key, b.value.canonicalText)]]
    else []

def numberFlaws (type : NumericType) (rules : NumberRules) (x : Binary64) : List Flaw :=
  broken type.format? (·.accepts x) .integerFormat "format" IntegerFormat.name ++
  boundFlaws rules.minimum (fun b => x.lessThan b.value) x (.numeric type.kind .minimum)
    (.numeric type.kind .exclusiveMinimum) "minimum" ++
  boundFlaws rules.maximum (fun b => b.value.lessThan x) x (.numeric type.kind .maximum)
    (.numeric type.kind .exclusiveMaximum) "maximum" ++
  broken rules.multipleOf x.isMultipleOf (.numeric type.kind .multipleOf) "multipleOf"
    Binary64.canonicalText

def arrayFlaws (rules : ArrayRules) (items : List Json) : List Flaw :=
  broken rules.minItems (· ≤ items.length) .minItems "minItems" toString ++
  broken rules.maxItems (items.length ≤ ·) .maxItems "maxItems" toString ++
  if rules.uniqueItems && !Json.allDistinct items then [flaw .uniqueItems] else []

def objectFlaws (rules : ObjectRules) (members : List (String × Json)) : List Flaw :=
  broken rules.minProperties (· ≤ members.length) .minProperties "minProperties" toString ++
  broken rules.maxProperties (members.length ≤ ·) .maxProperties "maxProperties" toString ++
  (rules.required.filter fun name => !Members.contains members name).map fun name =>
    flaw .missingProperty [("missingPropertyName", name)]

def refusedFlaws : Extra Schema → List (String × Json) → List Flaw
  | .refused, others => others.map fun member =>
    flaw .unknownProperty [("unknownPropertyName", member.1)]
  | _, _ => []

def itemFlaws (flaws : Json → List Flaw) (index : Nat) (items : List Json) : List Flaw :=
  (items.zipIdx index).flatMap fun item => (flaws item.1).map (Flaw.under (.item item.2))

def memberFlaws (flaws : Json → List Flaw) (members : List (String × Json)) : List Flaw :=
  members.flatMap fun member => (flaws member.2).map (Flaw.under (.member member.1))

end Validation

open Validation

namespace Schema

mutual

/-- Everything that is wrong with a value, in order. -/
def violations : Schema → Json → List Flaw
  | .combined combinator members, value =>
    if combinator.isSatisfied (flawless members value) members.length then []
    else [flaw combinator.valueFault]
  | .string common rules, value => leafFlaws common value <| match value with
    | .string text => stringFlaws rules text
    | _ => [flaw .stringType]
  | .numeric common type rules, value => leafFlaws common value <|
    match value.binary64?.filter fun x => type.kind == .number || x.isIntegral with
    | some x => numberFlaws type rules x
    | none => [flaw (.numeric type.kind .type)]
  | .boolean common, value => leafFlaws common value <| match value with
    | .bool _ => []
    | _ => [flaw .booleanType]
  | .array common rules items, value => leafFlaws common value <| match value with
    | .array list => arrayFlaws rules list ++ itemFlaws (violations items) 0 list
    | _ => [flaw .arrayType]
  | .object common rules, value => leafFlaws common value <| match value with
    | .object members => objectFlaws rules members
    | _ => [flaw .objectType]
  | .record common rules properties extra, value => leafFlaws common value <| match value with
    | .object members =>
      objectFlaws rules members ++ refusedFlaws extra (undeclared properties members) ++
        propertyFlaws properties members ++ extraFlaws extra (undeclared properties members)
    | _ => [flaw .objectType]

def flawless : List Schema → Json → Nat
  | [], _ => 0
  | member :: rest, value => (if (violations member value).isEmpty then 1 else 0) +
    flawless rest value

def propertyFlaws : List (String × Schema) → List (String × Json) → List Flaw
  | [], _ => []
  | (name, property) :: rest, members =>
    ((members.lookup name).elim [] fun value =>
      (violations property value).map (Flaw.under (.member name))) ++ propertyFlaws rest members

def extraFlaws : Extra Schema → List (String × Json) → List Flaw
  | .matching schema, others => memberFlaws (violations schema) others
  | _, _ => []

end

end Schema

namespace Validation

theorem failure?_obey {α : Type} (rule : Option α) (holds : α → Bool) (fault : ValueFault)
    (key : String) (text : α → String) :
    failure? (obey rule holds fault key text) = (broken rule holds fault key text).head? := by
  cases rule with
  | none => rfl
  | some x =>
    by_cases hHolds : holds x = true <;> simp [obey, broken, hHolds, reject, flaw]

theorem failure?_checkString (rules : StringRules) (text : String) :
    failure? (checkString rules text) = (stringFlaws rules text).head? := by
  unfold checkString stringFlaws
  simp only [List.head?_append, Option.or_assoc, ← failure?_obey]
  refine failure?_bind fun _ => ?_
  refine failure?_bind fun _ => ?_
  exact failure?_bind fun _ => rfl

/-- The two checks of a bound find the one flaw that a number can have there. -/
theorem failure?_bound (bound : Option Bound) (outside : Bound → Bool) (x : Binary64)
    (fault exclusiveFault : ValueFault) (key : String) :
    (failure? (obey bound (fun b => !outside b) fault key fun b => b.value.canonicalText)).or
      (failure? (obey bound (fun b => !(b.exclusive && x.sameValue b.value)) exclusiveFault key
        fun b => b.value.canonicalText)) =
      (boundFlaws bound outside x fault exclusiveFault key).head? := by
  rw [failure?_obey, failure?_obey, ← List.head?_append]
  cases bound with
  | none => rfl
  | some b =>
    simp only [broken, boundFlaws, Option.elim_some]
    cases outside b with
    | true => simp
    | false => cases b.exclusive && x.sameValue b.value <;> simp

theorem failure?_checkNumber (type : NumericType) (rules : NumberRules) (x : Binary64) :
    failure? (checkNumber type rules x) = (numberFlaws type rules x).head? := by
  unfold checkNumber numberFlaws
  simp only [List.head?_append, ← failure?_obey, ← failure?_bound, Option.or_assoc]
  refine failure?_bind fun _ => ?_
  refine failure?_bind fun _ => ?_
  refine failure?_bind fun _ => ?_
  refine failure?_bind fun _ => ?_
  exact failure?_bind fun _ => rfl

theorem failure?_checkArray (rules : ArrayRules) (items : List Json) :
    failure? (checkArray rules items) = (arrayFlaws rules items).head? := by
  unfold checkArray arrayFlaws
  simp only [List.head?_append, ← failure?_obey, Option.or_assoc]
  refine failure?_bind fun _ => ?_
  refine failure?_bind fun _ => ?_
  split <;> rfl

theorem failure?_checkObject (rules : ObjectRules) (members : List (String × Json)) :
    failure? (checkObject rules members) = (objectFlaws rules members).head? := by
  unfold checkObject objectFlaws
  simp only [List.head?_append, ← failure?_obey, Option.or_assoc]
  refine failure?_bind fun _ => ?_
  refine failure?_bind fun _ => ?_
  rw [failure?_obey, List.head?_map, List.head?_filter]
  cases rules.required.find? fun name => !Members.contains members name <;> rfl

theorem failure?_checkRefused (extra : Extra Schema) (others : List (String × Json)) :
    failure? (checkRefused extra others) = (refusedFlaws extra others).head? := by
  cases extra <;> cases others <;> rfl

theorem failure?_unlessNull (common : Common) (value : Json) {rest : Except Flaw Json}
    {flaws : List Flaw} (hRest : failure? rest = flaws.head?) :
    failure? (unlessNull common value rest) = (leafFlaws common value flaws).head? := by
  unfold unlessNull leafFlaws
  split
  · rfl
  · rw [List.head?_append, choiceFlaws, ← failure?_obey, ← hRest]
    exact failure?_bind fun _ => rfl

theorem failure?_checkItems {check : Json → Except Flaw Json} {flaws : Json → List Flaw}
    (hCheck : ∀ value, failure? (check value) = (flaws value).head?) (index : Nat)
    (items : List Json) :
    failure? (checkItems check index items) = (itemFlaws flaws index items).head? := by
  induction items generalizing index with
  | nil => rfl
  | cons item rest ih =>
    have hFirst : failure? (inside (.item index) (check item)) =
        ((flaws item).map (Flaw.under (.item index))).head? := by
      rw [inside, failure?_mapError, hCheck, List.head?_map]
    simp only [itemFlaws, List.zipIdx_cons, List.flatMap_cons, List.head?_append]
    rw [← hFirst]
    refine failure?_bind fun _ => ?_
    rw [failure?_bind_pure, ih, itemFlaws]

theorem failure?_checkMembers {check : Json → Except Flaw Json} {flaws : Json → List Flaw}
    (hCheck : ∀ value, failure? (check value) = (flaws value).head?)
    (members : List (String × Json)) :
    failure? (checkMembers check members) = (memberFlaws flaws members).head? := by
  induction members with
  | nil => rfl
  | cons member rest ih =>
    obtain ⟨key, value⟩ := member
    have hFirst : failure? (inside (.member key) (check value)) =
        ((flaws value).map (Flaw.under (.member key))).head? := by
      rw [inside, failure?_mapError, hCheck, List.head?_map]
    simp only [memberFlaws, List.flatMap_cons, List.head?_append]
    rw [← hFirst]
    refine failure?_bind fun _ => ?_
    rw [failure?_bind_pure, ih, memberFlaws]

theorem countPassing_eq_flawless {depth : Nat} {value : Json} {members : List Schema}
    (hMembers : ∀ member ∈ members,
      failure? (check none depth member value) = (member.violations value).head?) :
    countPassing none depth members value = Schema.flawless members value := by
  induction members with
  | nil => rfl
  | cons member rest ih =>
    have hFirst := hMembers member List.mem_cons_self
    rw [countPassing, Schema.flawless, ih fun other hOther =>
      hMembers other (List.mem_cons_of_mem _ hOther)]
    cases hResult : check none depth member value with
    | ok checked =>
      rw [hResult, failure?_ok, eq_comm, List.head?_eq_none_iff] at hFirst
      rw [hFirst]
      rfl
    | error first =>
      rw [hResult, failure?_error] at hFirst
      cases hFlaws : member.violations value with
      | nil => simp [hFlaws] at hFirst
      | cons flaw flaws => rfl

theorem failure?_checkProperties {depth : Nat} {members : List (String × Json)}
    {properties : List (String × Schema)}
    (hProperties : ∀ property ∈ properties, ∀ value,
      failure? (check none depth property.2 value) = (property.2.violations value).head?) :
    failure? (checkProperties none depth properties members) =
      (Schema.propertyFlaws properties members).head? := by
  induction properties with
  | nil => rfl
  | cons property rest ih =>
    obtain ⟨name, schema⟩ := property
    have hRest := ih fun other hOther => hProperties other (List.mem_cons_of_mem _ hOther)
    rw [checkProperties, Schema.propertyFlaws, List.head?_append]
    cases hValue : members.lookup name with
    | none =>
      rw [← hRest]
      exact failure?_bind_pure _ _
    | some value =>
      have hFirst : failure? ((inside (.member name) (check none depth schema value)).map some) =
          ((schema.violations value).map (Flaw.under (.member name))).head? := by
        rw [failure?_map, inside, failure?_mapError,
          hProperties (name, schema) List.mem_cons_self value, List.head?_map]
      rw [Option.elim_some, ← hFirst, ← hRest]
      exact failure?_bind fun _ => failure?_bind_pure _ _

theorem failure?_checkExtra {depth : Nat} {extra : Extra Schema} (others : List (String × Json))
    (hExtra : ∀ schema, extra = .matching schema → ∀ value,
      failure? (check none depth schema value) = (schema.violations value).head?) :
    failure? (checkExtra none depth extra others) = (Schema.extraFlaws extra others).head? := by
  cases extra with
  | allowed => rfl
  | refused => rfl
  | matching schema => exact failure?_checkMembers (hExtra schema rfl) others

/-- The first flaw found without a limit is the first of all violations, at any depth. -/
theorem failure?_check (schema : Schema) (depth : Nat) (value : Json) :
    failure? (check none depth schema value) = (schema.violations value).head? := by
  induction schema generalizing depth value with
  | combined combinator members ih =>
    rw [check, Schema.violations,
      countPassing_eq_flawless fun member hMember => ih member hMember (depth + 1) value]
    change failure? (if _ then _ else _) = _
    split <;> rfl
  | string common rules =>
    rw [check.eq_def, Schema.violations.eq_def]
    refine failure?_unlessNull common value ?_
    cases value with
    | string text =>
      rw [← failure?_checkString]
      exact failure?_bind_pure _ _
    | _ => rfl
  | numeric common type rules =>
    rw [check, Schema.violations]
    refine failure?_unlessNull common value ?_
    cases value.binary64?.filter fun x => type.kind == .number || x.isIntegral with
    | none => rfl
    | some x =>
      rw [← failure?_checkNumber]
      exact failure?_bind_pure _ _
  | boolean common =>
    rw [check.eq_def, Schema.violations.eq_def]
    refine failure?_unlessNull common value ?_
    cases value <;> rfl
  | array common rules items ih =>
    rw [check.eq_def, Schema.violations.eq_def]
    refine failure?_unlessNull common value ?_
    cases value with
    | array list =>
      rw [List.head?_append, ← failure?_checkArray, ← failure?_checkItems (ih (depth + 1))]
      exact failure?_bind fun _ => failure?_bind_pure _ _
    | _ => rfl
  | object common rules =>
    rw [check.eq_def, Schema.violations.eq_def]
    refine failure?_unlessNull common value ?_
    cases value with
    | object members =>
      rw [← failure?_checkObject]
      exact failure?_bind_pure _ _
    | _ => rfl
  | record common rules properties extra ihProperties ihExtra =>
    rw [check.eq_def, Schema.violations.eq_def]
    refine failure?_unlessNull common value ?_
    cases value with
    | object members =>
      simp only [List.head?_append, Option.or_assoc]
      rw [← failure?_checkObject, ← failure?_checkRefused,
        ← failure?_checkProperties fun property hProperty => ihProperties property hProperty (depth + 1),
        ← failure?_checkExtra _ fun schema hSchema => ihExtra schema hSchema (depth + 1)]
      refine failure?_bind fun _ => ?_
      refine failure?_bind fun _ => ?_
      refine failure?_bind fun _ => ?_
      exact failure?_bind_pure _ _
    | _ => rfl

def OfValue (f : Flaw) : Prop := ∃ fault, f.code = .value fault ∧ fault ≠ .required ∧ fault ≠ .depth

theorem OfValue.under {f : Flaw} (h : OfValue f) (step : Step) : OfValue (f.under step) := h

def isRuleFault : ValueFault → Bool
  | .required | .depth => false
  | .stringType | .numeric _ .type | .booleanType | .arrayType | .objectType => false
  | _ => true

def OfRule (f : Flaw) : Prop := ∃ fault, f.code = .value fault ∧ isRuleFault fault = true

theorem OfRule.ofValue {f : Flaw} (h : OfRule f) : OfValue f := by
  obtain ⟨fault, hCode, hRule⟩ := h
  refine ⟨fault, hCode, ?_, ?_⟩
  · rintro rfl
    cases hRule
  · rintro rfl
    cases hRule

theorem OfRule.code_ne_typeFault {f : Flaw} (h : OfRule f) (type : ValueType) :
    f.code ≠ .value type.typeFault := by
  obtain ⟨fault, hCode, hRule⟩ := h
  intro hType
  obtain rfl : fault = type.typeFault := Code.value.inj (hCode.symm.trans hType)
  cases type <;> cases hRule

theorem ofRule_of_mem_broken {α : Type} {rule : Option α} {holds : α → Bool} {fault : ValueFault}
    {key : String} {text : α → String} {f : Flaw} (h : f ∈ broken rule holds fault key text)
    (hFault : isRuleFault fault = true) : OfRule f := by
  cases rule with
  | none => cases h
  | some x =>
    rw [broken, Option.elim_some] at h
    split at h
    · cases h
    · rw [List.mem_singleton.mp h]
      exact ⟨fault, rfl, hFault⟩

theorem ofRule_of_mem_boundFlaws {bound : Option Bound} {outside : Bound → Bool} {x : Binary64}
    {fault exclusiveFault : ValueFault} {key : String} {f : Flaw}
    (h : f ∈ boundFlaws bound outside x fault exclusiveFault key)
    (hFault : isRuleFault fault = true) (hExclusive : isRuleFault exclusiveFault = true) :
    OfRule f := by
  cases bound with
  | none => cases h
  | some b =>
    rw [boundFlaws, Option.elim_some] at h
    split at h
    · rw [List.mem_singleton.mp h]
      exact ⟨fault, rfl, hFault⟩
    · split at h
      · rw [List.mem_singleton.mp h]
        exact ⟨exclusiveFault, rfl, hExclusive⟩
      · cases h

theorem ofRule_of_mem_choiceFlaws {common : Common} {value : Json} {f : Flaw}
    (h : f ∈ choiceFlaws common value) : OfRule f := ofRule_of_mem_broken h rfl

theorem ofRule_of_mem_stringFlaws {rules : StringRules} {text : String} {f : Flaw}
    (h : f ∈ stringFlaws rules text) : OfRule f := by
  simp only [stringFlaws, List.mem_append] at h
  obtain ((h | h) | h) | h := h <;> exact ofRule_of_mem_broken h rfl

theorem ofRule_of_mem_numberFlaws {type : NumericType} {rules : NumberRules} {x : Binary64}
    {f : Flaw} (h : f ∈ numberFlaws type rules x) : OfRule f := by
  simp only [numberFlaws, List.mem_append] at h
  obtain ((h | h) | h) | h := h
  · exact ofRule_of_mem_broken h rfl
  · exact ofRule_of_mem_boundFlaws h rfl rfl
  · exact ofRule_of_mem_boundFlaws h rfl rfl
  · exact ofRule_of_mem_broken h rfl

theorem ofRule_of_mem_arrayFlaws {rules : ArrayRules} {items : List Json} {f : Flaw}
    (h : f ∈ arrayFlaws rules items) : OfRule f := by
  simp only [arrayFlaws, List.mem_append] at h
  obtain (h | h) | h := h
  · exact ofRule_of_mem_broken h rfl
  · exact ofRule_of_mem_broken h rfl
  · split at h
    · rw [List.mem_singleton.mp h]
      exact ⟨.uniqueItems, rfl, rfl⟩
    · cases h

theorem ofRule_of_mem_objectFlaws {rules : ObjectRules} {members : List (String × Json)} {f : Flaw}
    (h : f ∈ objectFlaws rules members) : OfRule f := by
  simp only [objectFlaws, List.mem_append] at h
  obtain (h | h) | h := h
  · exact ofRule_of_mem_broken h rfl
  · exact ofRule_of_mem_broken h rfl
  · obtain ⟨name, -, rfl⟩ := List.mem_map.mp h
    exact ⟨.missingProperty, rfl, rfl⟩

theorem ofRule_of_mem_refusedFlaws {extra : Extra Schema} {others : List (String × Json)} {f : Flaw}
    (h : f ∈ refusedFlaws extra others) : OfRule f := by
  cases extra with
  | refused =>
    obtain ⟨member, -, rfl⟩ := List.mem_map.mp h
    exact ⟨.unknownProperty, rfl, rfl⟩
  | allowed => cases h
  | matching schema => cases h

theorem ofValue_of_mem_leafFlaws {common : Common} {value : Json} {rest : List Flaw}
    (hRest : ∀ f ∈ rest, OfValue f) : ∀ f ∈ leafFlaws common value rest, OfValue f := by
  intro f h
  unfold leafFlaws at h
  split at h
  · cases h
  · rcases List.mem_append.mp h with h | h
    · exact (ofRule_of_mem_choiceFlaws h).ofValue
    · exact hRest f h

theorem ofValue_of_mem_map {flaws : List Flaw} (hFlaws : ∀ f ∈ flaws, OfValue f) (step : Step) :
    ∀ f ∈ flaws.map (Flaw.under step), OfValue f := by
  intro f h
  obtain ⟨g, hMem, rfl⟩ := List.mem_map.mp h
  exact (hFlaws g hMem).under step

theorem ofValue_of_mem_propertyFlaws {properties : List (String × Schema)}
    {members : List (String × Json)}
    (hProperties : ∀ property ∈ properties, ∀ value, ∀ f ∈ property.2.violations value, OfValue f) :
    ∀ f ∈ Schema.propertyFlaws properties members, OfValue f := by
  induction properties with
  | nil => intro f h; cases h
  | cons property rest ih =>
    obtain ⟨name, schema⟩ := property
    intro f h
    rw [Schema.propertyFlaws] at h
    rcases List.mem_append.mp h with h | h
    · cases hValue : members.lookup name with
      | none => rw [hValue] at h; cases h
      | some value =>
        rw [hValue] at h
        exact ofValue_of_mem_map (hProperties _ List.mem_cons_self value) _ f h
    · exact ih (fun other hOther => hProperties other (List.mem_cons_of_mem _ hOther)) f h

theorem ofValue_of_mem_violations (schema : Schema) (value : Json) :
    ∀ f ∈ schema.violations value, OfValue f := by
  induction schema generalizing value with
  | combined combinator members ih =>
    intro f h
    rw [Schema.violations] at h
    split at h
    · cases h
    · rw [List.mem_singleton.mp h]
      exact ⟨combinator.valueFault, rfl, by cases combinator <;> nofun, by cases combinator <;> nofun⟩
  | string common rules =>
    rw [Schema.violations.eq_def]
    apply ofValue_of_mem_leafFlaws
    intro f h
    cases value with
    | string text => exact (ofRule_of_mem_stringFlaws h).ofValue
    | _ => exact ⟨.stringType, List.mem_singleton.mp h ▸ rfl, nofun, nofun⟩
  | numeric common type rules =>
    rw [Schema.violations]
    apply ofValue_of_mem_leafFlaws
    intro f h
    split at h
    · exact (ofRule_of_mem_numberFlaws h).ofValue
    · exact ⟨.numeric type.kind .type, List.mem_singleton.mp h ▸ rfl, nofun, nofun⟩
  | boolean common =>
    rw [Schema.violations.eq_def]
    apply ofValue_of_mem_leafFlaws
    intro f h
    cases value with
    | bool flag => cases h
    | _ => exact ⟨.booleanType, List.mem_singleton.mp h ▸ rfl, nofun, nofun⟩
  | array common rules items ih =>
    rw [Schema.violations.eq_def]
    apply ofValue_of_mem_leafFlaws
    intro f h
    cases value with
    | array list =>
      rcases List.mem_append.mp h with h | h
      · exact (ofRule_of_mem_arrayFlaws h).ofValue
      · obtain ⟨item, -, h⟩ := List.mem_flatMap.mp h
        exact ofValue_of_mem_map (ih item.1) _ f h
    | _ => exact ⟨.arrayType, List.mem_singleton.mp h ▸ rfl, nofun, nofun⟩
  | object common rules =>
    rw [Schema.violations.eq_def]
    apply ofValue_of_mem_leafFlaws
    intro f h
    cases value with
    | object members => exact (ofRule_of_mem_objectFlaws h).ofValue
    | _ => exact ⟨.objectType, List.mem_singleton.mp h ▸ rfl, nofun, nofun⟩
  | record common rules properties extra ihProperties ihExtra =>
    rw [Schema.violations.eq_def]
    apply ofValue_of_mem_leafFlaws
    intro f h
    cases value with
    | object members =>
      simp only [List.mem_append] at h
      obtain ((h | h) | h) | h := h
      · exact (ofRule_of_mem_objectFlaws h).ofValue
      · exact (ofRule_of_mem_refusedFlaws h).ofValue
      · exact ofValue_of_mem_propertyFlaws ihProperties f h
      · cases extra with
        | matching schema =>
          obtain ⟨member, -, h⟩ := List.mem_flatMap.mp h
          exact ofValue_of_mem_map (ihExtra schema rfl member.2) _ f h
        | allowed => cases h
        | refused => cases h
    | _ => exact ⟨.objectType, List.mem_singleton.mp h ▸ rfl, nofun, nofun⟩

end Validation

end ParamSchema
