import ParamSchema.Proofs.Validation.Interchange

/-!
# Where a value is refused

The place and the reason of a refusal, without the texts for its message. Equal schemas
whose records declare their properties in the same order refuse a value with the same blame.
-/

set_option autoImplicit false

namespace ParamSchema

open Results

namespace Validation

def blame? {α : Type} (result : Except Flaw α) : Option (List Step × Code) :=
  (failure? result).map fun flaw => (flaw.steps, flaw.code)

section

variable {α β : Type}

theorem blame?_bind_congr {first first' : Except Flaw α} {next next' : α → Except Flaw β}
    (hFirst : blame? first = blame? first')
    (hNext : ∀ a a', first = .ok a → first' = .ok a' → blame? (next a) = blame? (next' a')) :
    blame? (first >>= next) = blame? (first' >>= next') := by
  cases first with
  | ok a =>
    cases first' with
    | ok a' => exact hNext a a' rfl rfl
    | error flaw' => cases hFirst
  | error flaw =>
    cases first' with
    | ok a' => cases hFirst
    | error flaw' => exact hFirst

theorem blame?_inside_congr (step : Step) {result result' : Except Flaw α}
    (h : blame? result = blame? result') :
    blame? (inside step result) = blame? (inside step result') := by
  have hInside (result : Except Flaw α) : blame? (inside step result) =
      (blame? result).map fun blame => (step :: blame.1, blame.2) := by
    cases result <;> rfl
  rw [hInside, hInside, h]

theorem blame?_map (f : α → β) (result : Except Flaw α) :
    blame? (result.map f) = blame? result := by
  rw [blame?, blame?, failure?_map]

theorem blame?_obey_congr {rule rule' : Option α} {agree : α → α → Bool} {holds holds' : α → Bool}
    {fault : ValueFault} {key : String} {text : α → String} (h : agreeing agree rule rule' = true)
    (hHolds : ∀ x ∈ rule, ∀ y ∈ rule', agree x y = true → holds x = holds' y) :
    blame? (obey rule holds fault key text) = blame? (obey rule' holds' fault key text) := by
  rcases agreeing_cases h with ⟨rfl, rfl⟩ | ⟨x, y, rfl, rfl, hAgree⟩
  · rfl
  · rw [obey, obey, hHolds x rfl y rfl hAgree]
    split <;> rfl

end

theorem blame?_checkNumber_congr {type : NumericType} {rules rules' : NumberRules} {x : Binary64}
    (h : rules.same rules' = true) :
    blame? (checkNumber type rules x) = blame? (checkNumber type rules' x) := by
  obtain ⟨hMinimum, hMaximum, hMultipleOf⟩ := NumberRules.same_iff.mp h
  unfold checkNumber
  refine blame?_bind_congr rfl fun _ _ _ _ => ?_
  refine blame?_bind_congr (blame?_obey_congr hMinimum ?_) fun _ _ _ _ => ?_
  · intro bound _ bound' _ hSame
    rw [Binary64.lessThan, Binary64.lessThan, (Bound.same_iff.mp hSame).1]
  refine blame?_bind_congr (blame?_obey_congr hMinimum ?_) fun _ _ _ _ => ?_
  · intro bound _ bound' _ hSame
    obtain ⟨hValue, hExclusive⟩ := Bound.same_iff.mp hSame
    rw [Binary64.sameValue, Binary64.sameValue, hValue, hExclusive]
  refine blame?_bind_congr (blame?_obey_congr hMaximum ?_) fun _ _ _ _ => ?_
  · intro bound _ bound' _ hSame
    rw [Binary64.lessThan, Binary64.lessThan, (Bound.same_iff.mp hSame).1]
  refine blame?_bind_congr (blame?_obey_congr hMaximum ?_) fun _ _ _ _ => ?_
  · intro bound _ bound' _ hSame
    obtain ⟨hValue, hExclusive⟩ := Bound.same_iff.mp hSame
    rw [Binary64.sameValue, Binary64.sameValue, hValue, hExclusive]
  refine blame?_obey_congr hMultipleOf ?_
  intro divisor _ divisor' _ hSame
  exact Binary64.isMultipleOf_congr rfl (Binary64.units_eq_of_signedUnits (beq_iff_eq.mp hSame))

section

variable {limit : Option Nat} {depth : Nat} {common common' : Common} {value : Json}
  (hKeys : ∀ choices ∈ common.choices, ∀ choice ∈ choices, choice.KeysDistinct)
  (hSame : common.same common' = true)

include hKeys hSame

theorem blame?_checkChoices_congr :
    blame? (checkChoices common value) = blame? (checkChoices common' value) := by
  refine blame?_obey_congr (Common.same_iff.mp hSame).2.1 ?_
  intro choices hChoices choices' _ hEqual
  rw [Bool.eq_iff_iff, List.any_eq_true, List.any_eq_true]
  exact Json.exists_same_iff_of_identical (hKeys choices hChoices)
    (Json.equalItemsBy_iff.mp hEqual)

theorem blame?_guarded_congr {rest rest' : Except Flaw Json}
    (hRest : blame? rest = blame? rest') :
    blame? (do checkDepth limit depth; unlessNull common value rest) =
      blame? (do checkDepth limit depth; unlessNull common' value rest') := by
  refine blame?_bind_congr rfl fun _ _ _ _ => ?_
  unfold unlessNull
  rw [(Common.same_iff.mp hSame).1]
  split
  · rfl
  · exact blame?_bind_congr (blame?_checkChoices_congr hKeys hSame) fun _ _ _ _ => hRest

end

theorem blame?_checkItems_congr {check check' : Json → Except Flaw Json} {index : Nat}
    {items : List Json} (h : ∀ item, blame? (check item) = blame? (check' item)) :
    blame? (checkItems check index items) = blame? (checkItems check' index items) := by
  induction items generalizing index with
  | nil => rfl
  | cons item rest ih =>
    refine blame?_bind_congr (blame?_inside_congr _ (h item)) fun _ _ _ _ => ?_
    exact blame?_bind_congr ih fun _ _ _ _ => rfl

theorem blame?_checkMembers_congr {check check' : Json → Except Flaw Json}
    {members : List (String × Json)} (h : ∀ value, blame? (check value) = blame? (check' value)) :
    blame? (checkMembers check members) = blame? (checkMembers check' members) := by
  induction members with
  | nil => rfl
  | cons member rest ih =>
    obtain ⟨key, value⟩ := member
    refine blame?_bind_congr (blame?_inside_congr _ (h value)) fun _ _ _ _ => ?_
    exact blame?_bind_congr ih fun _ _ _ _ => rfl

section

variable {limit : Option Nat} {depth : Nat}

theorem blame?_checkProperties_congr {properties properties' : List (String × Schema)}
    {members : List (String × Json)}
    (h : List.Forall₂ (fun property property' => property.1 = property'.1 ∧ ∀ value,
      blame? (check limit depth property.2 value) = blame? (check limit depth property'.2 value))
      properties properties') :
    blame? (checkProperties limit depth properties members) =
      blame? (checkProperties limit depth properties' members) := by
  induction h with
  | nil => rfl
  | @cons property property' _ _ hFirst _ ih =>
    obtain ⟨name, schema⟩ := property
    obtain ⟨name', schema'⟩ := property'
    obtain ⟨rfl, hCheck⟩ := hFirst
    rw [checkProperties, checkProperties]
    have hRest {first first' : Except Flaw (Option Json)} (hFirst : blame? first = blame? first') :
        blame? (first >>= fun found => do
            let others ← checkProperties limit depth _ members
            return found.elim others fun value => (name, value) :: others) =
          blame? (first' >>= fun found => do
            let others ← checkProperties limit depth _ members
            return found.elim others fun value => (name, value) :: others) :=
      blame?_bind_congr hFirst fun _ _ _ _ => blame?_bind_congr ih fun _ _ _ _ => rfl
    cases members.lookup name with
    | none => exact hRest rfl
    | some value =>
      apply hRest
      rw [blame?_map, blame?_map]
      exact blame?_inside_congr _ (hCheck value)

theorem blame?_check_of_same {schema other : Schema} (hRead : schema.WasRead)
    (hRead' : other.WasRead) (hSame : schema.same other = true) (hOrder : schema.SameOrder other)
    (value : Json) :
    blame? (check limit depth schema value) = blame? (check limit depth other value) := by
  induction schema generalizing depth other value with
  | combined combinator members ih =>
    cases Schema.sameTop_of_same hSame with
    | combined hMembers =>
      -- The blame of a member is lost, so only how many accept has to agree, in any order.
      have hAccepts := Schema.forall₂_imp_of_mem hMembers
        fun member hMember other hOther hEqual => @accepts_iff_of_same_schema limit (depth + 1)
          member other (hRead.nested member hMember) (hRead'.nested other hOther) hEqual value
      rw [check, check, countPassing_eq_of_forall₂ hAccepts, hMembers.length_eq]
  | string common rules =>
    cases Schema.sameTop_of_same hSame with
    | string hCommon =>
      rw [check.eq_def, check.eq_def]
      exact blame?_guarded_congr (hRead.keysDistinct_of_choices rfl) hCommon rfl
  | numeric common type rules =>
    cases Schema.sameTop_of_same hSame with
    | numeric hCommon hRules =>
      rw [check, check]
      apply blame?_guarded_congr (hRead.keysDistinct_of_choices rfl) hCommon
      split
      · exact blame?_bind_congr (blame?_checkNumber_congr hRules) fun _ _ _ _ => rfl
      · rfl
  | boolean common =>
    cases Schema.sameTop_of_same hSame with
    | boolean hCommon =>
      rw [check.eq_def, check.eq_def]
      exact blame?_guarded_congr (hRead.keysDistinct_of_choices rfl) hCommon rfl
  | array common rules items ih =>
    cases Schema.sameTop_of_same hSame with
    | array hCommon hItems =>
      rw [check.eq_def, check.eq_def]
      apply blame?_guarded_congr (hRead.keysDistinct_of_choices rfl) hCommon
      rw [Schema.SameOrder] at hOrder
      cases value with
      | array list =>
        refine blame?_bind_congr rfl fun _ _ _ _ => ?_
        refine blame?_bind_congr (blame?_checkItems_congr fun item => ?_) fun _ _ _ _ => rfl
        exact ih hRead.nested hRead'.nested hItems hOrder item
      | _ => rfl
  | object common rules =>
    cases Schema.sameTop_of_same hSame with
    | object hCommon =>
      rw [check.eq_def, check.eq_def]
      exact blame?_guarded_congr (hRead.keysDistinct_of_choices rfl) hCommon rfl
  | record common rules properties extra ihProperties ihExtra =>
    cases Schema.sameTop_of_same hSame with
    | @record _ _ _ _ properties' _ extra' hCommon hLength hProperties hExtra =>
      have hMatches := hRead.matches_of_same hLength hProperties
      rw [Schema.SameOrder, Schema.sameOrderProperties_iff] at hOrder
      obtain ⟨hOrder, hOrderExtra⟩ := hOrder
      have hInside := Schema.forall₂_imp_of_mem hOrder
        fun property hProperty property' hProperty' hName => And.intro hName.1 fun value =>
          @ihProperties property hProperty (depth + 1) property'.2 (hRead.nested.1 _ hProperty)
            (hRead'.nested.1 _ hProperty')
            (hMatches.related _ _ _ hProperty (hName.1 ▸ hProperty')) hName.2 value
      rw [check.eq_def, check.eq_def]
      apply blame?_guarded_congr (hRead.keysDistinct_of_choices rfl) hCommon
      cases value with
      | object members =>
        refine blame?_bind_congr rfl fun _ _ _ _ => ?_
        dsimp only
        rw [undeclared_congr hMatches.perm]
        have hRefused (others : List (String × Json)) :
            blame? (checkRefused extra others) = blame? (checkRefused extra' others) := by
          cases hExtra <;> rfl
        have hOthers (others : List (String × Json)) :
            blame? (checkExtra limit (depth + 1) extra others) =
              blame? (checkExtra limit (depth + 1) extra' others) := by
          cases hExtra with
          | allowed => rfl
          | refused => rfl
          | matching hEqual =>
            rw [Schema.SameOrderExtra] at hOrderExtra
            exact blame?_checkMembers_congr
              (ihExtra _ rfl (hRead.nested.2 _ rfl) (hRead'.nested.2 _ rfl) hEqual hOrderExtra)
        refine blame?_bind_congr (hRefused _) fun _ _ _ _ => ?_
        refine blame?_bind_congr (blame?_checkProperties_congr hInside) fun _ _ _ _ => ?_
        exact blame?_bind_congr (hOthers _) fun _ _ _ _ => rfl
      | _ => rfl

end

end Validation

open Validation

namespace Schema

section

variable {schema other : Schema} (hRead : schema.WasRead) (hRead' : other.WasRead)
  (hSame : schema.same other = true) {limit : Option Nat} {required : Bool} {value : Option Json}

include hRead hRead' hSame

theorem exists_validate_ok_iff_of_same :
    (∃ checked, schema.validate limit required value = .ok checked) ↔
      ∃ checked, other.validate limit required value = .ok checked := by
  cases value with
  | none => cases required <;> simp [validate, reject]
  | some json =>
    have hAccepts : Accepts limit 1 schema json ↔ Accepts limit 1 other json :=
      accepts_iff_of_same_schema hRead hRead' hSame
    simpa [validate, map_eq_ok, Accepts] using hAccepts

theorem identical_of_validate (hKeys : ∀ json ∈ value, json.KeysDistinct)
    {checked checked' : Option Json} (h : schema.validate limit required value = .ok checked)
    (h' : other.validate limit required value = .ok checked') :
    agreeing Json.identical checked checked' = true := by
  cases value with
  | none =>
    cases required with
    | true => cases h
    | false =>
      cases h
      cases h'
      exact agreeing_default_of_same hSame
  | some json =>
    rw [validate, map_eq_ok] at h h'
    obtain ⟨filled, hFilled, rfl⟩ := h
    obtain ⟨filled', hFilled', rfl⟩ := h'
    exact identical_of_fills hRead hRead' hSame (hKeys json rfl)
      (Json.identical_self (hKeys json rfl)) (fills_of_check schema hFilled)
      (fills_of_check other hFilled')

theorem blame?_validate_of_same (hOrder : schema.SameOrder other) :
    blame? (schema.validate limit required value) =
      blame? (other.validate limit required value) := by
  cases value with
  | none => cases required <;> rfl
  | some json =>
    rw [validate, validate, blame?_map, blame?_map]
    exact blame?_check_of_same hRead hRead' hSame hOrder json

end

/-- Equal schemas that were read accept alike and give equal values back; in the same order of
declaration they also refuse at the same place with the same code. -/
theorem checkAt_alike_under_equal_schemas {schema other : Schema} {root root' : Path}
    {settings settings' : Settings} {raw raw' : Json} (hRaw : raw.KeysDistinct)
    (hRaw' : raw'.KeysDistinct) (hRead : (readAt root settings raw).result = .ok schema)
    (hRead' : (readAt root' settings' raw').result = .ok other) (hSame : schema.same other = true)
    (place : Path) (limit : Option Nat) (required : Bool) {value : Option Json}
    (hKeys : ∀ json ∈ value, json.KeysDistinct) :
    ((∃ checked, (checkAt place limit schema required value).result = .ok checked) ↔
      ∃ checked, (checkAt place limit other required value).result = .ok checked) ∧
    (∀ checked checked', (checkAt place limit schema required value).result = .ok checked →
      (checkAt place limit other required value).result = .ok checked' →
      agreeing Json.identical checked checked' = true) ∧
    (schema.SameOrder other → ∀ violation violation',
      (checkAt place limit schema required value).result = .error violation →
      (checkAt place limit other required value).result = .error violation' →
      violation.path = violation'.path ∧ violation.code = violation'.code) := by
  have hSchema := wasRead_of_readAt hRaw hRead
  have hOther := wasRead_of_readAt hRaw' hRead'
  simp only [result_checkAt, mapError_eq_ok, mapError_eq_error]
  refine ⟨exists_validate_ok_iff_of_same hSchema hOther hSame, ?_, ?_⟩
  · intro checked checked' h h'
    exact identical_of_validate hSchema hOther hSame hKeys h h'
  · rintro hOrder _ _ ⟨flaw, hFlaw, rfl⟩ ⟨flaw', hFlaw', rfl⟩
    have hBlame : blame? (schema.validate limit required value) =
        blame? (other.validate limit required value) :=
      blame?_validate_of_same hSchema hOther hSame hOrder
    rw [hFlaw, hFlaw'] at hBlame
    simp only [blame?, failure?_error, Option.map_some, Option.some.injEq, Prod.mk.injEq] at hBlame
    simp only [Flaw.seenFrom, hBlame.1, hBlame.2]
    trivial

/-- The properties change places, and a bound of zero its sign. -/
theorem checkAt_alike_reordered :
    let zero : Json := .number (.double .zero)
    let minusZero : Json := .number (.double ⟨true, 0, Binary64.zero.representable⟩)
    let number (minimum : Json) : Json := .object [("type", .string "number"), ("minimum", minimum)]
    let flag : Json := .object [("type", .string "boolean"), ("default", .bool true)]
    let raw (properties : List (String × Json)) : Json :=
      .object [("type", .string "object"), ("properties", .object properties)]
    ∃ schema other,
      (readAt ⟨"s", []⟩ {} (raw [("x", number zero), ("on", flag)])).result = .ok schema ∧
      (readAt ⟨"s", []⟩ {} (raw [("on", flag), ("x", number minusZero)])).result = .ok other ∧
      schema.same other = true ∧
      (checkAt ⟨"p", []⟩ (some 64) schema true (some (.object [("x", zero)]))).result =
        .ok (some (.object [("x", zero), ("on", .bool true)])) ∧
      ∃ checked,
        (checkAt ⟨"p", []⟩ (some 64) other true (some (.object [("x", zero)]))).result =
          .ok checked ∧
        agreeing Json.identical (some (.object [("x", zero), ("on", .bool true)])) checked =
          true := by
  intro zero minusZero number flag raw
  let schema : Schema := .record {} {} [
    ("x", .numeric {} .number ⟨some ⟨.zero, false⟩, none, none⟩),
    ("on", .boolean { default := some (.bool true) })] .allowed
  let other : Schema := .record {} {} [
    ("on", .boolean { default := some (.bool true) }),
    ("x", .numeric {} .number
      ⟨some ⟨⟨true, 0, Binary64.zero.representable⟩, false⟩, none, none⟩)] .allowed
  have hRead : (readAt ⟨"s", []⟩ {} (raw [("x", number zero), ("on", flag)])).result = .ok schema :=
    rfl
  have hRead' : (readAt ⟨"s", []⟩ {} (raw [("on", flag), ("x", number minusZero)])).result =
      .ok other := rfl
  have hRaw : (raw [("x", number zero), ("on", flag)]).KeysDistinct := by
    simp [raw, zero, number, flag, Json.KeysDistinct, Json.KeysDistinctMembers, Members.keys]
  have hRaw' : (raw [("on", flag), ("x", number minusZero)]).KeysDistinct := by
    simp [raw, minusZero, number, flag, Json.KeysDistinct, Json.KeysDistinctMembers, Members.keys]
  have hSame : schema.same other = true := by
    simp only [schema, other, same, sameProperties, sameExtra, Members.lookup_cons, String.reduceEq,
      reduceIte]
    decide
  have hChecked : (checkAt ⟨"p", []⟩ (some 64) schema true
      (some (.object [("x", zero)]))).result =
      .ok (some (.object [("x", zero), ("on", .bool true)])) := rfl
  have hKeys : ∀ json ∈ some (Json.object [("x", zero)]), json.KeysDistinct := by
    simp [zero, Json.KeysDistinct, Json.KeysDistinctMembers, Members.keys]
  obtain ⟨hAccepts, hEqual, -⟩ := checkAt_alike_under_equal_schemas hRaw hRaw' hRead hRead' hSame
    ⟨"p", []⟩ (some 64) true hKeys
  obtain ⟨checked, hOther⟩ := hAccepts.mp ⟨_, hChecked⟩
  exact ⟨schema, other, hRead, hRead', hSame, hChecked, checked, hOther, hEqual _ _ hChecked hOther⟩

end Schema

end ParamSchema
