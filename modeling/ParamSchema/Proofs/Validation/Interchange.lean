import ParamSchema.Proofs.Schema.Equality
import ParamSchema.Proofs.Validation.Congruence

/-!
# Equal schemas check alike

Equal schemas accept the same values and give equal values back. Where their records also
declare the same names in the same order, they refuse at the same place for the same reason.
-/

set_option autoImplicit false

namespace ParamSchema

open Results Validation

theorem Json.exists_same_iff_of_identical {choices choices' : List Json} {value : Json}
    (hKeys : ∀ choice ∈ choices, choice.KeysDistinct)
    (hEqual : List.Forall₂ (fun choice choice' => choice.identical choice' = true)
      choices choices') :
    (∃ choice ∈ choices, choice.same value = true) ↔
      ∃ choice ∈ choices', choice.same value = true := by
  constructor
  · rintro ⟨choice, hChoice, hValue⟩
    obtain ⟨choice', hChoice', hIdentical⟩ := Schema.exists_mem_of_forall₂ hEqual.flip hChoice
    have hBack : choice'.same choice = true :=
      same_symm (hKeys choice hChoice) (same_of_identical hIdentical)
    exact ⟨choice', hChoice', same_trans hBack hValue⟩
  · rintro ⟨choice', hChoice', hValue⟩
    obtain ⟨choice, hChoice, hIdentical⟩ := Schema.exists_mem_of_forall₂ hEqual hChoice'
    exact ⟨choice, hChoice, same_trans (same_of_identical hIdentical) hValue⟩

theorem Common.allows_iff_of_same {common other : Common} {value : Json}
    {asTyped asTyped' : Prop}
    (hKeys : ∀ choices ∈ common.choices, ∀ choice ∈ choices, choice.KeysDistinct)
    (hSame : common.same other = true) (hTyped : asTyped ↔ asTyped') :
    common.Allows value asTyped ↔ other.Allows value asTyped' := by
  obtain ⟨hNullable, hChoices, -⟩ := Common.same_iff.mp hSame
  have hListed : (∀ choices ∈ common.choices, ∃ choice ∈ choices, choice.same value = true) ↔
      ∀ choices ∈ other.choices, ∃ choice ∈ choices, choice.same value = true := by
    apply forall_mem_iff_of_agreeing hChoices
    intro choices hSome choices' _ hEqual
    exact Json.exists_same_iff_of_identical (hKeys choices hSome)
      (Json.equalItemsBy_iff.mp hEqual)
  rw [Allows, Allows, hNullable, hListed, hTyped]

theorem NumberRules.holds_iff_of_same {type : NumericType} {rules other : NumberRules}
    {x : Binary64} (h : rules.same other = true) : rules.Holds type x ↔ other.Holds type x := by
  obtain ⟨hMinimum, hMaximum, hMultipleOf⟩ := NumberRules.same_iff.mp h
  have hLower : (∀ bound ∈ rules.minimum, bound.value.signedUnits ≤ x.signedUnits ∧
        (bound.exclusive = true → bound.value.signedUnits ≠ x.signedUnits)) ↔
      ∀ bound ∈ other.minimum, bound.value.signedUnits ≤ x.signedUnits ∧
        (bound.exclusive = true → bound.value.signedUnits ≠ x.signedUnits) := by
    apply forall_mem_iff_of_agreeing hMinimum
    intro bound _ bound' _ hSame
    obtain ⟨hValue, hExclusive⟩ := Bound.same_iff.mp hSame
    rw [hValue, hExclusive]
  have hUpper : (∀ bound ∈ rules.maximum, x.signedUnits ≤ bound.value.signedUnits ∧
        (bound.exclusive = true → x.signedUnits ≠ bound.value.signedUnits)) ↔
      ∀ bound ∈ other.maximum, x.signedUnits ≤ bound.value.signedUnits ∧
        (bound.exclusive = true → x.signedUnits ≠ bound.value.signedUnits) := by
    apply forall_mem_iff_of_agreeing hMaximum
    intro bound _ bound' _ hSame
    obtain ⟨hValue, hExclusive⟩ := Bound.same_iff.mp hSame
    rw [hValue, hExclusive]
  have hMultiple : (∀ divisor ∈ rules.multipleOf, x.isMultipleOf divisor = true) ↔
      ∀ divisor ∈ other.multipleOf, x.isMultipleOf divisor = true := by
    apply forall_mem_iff_of_agreeing hMultipleOf
    intro divisor _ divisor' _ hSame
    rw [Binary64.isMultipleOf_congr rfl
      (Binary64.units_eq_of_signedUnits (beq_iff_eq.mp hSame))]
  constructor
  · rintro ⟨hFormat, hMin, hMax, hDivisor⟩
    exact ⟨hFormat, hLower.mp hMin, hUpper.mp hMax, hMultiple.mp hDivisor⟩
  · rintro ⟨hFormat, hMin, hMax, hDivisor⟩
    exact ⟨hFormat, hLower.mpr hMin, hUpper.mpr hMax, hMultiple.mpr hDivisor⟩

namespace Validation

variable {limit : Option Nat} {depth : Nat}

theorem countPassing_eq_of_forall₂ {members others : List Schema} {value : Json}
    (h : List.Forall₂ (fun member other => Accepts limit depth member value ↔
      Accepts limit depth other value) members others) :
    countPassing limit depth members value = countPassing limit depth others value := by
  induction h with
  | nil => rfl
  | @cons member other _ _ hFirst _ ih =>
    rw [countPassing, countPassing, ih]
    unfold Accepts at hFirst
    cases hMember : check limit depth member value with
    | ok filled =>
      obtain ⟨filled', hOther⟩ := hFirst.mp ⟨filled, hMember⟩
      rw [hOther]
    | error flaw =>
      cases hOther : check limit depth other value with
      | ok filled' =>
        obtain ⟨filled, hOk⟩ := hFirst.mpr ⟨filled', hOther⟩
        cases hMember.symm.trans hOk
      | error flaw' => rfl

theorem undeclared_congr {properties properties' : List (String × Schema)}
    (hPerm : (Members.keys properties).Perm (Members.keys properties'))
    (members : List (String × Json)) :
    undeclared properties members = undeclared properties' members := by
  have hContains (key : String) :
      Members.contains properties key = Members.contains properties' key := by
    rw [Bool.eq_iff_iff, Members.contains_eq_true_iff, Members.contains_eq_true_iff, hPerm.mem_iff]
  unfold undeclared
  simp only [hContains]

theorem accepts_iff_of_same_of_flat {schema other : Schema} (hRead : schema.WasRead)
    (hFlat : schema.IsFlat) (hSame : schema.same other = true) {value : Json} :
    Accepts limit depth schema value ↔ Accepts limit depth other value := by
  have hTop := Schema.sameTop_of_same hSame
  have hFlat' : other.IsFlat := by
    cases hTop <;> exact hFlat
  rw [accepts_flat_iff hFlat, accepts_flat_iff hFlat']
  apply and_congr_right'
  cases hTop with
  | string hCommon =>
    rw [Schema.Satisfies, Schema.Satisfies]
    exact Common.allows_iff_of_same (hRead.keysDistinct_of_choices rfl) hCommon Iff.rfl
  | numeric hCommon hRules =>
    rw [Schema.Satisfies, Schema.Satisfies]
    apply Common.allows_iff_of_same (hRead.keysDistinct_of_choices rfl) hCommon
    simp only [NumberRules.holds_iff_of_same hRules]
  | boolean hCommon =>
    rw [Schema.Satisfies, Schema.Satisfies]
    exact Common.allows_iff_of_same (hRead.keysDistinct_of_choices rfl) hCommon Iff.rfl
  | object hCommon =>
    rw [Schema.Satisfies, Schema.Satisfies]
    exact Common.allows_iff_of_same (hRead.keysDistinct_of_choices rfl) hCommon Iff.rfl
  | _ => cases hFlat

theorem accepts_iff_of_same_schema {schema other : Schema} (hRead : schema.WasRead)
    (hRead' : other.WasRead) (hSame : schema.same other = true) {value : Json} :
    Accepts limit depth schema value ↔ Accepts limit depth other value := by
  induction schema generalizing depth other value with
  | combined combinator members ih =>
    cases Schema.sameTop_of_same hSame with
    | combined hMembers =>
      have hAccepts := Schema.forall₂_imp_of_mem hMembers
        fun member hMember other hOther hEqual => @ih member hMember (depth + 1) other
          (hRead.nested member hMember) (hRead'.nested other hOther) hEqual value
      rw [accepts_combined_iff, accepts_combined_iff, countPassing_eq_of_forall₂ hAccepts,
        hMembers.length_eq]
  | array common rules items ih =>
    cases Schema.sameTop_of_same hSame with
    | array hCommon hItems =>
      rw [accepts_array_iff, accepts_array_iff]
      apply and_congr_right'
      apply Common.allows_iff_of_same (hRead.keysDistinct_of_choices rfl) hCommon
      simp only [ih hRead.nested hRead'.nested hItems]
  | record common rules properties extra ihProperties ihExtra =>
    cases Schema.sameTop_of_same hSame with
    | @record _ _ _ _ properties' _ extra' hCommon hLength hProperties hExtra =>
      have hMatches := hRead.matches_of_same hLength hProperties
      have hInside {members : List (String × Json)} :
          PropertiesAccepted limit (depth + 1) properties members ↔
            PropertiesAccepted limit (depth + 1) properties' members := by
        constructor
        · intro h property' hProperty' value hValue
          obtain ⟨property, hProperty, hEqual⟩ := hMatches.exists_left hProperty'
          exact (ihProperties _ hProperty (hRead.nested.1 _ hProperty)
            (hRead'.nested.1 _ hProperty') hEqual).mp (h _ hProperty value hValue)
        · intro h property hProperty value hValue
          obtain ⟨property', hProperty', hEqual⟩ := hMatches.exists_right hProperty
          exact (ihProperties _ hProperty (hRead.nested.1 _ hProperty)
            (hRead'.nested.1 _ hProperty') hEqual).mpr (h _ hProperty' value hValue)
      have hOthers {others : List (String × Json)} :
          ExtraAccepted limit (depth + 1) others extra ↔
            ExtraAccepted limit (depth + 1) others extra' := by
        cases hExtra with
        | allowed => exact Iff.rfl
        | refused => exact Iff.rfl
        | matching hEqual =>
          unfold ExtraAccepted
          simp only [ihExtra _ rfl (hRead.nested.2 _ rfl) (hRead'.nested.2 _ rfl) hEqual]
      rw [accepts_record_iff, accepts_record_iff]
      apply and_congr_right'
      apply Common.allows_iff_of_same (hRead.keysDistinct_of_choices rfl) hCommon
      simp only [hInside, hOthers, undeclared_congr hMatches.perm]
  | _ => exact accepts_iff_of_same_of_flat hRead trivial hSame

end Validation

namespace Schema

theorem identical_of_fills {schema other : Schema} {value value' filled filled' : Json}
    (hRead : schema.WasRead) (hRead' : other.WasRead) (hSame : schema.same other = true)
    (hKeys : value.KeysDistinct) (hValue : value.identical value' = true)
    (h : schema.Fills value filled) (h' : other.Fills value' filled') :
    filled.identical filled' = true := by
  -- Outside lists and records nothing is filled in.
  have hVerbatim {value value' filled filled' : Json} (hValue : value.identical value' = true)
      (hFilled : filled = value) (hFilled' : filled' = value') :
      filled.identical filled' = true := by
    rw [hFilled, hFilled']
    exact hValue
  induction schema generalizing other value value' filled filled' with
  | array common rules items ih =>
    cases sameTop_of_same hSame with
    | array hCommon hItems =>
      cases value with
      | array list =>
        obtain ⟨list', rfl, hList⟩ := Json.equalBy_array_iff.mp hValue
        obtain ⟨filledList, rfl, hFilled⟩ := h
        obtain ⟨filledList', rfl, hFilled'⟩ := h'
        rw [Json.KeysDistinct, Json.keysDistinctItems_iff] at hKeys
        refine Json.equalBy_array_iff.mpr ⟨filledList', rfl, ?_⟩
        exact forall₂_of_images hList hFilled hFilled' fun item hItem =>
          ih hRead.nested hRead'.nested hItems (hKeys item hItem)
      | _ =>
        cases value' with
        | array list' => cases hValue
        | _ => exact hVerbatim hValue h h'
  | record common rules properties extra ihProperties ihExtra =>
    cases sameTop_of_same hSame with
    | @record _ _ _ _ properties' _ extra' hCommon hLength hProperties hExtra =>
      cases value with
      | object members =>
        obtain ⟨members', rfl, hEqual⟩ := (Json.equalBy_object_iff_equalMembers hKeys.1).mp hValue
        obtain ⟨declared, others, rfl, hDeclared, hOthers⟩ := h
        obtain ⟨declared', others', rfl, hDeclared', hOthers'⟩ := h'
        have hMemberKeys := Json.keysDistinctMembers_iff.mp hKeys.2
        have hMatches := hRead.matches_of_same hLength hProperties
        have hDefaults : Members.Matches (fun schema other =>
            agreeing Json.identical schema.default? other.default? = true) properties properties' :=
          ⟨hMatches.perm, fun key property property' hProperty hProperty' =>
            agreeing_default_of_same (hMatches.related key property property' hProperty hProperty')⟩
        -- Members may stand in other orders on both sides, so they are compared by key.
        have hNodup := nodup_keys_of_fills hDeclared hOthers hRead.nodup_names hKeys.1
        refine (Json.equalBy_object_iff_equalMembers hNodup).mpr ⟨_, rfl, ?_⟩
        refine equalMembers_of_fills hRead.nodup_names hDefaults hKeys.1 hEqual hDeclared hOthers
          hDeclared' hOthers' ?_ ?_
        · intro key value value' filled filled' property property' hProperty hProperty' hMember
          exact ihProperties _ hProperty (hRead.nested.1 _ hProperty) (hRead'.nested.1 _ hProperty')
            (hMatches.related key property property' hProperty hProperty') (hMemberKeys _ hMember)
        · intro key value value' filled filled' hMember hValue hFills hFills'
          cases hExtra with
          | matching hEqual =>
            exact ihExtra _ rfl (hRead.nested.2 _ rfl) (hRead'.nested.2 _ rfl) hEqual
              (hMemberKeys _ hMember) hValue hFills hFills'
          | allowed => exact hVerbatim hValue hFills hFills'
          | refused => exact hVerbatim hValue hFills hFills'
      | _ =>
        cases value' with
        | object members' => cases hValue
        | _ => exact hVerbatim hValue h h'
  | _ =>
    cases sameTop_of_same hSame
    exact hVerbatim hValue h h'

end Schema

end ParamSchema
