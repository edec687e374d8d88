import ParamSchema.Proofs.Validation.Filling
import ParamSchema.Proofs.Validation.Satisfaction

/-!
# What one level accepts

When a check within a limit accepts a value, level by level: what the schema itself asks
for, and that the schemas inside it accept the parts of the value. Results about checks
within a limit go by these equivalences and do not open the check.
-/

set_option autoImplicit false

namespace ParamSchema

open Results

theorem Common.allows_congr {common : Common} {value : Json} {asTyped asTyped' : Prop}
    (h : asTyped ↔ asTyped') : common.Allows value asTyped ↔ common.Allows value asTyped' := by
  rw [Allows, Allows, h]

def Schema.IsFlat : Schema → Prop
  | .string _ _ | .numeric _ _ _ | .boolean _ | .object _ _ => True
  | .combined _ _ | .array _ _ _ | .record _ _ _ _ => False

namespace Validation

def Accepts (limit : Option Nat) (depth : Nat) (schema : Schema) (value : Json) : Prop :=
  ∃ filled, check limit depth schema value = .ok filled

theorem countPassing_le {limit limit' : Option Nat} {depth depth' : Nat} {members : List Schema}
    {value value' : Json}
    (h : ∀ member ∈ members, Accepts limit depth member value → Accepts limit' depth' member value') :
    countPassing limit depth members value ≤ countPassing limit' depth' members value' := by
  induction members with
  | nil => exact Nat.le_refl 0
  | cons member rest ih =>
    rw [List.forall_mem_cons] at h
    have hRest := ih h.2
    rw [countPassing, countPassing]
    cases hFirst : check limit depth member value with
    | ok filled =>
      obtain ⟨filled', hFilled⟩ := h.1 ⟨filled, hFirst⟩
      rw [hFilled]
      dsimp only
      omega
    | error flaw =>
      dsimp only
      omega

section

variable {limit : Option Nat} {depth : Nat} {common : Common} {value : Json}

theorem checkArray_eq_ok_iff {rules : ArrayRules} {items : List Json} :
    checkArray rules items = .ok () ↔ rules.Holds items := by
  rw [← failure?_eq_none_iff_ok, failure?_checkArray, List.head?_eq_none_iff, arrayFlaws_eq_nil_iff]

theorem checkObject_eq_ok_iff {rules : ObjectRules} {members : List (String × Json)} :
    checkObject rules members = .ok () ↔ rules.Holds members := by
  rw [← failure?_eq_none_iff_ok, failure?_checkObject, List.head?_eq_none_iff, objectFlaws_eq_nil_iff]

theorem exists_unlessNull_ok_iff {rest : Except Flaw Json} :
    (∃ filled, unlessNull common value rest = .ok filled) ↔
      common.Allows value (∃ filled, rest = .ok filled) := by
  have hFlaws : failure? rest = (failure? rest).toList.head? := by cases failure? rest <;> rfl
  rw [← failure?_eq_none_iff, failure?_unlessNull common value hFlaws, List.head?_eq_none_iff]
  apply leafFlaws_eq_nil_iff
  rw [Option.toList_eq_nil_iff, failure?_eq_none_iff]

theorem exists_guarded_ok_iff {rest : Except Flaw Json} :
    (∃ filled, (do checkDepth limit depth; unlessNull common value rest) = .ok filled) ↔
      checkDepth limit depth = .ok () ∧ common.Allows value (∃ filled, rest = .ok filled) := by
  rw [exists_seq_eq_ok, exists_unlessNull_ok_iff]

theorem exists_checkItems_ok_iff {check : Json → Except Flaw Json} {index : Nat}
    {items : List Json} : (∃ results, checkItems check index items = .ok results) ↔
      ∀ item ∈ items, ∃ result, check item = .ok result := by
  simp only [checkItems_eq_ok_iff, Schema.exists_forall₂_iff]

theorem exists_checkMembers_ok_iff {check : Json → Except Flaw Json}
    {members : List (String × Json)} : (∃ results, checkMembers check members = .ok results) ↔
      ∀ member ∈ members, ∃ result, check member.2 = .ok result := by
  simp only [checkMembers_eq_ok_iff, Schema.exists_forall₂_iff]
  constructor
  · intro h member hMember
    obtain ⟨⟨key, result⟩, -, hResult⟩ := h member hMember
    exact ⟨result, hResult⟩
  · intro h member hMember
    obtain ⟨result, hResult⟩ := h member hMember
    exact ⟨(member.1, result), rfl, hResult⟩

def PropertiesAccepted (limit : Option Nat) (depth : Nat) (properties : List (String × Schema))
    (members : List (String × Json)) : Prop :=
  ∀ property ∈ properties, ∀ value, members.lookup property.1 = some value →
    Accepts limit depth property.2 value

theorem exists_checkProperties_ok_iff {properties : List (String × Schema)}
    {members : List (String × Json)} :
    (∃ declared, checkProperties limit depth properties members = .ok declared) ↔
      PropertiesAccepted limit depth properties members := by
  unfold PropertiesAccepted
  induction properties with
  | nil => simp [checkProperties]
  | cons property rest ih =>
    obtain ⟨name, schema⟩ := property
    rw [List.forall_mem_cons, ← ih, checkProperties]
    cases members.lookup name with
    | none =>
      simp only [exists_bind_eq_ok, exists_pure_eq_ok, and_true]
      simp
    | some value =>
      simp only [exists_bind_eq_ok, exists_pure_eq_ok, and_true, exists_and_right]
      simp [map_eq_ok, inside, mapError_eq_ok, Accepts]

def ExtraAccepted (limit : Option Nat) (depth : Nat) (others : List (String × Json)) :
    Extra Schema → Prop
  | .allowed => True
  | .refused => others = []
  | .matching schema => ∀ member ∈ others, Accepts limit depth schema member.2

theorem extraAccepted_iff {extra : Extra Schema} {others : List (String × Json)} :
    ExtraAccepted limit depth others extra ↔ checkRefused extra others = .ok () ∧
      ∃ results, checkExtra limit depth extra others = .ok results := by
  cases extra with
  | allowed => simp [ExtraAccepted, checkRefused, checkExtra]
  | refused => cases others <;> simp [ExtraAccepted, checkRefused, checkExtra, reject]
  | matching schema =>
    rw [ExtraAccepted, checkExtra, exists_checkMembers_ok_iff]
    simp [checkRefused, Accepts]

theorem accepts_combined_iff {combinator : Combinator} {members : List Schema} :
    Accepts limit depth (.combined combinator members) value ↔ checkDepth limit depth = .ok () ∧
      combinator.Asks (countPassing limit (depth + 1) members value) members.length := by
  rw [Accepts, check, exists_seq_eq_ok, ← Schema.isSatisfied_eq_true_iff]
  split
  · rename_i hSatisfied
    simp [hSatisfied]
  · rename_i hSatisfied
    simp [hSatisfied, reject]

theorem exists_unlimited_ok_iff {schema : Schema} :
    (∃ filled, check none depth schema value = .ok filled) ↔ schema.Satisfies value := by
  rw [← failure?_eq_none_iff, failure?_check, List.head?_eq_none_iff, Schema.violations_eq_nil_iff]

/-- Below a leaf that is neither an array nor a record there is nothing to limit. -/
theorem check_eq_of_isFlat {schema : Schema} (hFlat : schema.IsFlat) :
    check limit depth schema value = (do checkDepth limit depth; check none depth schema value) := by
  cases schema with
  | string common rules => rw [check.eq_def, check.eq_def none]; rfl
  | numeric common type rules => rw [check, check]; rfl
  | boolean common => rw [check.eq_def, check.eq_def none]; rfl
  | object common rules => rw [check.eq_def, check.eq_def none]; rfl
  | _ => cases hFlat

theorem accepts_flat_iff {schema : Schema} (hFlat : schema.IsFlat) :
    Accepts limit depth schema value ↔ checkDepth limit depth = .ok () ∧ schema.Satisfies value := by
  rw [Accepts, check_eq_of_isFlat hFlat, exists_seq_eq_ok, exists_unlimited_ok_iff]

theorem accepts_array_iff {rules : ArrayRules} {items : Schema} :
    Accepts limit depth (.array common rules items) value ↔ checkDepth limit depth = .ok () ∧
      common.Allows value (∃ list, value = .array list ∧ rules.Holds list ∧
        ∀ item ∈ list, Accepts limit (depth + 1) items item) := by
  rw [Accepts, check.eq_def, exists_guarded_ok_iff]
  apply and_congr_right
  intro
  apply Common.allows_congr
  cases value with
  | array list =>
    simp only [exists_seq_eq_ok, exists_bind_eq_ok, exists_pure_eq_ok, and_true,
      checkArray_eq_ok_iff, exists_checkItems_ok_iff]
    simp [Accepts]
  | _ => simp [reject]

theorem accepts_record_iff {rules : ObjectRules} {properties : List (String × Schema)}
    {extra : Extra Schema} :
    Accepts limit depth (.record common rules properties extra) value ↔
      checkDepth limit depth = .ok () ∧ common.Allows value (∃ members, value = .object members ∧
        rules.Holds members ∧ PropertiesAccepted limit (depth + 1) properties members ∧
        ExtraAccepted limit (depth + 1) (undeclared properties members) extra) := by
  rw [Accepts, check.eq_def, exists_guarded_ok_iff]
  apply and_congr_right
  intro
  apply Common.allows_congr
  cases value with
  | object members =>
    simp only [exists_seq_eq_ok, exists_bind_eq_ok, exists_pure_eq_ok, and_true,
      exists_and_right, checkObject_eq_ok_iff, extraAccepted_iff, exists_checkProperties_ok_iff]
    constructor
    · rintro ⟨hRules, hRefused, hProperties, hExtra⟩
      exact ⟨members, rfl, hRules, hProperties, hRefused, hExtra⟩
    · rintro ⟨_, hMembers, hRules, hProperties, hRefused, hExtra⟩
      cases hMembers
      exact ⟨hRules, hRefused, hProperties, hExtra⟩
  | _ => simp [reject]

end

end Validation

end ParamSchema
