import ParamSchema.Json.Equality
import ParamSchema.Proofs.Members

/-!
# Laws of the equalities of values

On values without repeated keys the equalities are equivalences, however numbers are
compared, and distinct items are those that differ pairwise.
-/

set_option autoImplicit false

namespace ParamSchema

namespace Number

theorem identical_self (number : Number) : number.identical number = true := by
  cases number <;> simp [identical, Binary64.sameValue]

theorem sameValue_iff {a b : Number} :
    a.sameValue b = true ↔ a.toBinary64.signedUnits = b.toBinary64.signedUnits :=
  beq_iff_eq

theorem sameValue_of_identical {a b : Number} (h : a.identical b = true) : a.sameValue b = true := by
  cases a with
  | integer value hRange =>
    cases b with
    | integer value' hRange' =>
      obtain rfl : value = value' := beq_iff_eq.mp h
      exact sameValue_iff.mpr rfl
    | double x => cases h
  | double x =>
    cases b with
    | integer value hRange => cases h
    | double y => exact h

end Number

namespace Json

theorem keysDistinctItems_iff {items : List Json} :
    KeysDistinctItems items ↔ ∀ item ∈ items, item.KeysDistinct := by
  induction items with
  | nil => simp [KeysDistinctItems]
  | cons item rest ih => simp [KeysDistinctItems, ih]

theorem keysDistinctMembers_iff {members : List (String × Json)} :
    KeysDistinctMembers members ↔ ∀ member ∈ members, member.2.KeysDistinct := by
  induction members with
  | nil => simp [KeysDistinctMembers]
  | cons member rest ih =>
    obtain ⟨key, value⟩ := member
    simp [KeysDistinctMembers, ih]

/-- Induction that gives the hypothesis for every item and the value of every member. -/
@[elab_as_elim]
theorem nestedInduction {motive : Json → Prop} (null : motive .null)
    (bool : ∀ flag, motive (.bool flag)) (number : ∀ number, motive (.number number))
    (string : ∀ text, motive (.string text))
    (array : ∀ items, (∀ item ∈ items, motive item) → motive (.array items))
    (object : ∀ members, (∀ member ∈ members, motive member.2) → motive (.object members))
    (value : Json) : motive value := by
  have nested (other : Json) (hSize : sizeOf other < sizeOf value) : motive other :=
    nestedInduction null bool number string array object other
  cases value with
  | null => exact null
  | bool flag => exact bool flag
  | number value => exact number value
  | string text => exact string text
  | array items =>
    apply array
    intro item hItem
    apply nested
    have hSize := List.sizeOf_lt_of_mem hItem
    simp only [Json.array.sizeOf_spec]
    omega
  | object members =>
    apply object
    intro member hMember
    apply nested
    have hSize := List.sizeOf_lt_of_mem hMember
    obtain ⟨key, value⟩ := member
    simp only [Prod.mk.sizeOf_spec] at hSize
    simp only [Json.object.sizeOf_spec]
    omega
termination_by sizeOf value

section

variable {agree : Number → Number → Bool}

theorem equalItemsBy_iff {as bs : List Json} : equalItemsBy agree as bs = true ↔
    List.Forall₂ (fun a b => equalBy agree a b = true) as bs := by
  induction as generalizing bs with
  | nil => cases bs <;> simp [equalItemsBy]
  | cons a as ih => cases bs <;> simp [equalItemsBy, ih]

theorem equalMembersBy_iff {as bs : List (String × Json)} : equalMembersBy agree as bs = true ↔
    ∀ member ∈ as, ∃ b, bs.lookup member.1 = some b ∧ equalBy agree member.2 b = true := by
  induction as with
  | nil => simp [equalMembersBy]
  | cons member rest ih =>
    obtain ⟨key, a⟩ := member
    rw [equalMembersBy, Bool.and_eq_true, ih, List.forall_mem_cons]
    cases bs.lookup key <;> simp

theorem equalBy_number_iff {a : Number} {b : Json} :
    equalBy agree (.number a) b = true ↔ ∃ number, b = .number number ∧ agree a number = true := by
  cases b <;> simp [equalBy]

theorem equalBy_array_iff {as : List Json} {b : Json} : equalBy agree (.array as) b = true ↔
    ∃ bs, b = .array bs ∧ List.Forall₂ (fun a b => equalBy agree a b = true) as bs := by
  cases b <;> simp [equalBy, equalItemsBy_iff]

theorem equalBy_object_iff {as : List (String × Json)} {b : Json} :
    equalBy agree (.object as) b = true ↔ ∃ bs, b = .object bs ∧ as.length = bs.length ∧
      ∀ member ∈ as, ∃ b, bs.lookup member.1 = some b ∧ equalBy agree member.2 b = true := by
  cases b <;> simp [equalBy, equalMembersBy_iff]

/-- The same keys, and equal values under each of them. -/
structure EqualMembers (agree : Number → Number → Bool) (as bs : List (String × Json)) : Prop where
  perm : (Members.keys as).Perm (Members.keys bs)
  equal : ∀ key a b, (key, a) ∈ as → (key, b) ∈ bs → equalBy agree a b = true

theorem EqualMembers.exists_left {as bs : List (String × Json)} (h : EqualMembers agree as bs)
    {key : String} {b : Json} (hMember : (key, b) ∈ bs) :
    ∃ a, (key, a) ∈ as ∧ equalBy agree a b = true :=
  Members.Matches.exists_left ⟨h.perm, h.equal⟩ hMember

/-- As many members and no repeated key on one side: both sides have the same keys. -/
theorem equalBy_object_iff_equalMembers {as : List (String × Json)} {b : Json}
    (hKeys : (Members.keys as).Nodup) :
    equalBy agree (.object as) b = true ↔ ∃ bs, b = .object bs ∧ EqualMembers agree as bs := by
  rw [equalBy_object_iff]
  constructor
  · rintro ⟨bs, rfl, hLength, hMembers⟩
    have hMatches : Members.Matches (fun a b => equalBy agree a b = true) as bs :=
      Members.matches_of_lookup hKeys hLength hMembers
    exact ⟨bs, rfl, hMatches.perm, hMatches.related⟩
  · rintro ⟨bs, rfl, hPerm, hEqual⟩
    have hLength := hPerm.length_eq
    rw [Members.keys, Members.keys, List.length_map, List.length_map] at hLength
    refine ⟨bs, rfl, hLength, ?_⟩
    intro member hMember
    have hKey : member.1 ∈ Members.keys bs := hPerm.mem_iff.mp (Members.mem_keys_of_mem hMember)
    obtain ⟨⟨key, b⟩, hOther, hName⟩ := List.mem_map.mp hKey
    cases hName
    exact ⟨b, Members.lookup_of_mem (hPerm.nodup_iff.mp hKeys) hOther,
      hEqual _ _ _ hMember hOther⟩

theorem equalBy_self (hAgree : ∀ number, agree number number = true) {value : Json}
    (hKeys : value.KeysDistinct) : equalBy agree value value = true := by
  induction value using nestedInduction with
  | null => rfl
  | bool flag => simp [equalBy]
  | number number => exact hAgree number
  | string text => simp [equalBy]
  | array items ih =>
    rw [KeysDistinct, keysDistinctItems_iff] at hKeys
    refine equalBy_array_iff.mpr ⟨items, rfl, List.forall₂_same.mpr ?_⟩
    intro item hItem
    exact ih item hItem (hKeys item hItem)
  | object members ih =>
    obtain ⟨hNodup, hMembers⟩ := hKeys
    rw [keysDistinctMembers_iff] at hMembers
    refine equalBy_object_iff.mpr ⟨members, rfl, rfl, ?_⟩
    intro member hMember
    exact ⟨member.2, Members.lookup_of_mem hNodup hMember, ih member hMember (hMembers member hMember)⟩

theorem equalItemsBy_self (hAgree : ∀ number, agree number number = true) {items : List Json}
    (hKeys : ∀ item ∈ items, item.KeysDistinct) : equalItemsBy agree items items = true := by
  rw [equalItemsBy_iff, List.forall₂_same]
  exact fun item hItem => equalBy_self hAgree (hKeys item hItem)

theorem equalBy_trans {a b c : Json}
    (hAgree : ∀ x y z, agree x y = true → agree y z = true → agree x z = true)
    (h : equalBy agree a b = true) (h' : equalBy agree b c = true) : equalBy agree a c = true := by
  induction a using nestedInduction generalizing b c with
  | null =>
    cases b with
    | null => exact h'
    | _ => cases h
  | bool flag =>
    cases b with
    | bool other =>
      rw [beq_iff_eq.mp h]
      exact h'
    | _ => cases h
  | number x =>
    obtain ⟨y, rfl, hFirst⟩ := equalBy_number_iff.mp h
    obtain ⟨z, rfl, hSecond⟩ := equalBy_number_iff.mp h'
    exact hAgree x y z hFirst hSecond
  | string text =>
    cases b with
    | string other =>
      rw [beq_iff_eq.mp h]
      exact h'
    | _ => cases h
  | array as ih =>
    obtain ⟨bs, rfl, hFirst⟩ := equalBy_array_iff.mp h
    obtain ⟨cs, rfl, hSecond⟩ := equalBy_array_iff.mp h'
    refine equalBy_array_iff.mpr ⟨cs, rfl, ?_⟩
    clear h h'
    induction hFirst generalizing cs with
    | nil => exact hSecond
    | cons hHead _ ihRest =>
      rw [List.forall_mem_cons] at ih
      obtain ⟨_, _, hHead', hTail', rfl⟩ := List.forall₂_cons_left_iff.mp hSecond
      exact .cons (ih.1 hHead hHead') (ihRest ih.2 _ hTail')
  | object as ih =>
    obtain ⟨bs, rfl, hLength, hFirst⟩ := equalBy_object_iff.mp h
    obtain ⟨cs, rfl, hLength', hSecond⟩ := equalBy_object_iff.mp h'
    refine equalBy_object_iff.mpr ⟨cs, rfl, hLength.trans hLength', ?_⟩
    intro member hMember
    obtain ⟨b, hFound, hEqual⟩ := hFirst member hMember
    obtain ⟨c, hFound', hEqual'⟩ := hSecond _ (Members.mem_of_lookup hFound)
    exact ⟨c, hFound', ih member hMember hEqual hEqual'⟩

theorem equalBy_mono {agree' : Number → Number → Bool}
    (hAgree : ∀ x y, agree x y = true → agree' x y = true) {a b : Json}
    (h : equalBy agree a b = true) : equalBy agree' a b = true := by
  induction a using nestedInduction generalizing b with
  | number x =>
    obtain ⟨y, rfl, hAgrees⟩ := equalBy_number_iff.mp h
    exact hAgree x y hAgrees
  | array as ih =>
    obtain ⟨bs, rfl, hItems⟩ := equalBy_array_iff.mp h
    refine equalBy_array_iff.mpr ⟨bs, rfl, ?_⟩
    clear h
    induction hItems with
    | nil => exact .nil
    | cons hHead _ ihRest =>
      rw [List.forall_mem_cons] at ih
      exact .cons (ih.1 hHead) (ihRest ih.2)
  | object as ih =>
    obtain ⟨bs, rfl, hLength, hMembers⟩ := equalBy_object_iff.mp h
    refine equalBy_object_iff.mpr ⟨bs, rfl, hLength, ?_⟩
    intro member hMember
    obtain ⟨b, hFound, hEqual⟩ := hMembers member hMember
    exact ⟨b, hFound, ih member hMember hEqual⟩
  | _ =>
    cases b with
    | null | bool | string => exact h
    | _ => cases h

theorem equalBy_symm {a b : Json} (hAgree : ∀ x y, agree x y = true → agree y x = true)
    (hKeys : a.KeysDistinct) (h : equalBy agree a b = true) : equalBy agree b a = true := by
  induction a using nestedInduction generalizing b with
  | null =>
    cases b with
    | null => exact h
    | _ => cases h
  | bool flag =>
    cases b with
    | bool other => exact beq_iff_eq.mpr (beq_iff_eq.mp h).symm
    | _ => cases h
  | number x =>
    obtain ⟨y, rfl, hAgrees⟩ := equalBy_number_iff.mp h
    exact hAgree x y hAgrees
  | string text =>
    cases b with
    | string other => exact beq_iff_eq.mpr (beq_iff_eq.mp h).symm
    | _ => cases h
  | array as ih =>
    obtain ⟨bs, rfl, hItems⟩ := equalBy_array_iff.mp h
    refine equalBy_array_iff.mpr ⟨as, rfl, ?_⟩
    rw [KeysDistinct, keysDistinctItems_iff] at hKeys
    clear h
    induction hItems with
    | nil => exact .nil
    | cons hHead _ ihRest =>
      rw [List.forall_mem_cons] at ih hKeys
      exact .cons (ih.1 hKeys.1 hHead) (ihRest ih.2 hKeys.2)
  | object as ih =>
    obtain ⟨bs, rfl, hEqual⟩ := (equalBy_object_iff_equalMembers hKeys.1).mp h
    refine (equalBy_object_iff_equalMembers (hEqual.perm.nodup_iff.mp hKeys.1)).mpr
      ⟨as, rfl, hEqual.perm.symm, ?_⟩
    intro key b a hSecond hFirst
    have hDistinct : a.KeysDistinct := keysDistinctMembers_iff.mp hKeys.2 _ hFirst
    exact ih _ hFirst hDistinct (hEqual.equal key a b hFirst hSecond)

theorem keysDistinct_of_equalBy {a b : Json} (hKeys : a.KeysDistinct)
    (h : equalBy agree a b = true) : b.KeysDistinct := by
  induction a using nestedInduction generalizing b with
  | array as ih =>
    obtain ⟨bs, rfl, hItems⟩ := equalBy_array_iff.mp h
    rw [KeysDistinct, keysDistinctItems_iff] at hKeys ⊢
    clear h
    induction hItems with
    | nil => exact nofun
    | cons hHead _ ihRest =>
      rw [List.forall_mem_cons] at ih hKeys ⊢
      exact ⟨ih.1 hKeys.1 hHead, ihRest ih.2 hKeys.2⟩
  | object as ih =>
    obtain ⟨bs, rfl, hEqual⟩ := (equalBy_object_iff_equalMembers hKeys.1).mp h
    refine ⟨hEqual.perm.nodup_iff.mp hKeys.1, keysDistinctMembers_iff.mpr ?_⟩
    rintro ⟨key, b⟩ hMember
    obtain ⟨a, hOther, hSame⟩ := hEqual.exists_left hMember
    exact ih _ hOther (keysDistinctMembers_iff.mp hKeys.2 _ hOther) hSame
  | _ => cases b <;> trivial

end

theorem identical_self {value : Json} (hKeys : value.KeysDistinct) :
    value.identical value = true :=
  equalBy_self Number.identical_self hKeys

theorem same_self {value : Json} (hKeys : value.KeysDistinct) : value.same value = true :=
  equalBy_self (fun _ => Number.sameValue_iff.mpr rfl) hKeys

theorem same_symm {a b : Json} (hKeys : a.KeysDistinct) (h : a.same b = true) :
    b.same a = true :=
  equalBy_symm (fun _ _ hxy => Number.sameValue_iff.mpr (Number.sameValue_iff.mp hxy).symm) hKeys h

theorem same_trans {a b c : Json} (h : a.same b = true) (h' : b.same c = true) :
    a.same c = true :=
  equalBy_trans (fun _ _ _ hxy hyz => Number.sameValue_iff.mpr
    ((Number.sameValue_iff.mp hxy).trans (Number.sameValue_iff.mp hyz))) h h'

theorem same_of_identical {a b : Json} (h : a.identical b = true) : a.same b = true :=
  equalBy_mono (fun _ _ => Number.sameValue_of_identical) h

theorem allDistinct_eq_true_iff {items : List Json} :
    allDistinct items = true ↔ items.Pairwise fun a b => a.same b = false := by
  induction items with
  | nil => simp [allDistinct]
  | cons item rest ih => simp [allDistinct, List.pairwise_cons, ih]

end Json

end ParamSchema
