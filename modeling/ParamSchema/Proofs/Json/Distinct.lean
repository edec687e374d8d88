import Mathlib.Data.List.Forall2
import ParamSchema.Proofs.Json.Equality

/-!
# Distinct items

On values as meant, those in which no key is repeated, equality of values is an equivalence. So
it does not matter in which order the items of a list are compared, nor which of several equal
values stands at a position.
-/

set_option autoImplicit false

namespace ParamSchema

theorem Members.matches_iff_lookup {α β : Type} {related : α → β → Prop}
    {members : List (String × α)} {others : List (String × β)} (hKeys : (keys members).Nodup)
    (hOthers : (keys others).Nodup) : Matches related members others ↔
      ∀ key, Option.Rel related (members.lookup key) (others.lookup key) := by
  constructor
  · intro h key
    cases hFirst : members.lookup key with
    | none =>
      have hKey : key ∉ keys others := fun hKey =>
        lookup_eq_none_iff.mp hFirst (h.perm.mem_iff.mpr hKey)
      rw [lookup_eq_none_iff.mpr hKey]
      exact .none
    | some a =>
      obtain ⟨b, hMember, hRelated⟩ := h.exists_right (mem_of_lookup hFirst)
      rw [lookup_of_mem hOthers hMember]
      exact .some hRelated
  · intro h
    constructor
    case perm =>
      refine (List.perm_ext_iff_of_nodup hKeys hOthers).mpr fun key => ?_
      rw [← not_iff_not, ← lookup_eq_none_iff, ← lookup_eq_none_iff]
      have hKey := h key
      generalize members.lookup key = first at hKey
      generalize others.lookup key = second at hKey
      cases hKey <;> simp
    case related =>
      intro key a b hFirst hSecond
      have hKey := h key
      rw [lookup_of_mem hKeys hFirst, lookup_of_mem hOthers hSecond] at hKey
      cases hKey with
      | some hRelated => exact hRelated

namespace Json

theorem same_number_iff {a b : Number} : (Json.number a).same (.number b) = true ↔
    a.toBinary64.signedUnits = b.toBinary64.signedUnits :=
  Number.sameValue_iff

theorem same_object_iff {as bs : List (String × Json)} (hKeys : (Members.keys as).Nodup)
    (hOthers : (Members.keys bs).Nodup) : (Json.object as).same (.object bs) = true ↔
      ∀ key, Option.Rel (fun a b => a.same b = true) (as.lookup key) (bs.lookup key) := by
  rw [← Members.matches_iff_lookup hKeys hOthers, same, equalBy_object_iff_equalMembers hKeys]
  constructor
  · rintro ⟨_, ⟨⟩, hPerm, hEqual⟩
    exact ⟨hPerm, hEqual⟩
  · rintro ⟨hPerm, hEqual⟩
    exact ⟨bs, rfl, hPerm, hEqual⟩

theorem same_congr {a a' b b' : Json} (hKeys : a.KeysDistinct) (hKeys' : b.KeysDistinct)
    (hFirst : a.same a' = true) (hSecond : b.same b' = true) : a.same b = a'.same b' := by
  rw [Bool.eq_iff_iff]
  constructor
  · intro h
    exact same_trans (same_trans (same_symm hKeys hFirst) h) hSecond
  · intro h
    exact same_trans (same_trans hFirst h) (same_symm hKeys' hSecond)

theorem pairwise_of_forall₂_same {items others : List Json}
    (hKeys : ∀ item ∈ items, item.KeysDistinct)
    (hSame : List.Forall₂ (fun item other => item.same other = true) items others)
    (h : items.Pairwise fun a b => a.same b = false) :
    others.Pairwise fun a b => a.same b = false := by
  obtain ⟨hLength, hEach⟩ := List.forall₂_iff_get.mp hSame
  rw [List.pairwise_iff_getElem] at h ⊢
  intro i j hi hj hLess
  have hi' : i < items.length := hLength ▸ hi
  have hj' : j < items.length := hLength ▸ hj
  have hFirst : items[i].same others[i] = true := hEach i hi' hi
  have hSecond : items[j].same others[j] = true := hEach j hj' hj
  rw [← same_congr (hKeys _ (List.getElem_mem hi')) (hKeys _ (List.getElem_mem hj')) hFirst hSecond]
  exact h i j hi' hj' hLess

/-- A value in which no object repeats a key. -/
abbrev Meant := {value : Json // value.KeysDistinct}

namespace Meant

def Same (a b : Meant) : Prop := a.val.same b.val = true

theorem same_equivalence : Equivalence Same where
  refl a := same_self a.property
  symm {a _} h := same_symm a.property h
  trans h h' := same_trans h h'

def AllDistinct (items : List Meant) : Prop := allDistinct (items.map Subtype.val) = true

theorem allDistinct_iff_pairwise {items : List Meant} :
    AllDistinct items ↔ items.Pairwise fun a b => ¬a.Same b := by
  rw [AllDistinct, allDistinct_eq_true_iff, List.pairwise_map]
  simp only [Same, Bool.not_eq_true]

theorem allDistinct_iff_getElem {items : List Meant} : AllDistinct items ↔
    ∀ (i j : Nat) (hi : i < items.length) (hj : j < items.length), i ≠ j →
      ¬Same items[i] items[j] := by
  rw [allDistinct_iff_pairwise, List.pairwise_iff_getElem]
  constructor
  · intro h i j hi hj hNe hSame
    -- Only earlier positions are compared with later ones, so the other half needs symmetry.
    rcases Nat.lt_or_gt_of_ne hNe with hLess | hGreater
    · exact h i j hi hj hLess hSame
    · exact h j i hj hi hGreater (same_equivalence.symm hSame)
  · intro h i j hi hj hLess
    exact h i j hi hj (Nat.ne_of_lt hLess)

theorem AllDistinct.perm_iff {items others : List Meant} (hPerm : items.Perm others) :
    AllDistinct items ↔ AllDistinct others := by
  rw [allDistinct_iff_pairwise, allDistinct_iff_pairwise]
  exact hPerm.pairwise_iff fun h hSame => h (same_equivalence.symm hSame)

theorem AllDistinct.of_replaced {items others : List Meant} (hSame : List.Forall₂ Same items others)
    (h : AllDistinct items) : AllDistinct others := by
  refine allDistinct_eq_true_iff.mpr
    (pairwise_of_forall₂_same ?_ ?_ (allDistinct_eq_true_iff.mp h))
  · rintro _ hItem
    obtain ⟨item, -, rfl⟩ := List.mem_map.mp hItem
    exact item.property
  · exact List.forall₂_map_left_iff.mpr (List.forall₂_map_right_iff.mpr hSame)

theorem AllDistinct.replaced_iff {items others : List Meant}
    (hSame : List.Forall₂ Same items others) : AllDistinct items ↔ AllDistinct others := by
  refine ⟨.of_replaced hSame, .of_replaced ?_⟩
  exact hSame.flip.imp fun _ _ h => same_equivalence.symm h

/-- Equality is an equivalence on values as meant: numbers are compared as doubles and objects
member by member, and what is equal as written is equal. Items are found distinct exactly if no
two positions hold equal ones, in whatever order, whichever of equal values stand there. -/
theorem allDistinct_up_to_equivalence :
    Equivalence Same ∧
    (∀ a b : Number, (Json.number a).same (.number b) = true ↔
      a.toBinary64.signedUnits = b.toBinary64.signedUnits) ∧
    (∀ as bs : List (String × Json), (Members.keys as).Nodup → (Members.keys bs).Nodup →
      ((Json.object as).same (.object bs) = true ↔
        ∀ key, Option.Rel (fun a b => a.same b = true) (as.lookup key) (bs.lookup key))) ∧
    (∀ a b : Json, a.identical b = true → a.same b = true) ∧
    ∀ items : List Meant,
      (AllDistinct items ↔ ∀ (i j : Nat) (hi : i < items.length) (hj : j < items.length), i ≠ j →
        ¬Same items[i] items[j]) ∧
      (∀ others : List Meant, items.Perm others → (AllDistinct items ↔ AllDistinct others)) ∧
      (∀ others : List Meant, List.Forall₂ Same items others →
        (AllDistinct items ↔ AllDistinct others)) :=
  ⟨same_equivalence, fun _ _ => same_number_iff, fun _ _ => same_object_iff,
    fun _ _ => same_of_identical, fun _ => ⟨allDistinct_iff_getElem,
      fun _ => AllDistinct.perm_iff, fun _ => AllDistinct.replaced_iff⟩⟩

/-- Two objects with their members in another order and an integer that is rounded to the other
one: equal, so either of them is distinct from null wherever the two stand. -/
theorem rounded_and_reordered_is_same :
    let first : Meant := ⟨.object [("a", .number (.integer 9007199254740993 (by decide))),
      ("b", .null)], by simp [KeysDistinct, KeysDistinctMembers, Members.keys]⟩
    let second : Meant := ⟨.object [("b", .null),
      ("a", .number (.integer 9007199254740992 (by decide)))],
      by simp [KeysDistinct, KeysDistinctMembers, Members.keys]⟩
    first.Same second ∧ first.val.identical second.val = false ∧
      AllDistinct [second, ⟨.null, trivial⟩] ∧ AllDistinct [⟨.null, trivial⟩, first] := by
  intro first second
  obtain ⟨hEquivalence, hNumber, hObject, hWritten, hItems⟩ := allDistinct_up_to_equivalence
  have hSame : first.Same second := by
    refine (hObject _ _ (by decide) (by decide)).mpr fun key => ?_
    by_cases hFirst : key = "a"
    · subst hFirst
      exact .some ((hNumber _ _).mpr (by decide +kernel))
    · by_cases hSecond : key = "b"
      · subst hSecond
        exact .some (hWritten .null .null rfl)
      · simp [Members.lookup_cons, hFirst, hSecond]
  obtain ⟨-, hPerm, hReplaced⟩ := hItems [first, ⟨.null, trivial⟩]
  have hDistinct : AllDistinct [first, ⟨.null, trivial⟩] := rfl
  refine ⟨hSame, rfl, ?_, ?_⟩
  · exact (hReplaced _ (.cons hSame (.cons (hEquivalence.refl _) .nil))).mp hDistinct
  · exact (hPerm _ (.swap ⟨.null, trivial⟩ first [])).mp hDistinct

end Meant

end Json

end ParamSchema
