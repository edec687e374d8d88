import Mathlib.Data.List.Nodup
import Mathlib.Data.List.Perm.Subperm
import ParamSchema.Members

/-!
# Looking up members

A key that is found stands in the list, and without repeated keys what stands
in the list is found. Setting a key repeats none. Lists that are related member by
member under the same keys have the same keys.
-/

set_option autoImplicit false

namespace ParamSchema.Members

variable {α : Type} {members : List (String × α)} {key : String} {value : α}

theorem mem_of_lookup (h : members.lookup key = some value) : (key, value) ∈ members := by
  obtain ⟨before, after, rfl, -⟩ := List.lookup_eq_some_iff.mp h
  exact List.mem_append_right before List.mem_cons_self

theorem lookup_eq_none_iff : members.lookup key = none ↔ key ∉ keys members := by
  rw [← contains_eq_true_iff, contains, Option.isSome_iff_ne_none, not_not]

theorem lookup_cons {name : String} :
    ((name, value) :: members).lookup key = if key = name then some value else members.lookup key := by
  rw [List.lookup_cons]
  by_cases hKey : key = name
  · simp [hKey]
  · rw [beq_false_of_ne hKey, if_neg hKey]

theorem lookup_of_mem (hKeys : (keys members).Nodup) (hMem : (key, value) ∈ members) :
    members.lookup key = some value := by
  obtain ⟨before, after, rfl⟩ := List.append_of_mem hMem
  refine List.lookup_eq_some_iff.mpr ⟨before, after, rfl, ?_⟩
  intro earlier hEarlier
  rw [keys, List.map_append, List.nodup_append] at hKeys
  have hNe := hKeys.2.2 earlier.1 (List.mem_map_of_mem hEarlier) key List.mem_cons_self
  simpa [bne_iff_ne] using hNe.symm

theorem lookup_insert {other : String} : (insert key value members).lookup other =
    if other = key then some value else members.lookup other := by
  induction members with
  | nil => rw [insert, lookup_cons]
  | cons member rest ih =>
    obtain ⟨name, old⟩ := member
    rw [insert]
    split
    · rename_i hName
      rw [beq_iff_eq.mp hName, lookup_cons, lookup_cons]
      split <;> rfl
    · rename_i hName
      rw [beq_iff_eq] at hName
      rw [lookup_cons, lookup_cons, ih]
      by_cases hOther : other = name
      · rw [if_pos hOther, if_pos hOther, if_neg (hOther ▸ hName)]
      · rw [if_neg hOther, if_neg hOther]

theorem keys_nil : keys ([] : List (String × α)) = [] := rfl

theorem keys_cons {member : String × α} : keys (member :: members) = member.1 :: keys members := rfl

theorem keys_append {others : List (String × α)} :
    keys (members ++ others) = keys members ++ keys others :=
  List.map_append

theorem mem_insert {member : String × α} (h : member ∈ insert key value members) :
    member = (key, value) ∨ member ∈ members := by
  induction members with
  | nil => exact .inl (List.mem_singleton.mp h)
  | cons head rest ih =>
    obtain ⟨k, v⟩ := head
    rw [insert] at h
    split at h
    · rename_i hKey
      rw [beq_iff_eq] at hKey
      subst hKey
      rcases List.mem_cons.mp h with hHead | hRest
      · exact .inl hHead
      · exact .inr (List.mem_cons_of_mem _ hRest)
    · rcases List.mem_cons.mp h with hHead | hRest
      · exact .inr (hHead ▸ List.mem_cons_self)
      · exact (ih hRest).imp_right (List.mem_cons_of_mem _)

theorem nodup_keys_insert (hKeys : (keys members).Nodup) :
    (keys (insert key value members)).Nodup := by
  induction members with
  | nil => simp [insert, keys]
  | cons head rest ih =>
    obtain ⟨k, v⟩ := head
    rw [keys, List.map_cons, List.nodup_cons] at hKeys
    rw [insert]
    split
    · exact List.nodup_cons.mpr hKeys
    · rename_i hKey
      rw [beq_iff_eq] at hKey
      refine List.nodup_cons.mpr ⟨?_, ih hKeys.2⟩
      intro hMem
      obtain ⟨member, hMember, hEq⟩ := List.mem_map.mp hMem
      rcases mem_insert hMember with rfl | hRest
      · exact hKey hEq.symm
      · exact hKeys.1 (hEq ▸ List.mem_map_of_mem hRest)

theorem keys_eq_of_forall₂ {β : Type} {related : String × α → String × β → Prop}
    {others : List (String × β)} (hKeys : ∀ a b, related a b → a.1 = b.1)
    (h : List.Forall₂ related members others) : keys members = keys others := by
  induction h with
  | nil => rfl
  | cons hHead _ ih => exact congrArg₂ List.cons (hKeys _ _ hHead) ih

theorem mem_keys_of_mem {member : String × α} (h : member ∈ members) : member.1 ∈ keys members :=
  List.mem_map_of_mem h

theorem length_le_of_keys_subset {others : List (String × α)} (hKeys : (keys members).Nodup)
    (hSubset : keys members ⊆ keys others) : members.length ≤ others.length := by
  have hLength := (hKeys.subperm hSubset).length_le
  rwa [keys, keys, List.length_map, List.length_map] at hLength

theorem eq_of_mem_of_nodup {a b : String × α} (hKeys : (keys members).Nodup) (hFirst : a ∈ members)
    (hSecond : b ∈ members) (hKey : a.1 = b.1) : a = b :=
  List.inj_on_of_nodup_map hKeys hFirst hSecond hKey

/-- The same keys, and related values under each of them. -/
structure Matches {β : Type} (related : α → β → Prop) (members : List (String × α))
    (others : List (String × β)) : Prop where
  perm : (keys members).Perm (keys others)
  related : ∀ key a b, (key, a) ∈ members → (key, b) ∈ others → related a b

section

variable {β : Type} {related : α → β → Prop} {others : List (String × β)}

theorem matches_of_lookup (hKeys : (keys members).Nodup) (hLength : members.length = others.length)
    (hMembers : ∀ member ∈ members, ∃ b, others.lookup member.1 = some b ∧ related member.2 b) :
    Matches related members others := by
  have hSubset : keys members ⊆ keys others := by
    intro key hKey
    obtain ⟨member, hMember, rfl⟩ := List.mem_map.mp hKey
    obtain ⟨b, hFound, -⟩ := hMembers member hMember
    exact mem_keys_of_mem (mem_of_lookup hFound)
  have hPerm : (keys members).Perm (keys others) := by
    refine (hKeys.subperm hSubset).perm_of_length_le (Nat.le_of_eq ?_)
    rw [keys, keys, List.length_map, List.length_map, hLength]
  refine ⟨hPerm, ?_⟩
  intro key a b hFirst hSecond
  obtain ⟨b', hFound, hRelated⟩ := hMembers _ hFirst
  cases hFound.symm.trans (lookup_of_mem (hPerm.nodup_iff.mp hKeys) hSecond)
  exact hRelated

theorem Matches.exists_left (h : Matches related members others) {b : β}
    (hMember : (key, b) ∈ others) : ∃ a, (key, a) ∈ members ∧ related a b := by
  have hKey : key ∈ keys members := h.perm.mem_iff.mpr (mem_keys_of_mem hMember)
  obtain ⟨⟨key, a⟩, hOther, rfl⟩ := List.mem_map.mp hKey
  exact ⟨a, hOther, h.related key a b hOther hMember⟩

theorem Matches.exists_right (h : Matches related members others) {a : α}
    (hMember : (key, a) ∈ members) : ∃ b, (key, b) ∈ others ∧ related a b := by
  have hKey : key ∈ keys others := h.perm.mem_iff.mp (mem_keys_of_mem hMember)
  obtain ⟨⟨key, b⟩, hOther, rfl⟩ := List.mem_map.mp hKey
  exact ⟨b, hOther, h.related key a b hMember hOther⟩

end

end ParamSchema.Members
