import Mathlib.Data.List.TakeWhile
import ParamSchema.Json.Reader
import ParamSchema.Proofs.Json.Equality

/-!
# Values read from texts

Integers of 64 bits are read as they were written. Merging repeated keys leaves none, so no value
that is read from a text repeats a key, be it the only one of the text or one of many.
-/

set_option autoImplicit false

namespace ParamSchema.Json

theorem le_foldl_digits (value : Nat) (digits : List Char) :
    value ≤ digits.foldl (fun n c => 10 * n + (c.toNat - '0'.toNat)) value := by
  induction digits generalizing value with
  | nil => exact Nat.le_refl value
  | cons c rest ih => exact Nat.le_trans (by omega) (ih (10 * value + (c.toNat - '0'.toNat)))

theorem significand_of_lt {value : Nat} {digits : List Char}
    (hFits : digits.foldl (fun n c => 10 * n + (c.toNat - '0'.toNat)) value < 2 ^ (64 : Nat)) :
    significand value digits =
      (digits.foldl (fun n c => 10 * n + (c.toNat - '0'.toNat)) value, 0) := by
  induction digits generalizing value with
  | nil => rfl
  | cons c rest ih =>
    have hNext : 10 * value + (c.toNat - '0'.toNat) < 2 ^ (64 : Nat) :=
      Nat.lt_of_le_of_lt (le_foldl_digits _ rest) hFits
    rw [significand]
    exact (if_pos hNext).trans (ih hFits)

theorem numberOfWord?_digits (negative : Bool) {digits : List Char}
    (hDigits : ∀ c ∈ digits, c.isDigit = true) (hSome : digits ≠ [])
    (hLeading : digits.head? = some '0' → digits.length = 1)
    (hFits : decimalValue digits < 2 ^ (64 : Nat))
    (hZero : negative = true → decimalValue digits ≠ 0) :
    numberOfWord? (if negative then '-' :: digits else digits) =
      Number.ofInt? (if negative then -(decimalValue digits : Int) else decimalValue digits) := by
  have hWhole : digits.takeWhile Char.isDigit = digits := List.takeWhile_eq_self_iff.mpr hDigits
  have hRest : digits.dropWhile Char.isDigit = [] := List.dropWhile_eq_nil_iff.mpr hDigits
  have hLead : ¬(digits.isEmpty = true ∨ digits.head? = some '0' ∧ 1 < digits.length) := by
    rintro (hEmpty | ⟨hFirst, hLong⟩)
    · exact hSome (List.isEmpty_iff.mp hEmpty)
    · exact Nat.ne_of_gt hLong (hLeading hFirst)
  have hValue : significand 0 digits = (decimalValue digits, 0) := significand_of_lt hFits
  cases negative with
  | true =>
    simp only [numberOfWord?, if_true, hWhole, hRest, if_neg hLead, hValue, List.isEmpty_nil,
      and_self, true_and, if_neg (hZero rfl)]
  | false =>
    rw [if_neg Bool.false_ne_true, if_neg Bool.false_ne_true]
    unfold numberOfWord?
    split
    rename_i hUnsigned
    split at hUnsigned
    · exact absurd (hDigits '-' List.mem_cons_self) (by decide)
    · cases hUnsigned
      simp only [hWhole, hRest, if_neg hLead, hValue, List.isEmpty_nil, and_self, if_true,
        Bool.false_eq_true, false_and, if_false]

theorem eq_zero_of_head?_toDigits {n : Nat} (hHead : (Nat.toDigits 10 n).head? = some '0') :
    n = 0 := by
  induction n using Nat.strongRecOn with
  | ind n ih =>
    by_cases hSmall : n < 10
    · rw [Nat.toDigits_of_lt_base hSmall] at hHead
      have hZero : ∀ digit < 10, Nat.digitChar digit = '0' → digit = 0 := by decide
      exact hZero n hSmall (Option.some.inj hHead)
    · rw [Nat.toDigits_of_base_le (by decide) (by omega),
        List.head?_append_of_ne_nil _ Nat.toDigits_ne_nil] at hHead
      have hRest : n / 10 = 0 := ih (n / 10) (by omega) hHead
      omega

theorem toList_write_integer {value : Int} (hRange : Number.InRange value) :
    (Number.integer value hRange).write.toList =
      if decide (value < 0) then '-' :: Nat.toDigits 10 value.natAbs
      else Nat.toDigits 10 value.natAbs := by
  change value.repr.toList = _
  rw [Int.repr_eq_if]
  by_cases hNegative : value < 0
  · have hAbs : (-value).toNat = value.natAbs := by omega
    rw [if_neg (by omega), if_pos (decide_eq_true hNegative), hAbs, String.toList_append,
      Nat.toList_repr]
    rfl
  · have hAbs : value.toNat = value.natAbs := by omega
    rw [if_pos (by omega), if_neg (by simpa using hNegative), hAbs, Nat.toList_repr]

/-- An integer is read as it was written. -/
theorem numberOfWord?_write_integer {value : Int} (hRange : Number.InRange value) :
    numberOfWord? (Number.integer value hRange).write.toList = some (.integer value hRange) := by
  have hFits : value.natAbs < 2 ^ (64 : Nat) := by
    unfold Number.InRange at hRange
    omega
  have hValue : decimalValue (Nat.toDigits 10 value.natAbs) = value.natAbs :=
    Nat.ofDigitChars_toDigits (by decide) (by decide)
  have hSigned : (if decide (value < 0) then -(value.natAbs : Int) else value.natAbs) = value := by
    simp only [decide_eq_true_eq]
    omega
  rw [toList_write_integer, numberOfWord?_digits, hValue, hSigned, Number.ofInt?, dif_pos hRange]
  · exact fun c hc => Nat.isDigit_of_mem_toDigits (by decide) (by decide) hc
  · exact Nat.toDigits_ne_nil
  · intro hHead
    rw [eq_zero_of_head?_toDigits hHead]
    rfl
  · rwa [hValue]
  · intro hNegative hZero
    have hLess : value < 0 := of_decide_eq_true hNegative
    omega

theorem keysDistinct_insert {key : String} {value : Json} {members : List (String × Json)}
    (hValue : value.KeysDistinct) (hMembers : (Json.object members).KeysDistinct) :
    (Json.object (Members.insert key value members)).KeysDistinct := by
  refine ⟨Members.nodup_keys_insert hMembers.1, ?_⟩
  rw [keysDistinctMembers_iff]
  intro member hMember
  rcases Members.mem_insert hMember with rfl | hOld
  · exact hValue
  · exact keysDistinctMembers_iff.mp hMembers.2 member hOld

mutual

theorem keysDistinct_merge (value : Json) : value.merge.KeysDistinct := by
  cases value with
  | null => trivial
  | bool flag => trivial
  | number number => trivial
  | string text => trivial
  | array items => exact keysDistinctItems_mergeItems items
  | object members =>
    exact keysDistinct_mergeMembers members [] ⟨List.nodup_nil, trivial⟩

theorem keysDistinctItems_mergeItems (items : List Json) :
    KeysDistinctItems (mergeItems items) := by
  cases items with
  | nil => trivial
  | cons item rest => exact ⟨keysDistinct_merge item, keysDistinctItems_mergeItems rest⟩

theorem keysDistinct_mergeMembers (members merged : List (String × Json))
    (hMerged : (Json.object merged).KeysDistinct) :
    (Json.object (mergeMembers merged members)).KeysDistinct := by
  cases members with
  | nil => exact hMerged
  | cons member rest =>
    obtain ⟨key, value⟩ := member
    exact keysDistinct_mergeMembers rest _ (keysDistinct_insert (keysDistinct_merge value) hMerged)

end

theorem keysDistinct_of_read? {text : String} {value : Json} (h : read? text = some value) :
    value.KeysDistinct := by
  obtain ⟨written, -, rfl⟩ := Option.map_eq_some_iff.mp h
  exact keysDistinct_merge written

theorem keysDistinct_of_readFrom {found : List Json} {reading : Reading} {tokens : List Token}
    (hFound : ∀ value ∈ found, value.KeysDistinct) :
    ∀ value ∈ (readFrom found reading tokens).values, value.KeysDistinct := by
  have hReverse {found : List Json} (hFound : ∀ value ∈ found, value.KeysDistinct) :
      ∀ value ∈ found.reverse, value.KeysDistinct :=
    fun value hValue => hFound value (List.mem_reverse.mp hValue)
  fun_induction readFrom found reading tokens with
  | case1 => exact hReverse hFound
  | case2 => exact hReverse hFound
  | case3 found reading token rest value hStep ih =>
    exact ih (List.forall_mem_cons.mpr ⟨keysDistinct_merge value, hFound⟩)
  | case4 found reading token rest next _ hStep ih => exact ih hFound
  | case5 => exact hReverse hFound

theorem keysDistinct_of_readAll {text : String} {value : Json}
    (h : value ∈ (readAll text).values) : value.KeysDistinct :=
  keysDistinct_of_readFrom (List.forall_mem_nil _) value h

end ParamSchema.Json
