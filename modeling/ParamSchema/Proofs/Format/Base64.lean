import Mathlib.Algebra.Group.Nat.Defs
import Mathlib.Data.List.GetD
import Mathlib.Logic.ExistsUnique
import ParamSchema.Format.Basic

/-!
# Base64 as an encoding of bytes

Three bytes are a number of 24 bits, written by its four digits to base 64. Where bytes are
missing at the end their bits are zero, and `=` stands for the digits that hold nothing else. The
texts that are accepted are those that are written so, each by one list of bytes only.
-/

set_option autoImplicit false

namespace ParamSchema.Format

namespace Base64

def alphabet : List Char :=
  "ABCDEFGHIJKLMNOPQRSTUVWXYZabcdefghijklmnopqrstuvwxyz0123456789+/".toList

def letter (digit : Nat) : Char := alphabet.getD digit '='

def letters (n : Nat) : List Char :=
  [letter (n / 64 ^ 3), letter (n / 64 ^ 2 % 64), letter (n / 64 % 64), letter (n % 64)]

def group (a b c : UInt8) : Nat := 256 ^ 2 * a.toNat + 256 * b.toNat + c.toNat

def encode : List UInt8 → List Char
  | [] => []
  | [a] => (letters (group a 0 0)).take 2 ++ ['=', '=']
  | [a, b] => (letters (group a b 0)).take 3 ++ ['=']
  | a :: b :: c :: rest => letters (group a b c) ++ encode rest

def digitOf (c : Char) : Nat := (sextet? c).getD 0

def decode : List Char → List UInt8
  | a :: b :: c :: d :: rest =>
    let n := 64 ^ 3 * digitOf a + 64 ^ 2 * digitOf b + 64 * digitOf c + digitOf d
    [UInt8.ofNat (n / 256 ^ 2), UInt8.ofNat (n / 256), UInt8.ofNat n].take
      (3 - [c, d].count '=') ++ decode rest
  | _ => []

theorem sextet?_letter : ∀ digit < 64, sextet? (letter digit) = some digit := by decide +kernel

theorem toNat_lt_of_sextet? {c : Char} {digit : Nat} (h : sextet? c = some digit) :
    c.toNat < 128 := by
  unfold sextet? at h
  split at h
  · rename_i hRange
    exact Nat.lt_of_le_of_lt (UInt32.le_iff_toNat_le.mp hRange.2) (by decide)
  split at h
  · rename_i hRange
    exact Nat.lt_of_le_of_lt (UInt32.le_iff_toNat_le.mp hRange.2) (by decide)
  split at h
  · rename_i hDigit
    rw [Char.isDigit, Bool.and_eq_true, decide_eq_true_eq, decide_eq_true_eq] at hDigit
    exact Nat.lt_of_le_of_lt (UInt32.le_iff_toNat_le.mp hDigit.2) (by decide)
  split at h
  · subst c
    decide
  split at h
  · subst c
    decide
  · cases h

theorem sextet?_eq_some_iff {c : Char} {digit : Nat} :
    sextet? c = some digit ↔ digit < 64 ∧ c = letter digit := by
  have hAscii : ∀ code < 128, ∀ digit ∈ sextet? (Char.ofNat code),
      digit < 64 ∧ Char.ofNat code = letter digit := by decide +kernel
  constructor
  · intro h
    have hCode := hAscii c.toNat (toNat_lt_of_sextet? h) digit
    rw [Char.ofNat_toNat] at hCode
    exact hCode h
  · rintro ⟨hDigit, rfl⟩
    exact sextet?_letter digit hDigit

theorem isSome_sextet?_iff {c : Char} :
    (sextet? c).isSome = true ↔ ∃ digit < 64, c = letter digit := by
  simp only [Option.isSome_iff_exists, sextet?_eq_some_iff]

theorem any_sextet?_iff {c : Char} {holds : Nat → Bool} :
    (sextet? c).any holds = true ↔ ∃ digit < 64, c = letter digit ∧ holds digit = true := by
  simp only [Option.any_eq_true, sextet?_eq_some_iff, and_assoc]

theorem mem_alphabet_iff {c : Char} : c ∈ alphabet ↔ ∃ digit < 64, c = letter digit := by
  constructor
  · intro h
    obtain ⟨digit, hDigit, rfl⟩ := List.getElem_of_mem h
    exact ⟨digit, hDigit, (List.getD_eq_getElem _ _ hDigit).symm⟩
  · rintro ⟨digit, hDigit, rfl⟩
    rw [letter, List.getD_eq_getElem _ _ hDigit]
    exact List.getElem_mem hDigit

theorem mem_alphabet_of_lt {digit : Nat} (h : digit < 64) : letter digit ∈ alphabet :=
  mem_alphabet_iff.mpr ⟨digit, h, rfl⟩

section

variable {x y z w : Nat}

theorem letter_ne_pad (hx : x < 64) : letter x ≠ '=' := by
  intro h
  have hLetter := sextet?_letter x hx
  rw [h] at hLetter
  cases hLetter

theorem digitOf_letter (hx : x < 64) : digitOf (letter x) = x := by
  rw [digitOf, sextet?_letter x hx, Option.getD_some]

theorem digitOf_pad : digitOf '=' = 0 := by decide

theorem letters_digits (hy : y < 64) (hz : z < 64) (hw : w < 64) :
    letters (64 ^ 3 * x + 64 ^ 2 * y + 64 * z + w) = [letter x, letter y, letter z, letter w] := by
  have hFirst : (64 ^ 3 * x + 64 ^ 2 * y + 64 * z + w) / 64 ^ 3 = x := by omega
  have hSecond : (64 ^ 3 * x + 64 ^ 2 * y + 64 * z + w) / 64 ^ 2 % 64 = y := by omega
  have hThird : (64 ^ 3 * x + 64 ^ 2 * y + 64 * z + w) / 64 % 64 = z := by omega
  have hFourth : (64 ^ 3 * x + 64 ^ 2 * y + 64 * z + w) % 64 = w := by omega
  rw [letters, hFirst, hSecond, hThird, hFourth]

end

section

variable (a b c : UInt8)

theorem exists_digits : ∃ x y z w, x < 64 ∧ y < 64 ∧ z < 64 ∧ w < 64 ∧
    group a b c = 64 ^ 3 * x + 64 ^ 2 * y + 64 * z + w ∧
    letters (group a b c) = [letter x, letter y, letter z, letter w] := by
  have hGroup : group a b c < 64 ^ 4 := by
    have ha := a.toNat_lt
    have hb := b.toNat_lt
    have hc := c.toNat_lt
    unfold group
    omega
  exact ⟨group a b c / 64 ^ 3, group a b c / 64 ^ 2 % 64, group a b c / 64 % 64, group a b c % 64,
    by omega, by omega, by omega, by omega, by omega, rfl⟩

theorem exists_digits_of_two : ∃ x y z, x < 64 ∧ y < 64 ∧ z < 64 ∧ z % 4 = 0 ∧
    group a b 0 = 64 ^ 3 * x + 64 ^ 2 * y + 64 * z ∧
    encode [a, b] = [letter x, letter y, letter z, '='] := by
  obtain ⟨x, y, z, w, hx, hy, hz, hw, hGroup, hLetters⟩ := exists_digits a b 0
  refine ⟨x, y, z, hx, hy, hz, ?_, ?_, by rw [encode, hLetters]; rfl⟩
  all_goals
    simp only [group, UInt8.toNat_zero] at hGroup ⊢
    omega

theorem exists_digits_of_one : ∃ x y, x < 64 ∧ y < 64 ∧ y % 16 = 0 ∧
    group a 0 0 = 64 ^ 3 * x + 64 ^ 2 * y ∧ encode [a] = [letter x, letter y, '=', '='] := by
  obtain ⟨x, y, z, w, hx, hy, hz, hw, hGroup, hLetters⟩ := exists_digits a 0 0
  refine ⟨x, y, hx, hy, ?_, ?_, by rw [encode, hLetters]; rfl⟩
  all_goals
    simp only [group, UInt8.toNat_zero] at hGroup ⊢
    omega

theorem bytes_of_group : [UInt8.ofNat (group a b c / 256 ^ 2), UInt8.ofNat (group a b c / 256),
    UInt8.ofNat (group a b c)] = [a, b, c] := by
  have ha := a.toNat_lt
  have hb := b.toNat_lt
  have hc := c.toNat_lt
  have hGroup : group a b c = 256 ^ 2 * a.toNat + 256 * b.toNat + c.toNat := rfl
  generalize group a b c = n at hGroup
  simp only [List.cons.injEq, ← UInt8.toNat_inj, UInt8.toNat_ofNat', and_true]
  omega

end

/-- Every number of 24 bits is that of three bytes; low bits that are zero are zero bytes. -/
theorem exists_group {n : Nat} (hn : n < 64 ^ 4) : ∃ a b c, group a b c = n ∧
    (n % 256 = 0 → c = 0) ∧ (n % 256 ^ 2 = 0 → b = 0) := by
  refine ⟨UInt8.ofNat (n / 256 ^ 2), UInt8.ofNat (n / 256), UInt8.ofNat n, ?_, ?_, ?_⟩
  · simp only [group, UInt8.toNat_ofNat']
    omega
  all_goals
    intro hZero
    apply UInt8.toNat_inj.mp
    simp only [UInt8.toNat_ofNat', UInt8.toNat_zero]
    omega

theorem exists_encode_of_isBase64 {chars : List Char} (h : isBase64 chars = true) :
    ∃ bytes, chars = encode bytes := by
  fun_induction isBase64 chars with
  | case1 => exact ⟨[], rfl⟩
  | case2 a b =>
    rw [Bool.and_eq_true, isSome_sextet?_iff, any_sextet?_iff] at h
    obtain ⟨⟨x, hx, rfl⟩, y, hy, rfl, hUnused⟩ := h
    rw [beq_iff_eq] at hUnused
    obtain ⟨first, second, third, hGroup, hThird, hSecond⟩ :=
      exists_group (n := 64 ^ 3 * x + 64 ^ 2 * y + 64 * 0 + 0) (by omega)
    rw [hSecond (by omega), hThird (by omega)] at hGroup
    refine ⟨[first], ?_⟩
    rw [encode, hGroup, letters_digits hy (by decide) (by decide)]
    rfl
  | case3 a b c hNotPad =>
    rw [Bool.and_eq_true, Bool.and_eq_true, isSome_sextet?_iff, isSome_sextet?_iff,
      any_sextet?_iff] at h
    obtain ⟨⟨⟨x, hx, rfl⟩, y, hy, rfl⟩, z, hz, rfl, hUnused⟩ := h
    rw [beq_iff_eq] at hUnused
    obtain ⟨first, second, third, hGroup, hThird, -⟩ :=
      exists_group (n := 64 ^ 3 * x + 64 ^ 2 * y + 64 * z + 0) (by omega)
    rw [hThird (by omega)] at hGroup
    refine ⟨[first, second], ?_⟩
    rw [encode, hGroup, letters_digits hy hz (by decide)]
    rfl
  | case4 a b c d rest hNotPads hNotPad ih =>
    simp only [Bool.and_eq_true, isSome_sextet?_iff] at h
    obtain ⟨⟨⟨⟨⟨x, hx, rfl⟩, y, hy, rfl⟩, z, hz, rfl⟩, w, hw, rfl⟩, hRest⟩ := h
    obtain ⟨bytes, rfl⟩ := ih hRest
    obtain ⟨first, second, third, hGroup, -, -⟩ :=
      exists_group (n := 64 ^ 3 * x + 64 ^ 2 * y + 64 * z + w) (by omega)
    refine ⟨first :: second :: third :: bytes, ?_⟩
    rw [encode, hGroup, letters_digits hy hz hw]
    rfl
  | case5 => cases h

theorem isBase64_encode (bytes : List UInt8) : isBase64 (encode bytes) = true := by
  induction bytes using encode.induct with
  | case1 => rfl
  | case2 a =>
    obtain ⟨x, y, hx, hy, hUnused, -, hEncode⟩ := exists_digits_of_one a
    rw [hEncode]
    simp [isBase64, sextet?_letter, hx, hy, hUnused]
  | case3 a b =>
    obtain ⟨x, y, z, hx, hy, hz, hUnused, -, hEncode⟩ := exists_digits_of_two a b
    rw [hEncode]
    simp [isBase64, sextet?_letter, hx, hy, hz, hUnused, letter_ne_pad]
  | case4 a b c rest ih =>
    obtain ⟨x, y, z, w, hx, hy, hz, hw, -, hLetters⟩ := exists_digits a b c
    rw [encode, hLetters]
    simp [isBase64, sextet?_letter, hx, hy, hz, hw, ih, letter_ne_pad]

theorem decode_encode (bytes : List UInt8) : decode (encode bytes) = bytes := by
  induction bytes using encode.induct with
  | case1 => rfl
  | case2 a =>
    obtain ⟨x, y, hx, hy, -, hGroup, hEncode⟩ := exists_digits_of_one a
    rw [hEncode, decode]
    simp only [digitOf_letter hx, digitOf_letter hy, digitOf_pad, Nat.mul_zero, Nat.add_zero,
      ← hGroup, bytes_of_group]
    rfl
  | case3 a b =>
    obtain ⟨x, y, z, hx, hy, hz, -, hGroup, hEncode⟩ := exists_digits_of_two a b
    rw [hEncode, decode]
    simp only [digitOf_letter hx, digitOf_letter hy, digitOf_letter hz, digitOf_pad, Nat.add_zero,
      ← hGroup, bytes_of_group]
    simp [letter_ne_pad hz, decode]
  | case4 a b c rest ih =>
    obtain ⟨x, y, z, w, hx, hy, hz, hw, hGroup, hLetters⟩ := exists_digits a b c
    have hCount : [letter z, letter w].count '=' = 0 := by simp [letter_ne_pad hz, letter_ne_pad hw]
    rw [encode, hLetters]
    change decode (letter x :: letter y :: letter z :: letter w :: encode rest) = _
    rw [decode]
    simp only [digitOf_letter hx, digitOf_letter hy, digitOf_letter hz, digitOf_letter hw,
      ← hGroup, bytes_of_group, hCount, ih]
    rfl

/-- Letters and at most two `=` behind them, four to a group; the bits of the last letter that
padding leaves unused are zero. -/
structure Padded (body : List Char) (padding : Nat) : Prop where
  padding_le : padding ≤ 2
  groups : (body.length + padding) % 4 = 0
  letters : ∀ c ∈ body, c ∈ alphabet
  unused : ∀ c ∈ body.getLast?, digitOf c % 4 ^ padding = 0

theorem Padded.nil_iff {padding : Nat} : Padded [] padding ↔ padding = 0 := by
  constructor
  · intro h
    have hLe := h.padding_le
    have hGroups := h.groups
    rw [List.length_nil] at hGroups
    omega
  · rintro rfl
    exact ⟨by decide, rfl, nofun, nofun⟩

theorem padded_group_iff {a b c d : Char} {body : List Char} {padding : Nat} :
    Padded (a :: b :: c :: d :: body) padding ↔
      (a ∈ alphabet ∧ b ∈ alphabet ∧ c ∈ alphabet ∧ d ∈ alphabet) ∧ Padded body padding := by
  have hLetters : (∀ letter ∈ a :: b :: c :: d :: body, letter ∈ alphabet) ↔
      (a ∈ alphabet ∧ b ∈ alphabet ∧ c ∈ alphabet ∧ d ∈ alphabet) ∧
        ∀ letter ∈ body, letter ∈ alphabet := by
    simp only [List.forall_mem_cons, and_assoc]
  cases body with
  | nil =>
    rw [Padded.nil_iff]
    constructor
    · rintro ⟨hLe, hGroups, hAll, -⟩
      simp only [List.length_cons, List.length_nil] at hGroups
      exact ⟨(hLetters.mp hAll).1, by omega⟩
    · rintro ⟨hGroup, rfl⟩
      exact ⟨by decide, by simp, hLetters.mpr ⟨hGroup, nofun⟩, fun _ _ => Nat.mod_one _⟩
  | cons e body =>
    -- The last letter is that of the rest.
    constructor
    · rintro ⟨hLe, hGroups, hAll, hUnused⟩
      simp only [List.length_cons] at hGroups
      obtain ⟨hGroup, hRest⟩ := hLetters.mp hAll
      exact ⟨hGroup, hLe, by simp only [List.length_cons]; omega, hRest, hUnused⟩
    · rintro ⟨hGroup, hLe, hGroups, hAll, hUnused⟩
      simp only [List.length_cons] at hGroups
      exact ⟨hLe, by simp only [List.length_cons]; omega, hLetters.mpr ⟨hGroup, hAll⟩, hUnused⟩

theorem exists_padded_of_isBase64 {chars : List Char} (h : isBase64 chars = true) :
    ∃ body padding, Padded body padding ∧ chars = body ++ List.replicate padding '=' := by
  fun_induction isBase64 chars with
  | case1 => exact ⟨[], 0, Padded.nil_iff.mpr rfl, rfl⟩
  | case2 a b =>
    rw [Bool.and_eq_true, isSome_sextet?_iff, any_sextet?_iff] at h
    obtain ⟨hFirst, y, hy, rfl, hUnused⟩ := h
    refine ⟨[a, letter y], 2, ⟨by decide, by simp, ?_, ?_⟩, rfl⟩
    · simp [mem_alphabet_of_lt hy, mem_alphabet_iff.mpr hFirst]
    · rintro _ ⟨⟩
      change digitOf (letter y) % 16 = 0
      rw [digitOf_letter hy]
      exact beq_iff_eq.mp hUnused
  | case3 a b c hNotPad =>
    rw [Bool.and_eq_true, Bool.and_eq_true, isSome_sextet?_iff, isSome_sextet?_iff,
      any_sextet?_iff] at h
    obtain ⟨⟨hFirst, hSecond⟩, z, hz, rfl, hUnused⟩ := h
    refine ⟨[a, b, letter z], 1, ⟨by decide, by simp, ?_, ?_⟩, rfl⟩
    · simp [mem_alphabet_of_lt hz, mem_alphabet_iff.mpr hFirst, mem_alphabet_iff.mpr hSecond]
    · rintro _ ⟨⟩
      change digitOf (letter z) % 4 = 0
      rw [digitOf_letter hz]
      exact beq_iff_eq.mp hUnused
  | case4 a b c d rest hNotPads hNotPad ih =>
    simp only [Bool.and_eq_true, isSome_sextet?_iff, ← mem_alphabet_iff, and_assoc] at h
    obtain ⟨ha, hb, hc, hd, hRest⟩ := h
    obtain ⟨body, padding, hPadded, rfl⟩ := ih hRest
    exact ⟨a :: b :: c :: d :: body, padding,
      padded_group_iff.mpr ⟨⟨ha, hb, hc, hd⟩, hPadded⟩, rfl⟩
  | case5 => cases h

theorem isBase64_of_padded : ∀ {body : List Char} {padding : Nat}, Padded body padding →
    isBase64 (body ++ List.replicate padding '=') = true
  | [], padding, h => by
    rw [Padded.nil_iff.mp h]
    rfl
  | [a], padding, ⟨hLe, hGroups, _, _⟩ => by
    simp only [List.length_cons, List.length_nil] at hGroups
    omega
  | [a, b], padding, ⟨hLe, hGroups, hLetters, hUnused⟩ => by
    simp only [List.length_cons, List.length_nil] at hGroups
    obtain rfl : padding = 2 := by omega
    obtain ⟨x, hx, rfl⟩ := mem_alphabet_iff.mp (hLetters a (by simp))
    obtain ⟨y, hy, rfl⟩ := mem_alphabet_iff.mp (hLetters b (by simp))
    have hZero : y % 16 = 0 := digitOf_letter hy ▸ hUnused (letter y) rfl
    simp [isBase64, sextet?_letter, hx, hy, hZero]
  | [a, b, c], padding, ⟨hLe, hGroups, hLetters, hUnused⟩ => by
    simp only [List.length_cons, List.length_nil] at hGroups
    obtain rfl : padding = 1 := by omega
    obtain ⟨x, hx, rfl⟩ := mem_alphabet_iff.mp (hLetters a (by simp))
    obtain ⟨y, hy, rfl⟩ := mem_alphabet_iff.mp (hLetters b (by simp))
    obtain ⟨z, hz, rfl⟩ := mem_alphabet_iff.mp (hLetters c (by simp))
    have hZero : z % 4 = 0 := digitOf_letter hz ▸ hUnused (letter z) rfl
    simp [isBase64, sextet?_letter, hx, hy, hz, hZero, letter_ne_pad]
  | a :: b :: c :: d :: body, padding, h => by
    obtain ⟨⟨ha, hb, hc, hd⟩, hPadded⟩ := padded_group_iff.mp h
    have hRest := isBase64_of_padded hPadded
    obtain ⟨x, hx, rfl⟩ := mem_alphabet_iff.mp ha
    obtain ⟨y, hy, rfl⟩ := mem_alphabet_iff.mp hb
    obtain ⟨z, hz, rfl⟩ := mem_alphabet_iff.mp hc
    obtain ⟨w, hw, rfl⟩ := mem_alphabet_iff.mp hd
    simp [isBase64, sextet?_letter, hx, hy, hz, hw, hRest, letter_ne_pad]

theorem isBase64_iff_exists_encode {chars : List Char} :
    isBase64 chars = true ↔ ∃ bytes, chars = encode bytes := by
  refine ⟨exists_encode_of_isBase64, ?_⟩
  rintro ⟨bytes, rfl⟩
  exact isBase64_encode bytes

theorem isBase64_iff_exists_padded {chars : List Char} : isBase64 chars = true ↔
    ∃ body padding, Padded body padding ∧ chars = body ++ List.replicate padding '=' := by
  refine ⟨exists_padded_of_isBase64, ?_⟩
  rintro ⟨body, padding, hPadded, rfl⟩
  exact isBase64_of_padded hPadded

/-- A text is accepted exactly if it encodes some bytes, and then it encodes no others. These are the
texts of letters in groups of four, with nothing but padding for the end of the last group. -/
theorem byte_accepts_exactly_encodings (text : String) :
    (StringFormat.byte.accepts text = true ↔
      ∃! bytes : List UInt8, text = String.ofList (encode bytes)) ∧
    (StringFormat.byte.accepts text = true ↔ ∃ body padding, Padded body padding ∧
      text = String.ofList (body ++ List.replicate padding '=')) ∧
    ∀ bytes : List UInt8, StringFormat.byte.accepts (String.ofList (encode bytes)) = true := by
  have hText (chars : List Char) : text = String.ofList chars ↔ text.toList = chars := by
    rw [← String.toList_inj, String.toList_ofList]
  have hAccepts : StringFormat.byte.accepts text = isBase64 text.toList := rfl
  simp only [hText]
  refine ⟨?_, hAccepts ▸ isBase64_iff_exists_padded, ?_⟩
  · rw [hAccepts, isBase64_iff_exists_encode]
    constructor
    · rintro ⟨bytes, hBytes⟩
      refine ⟨bytes, hBytes, fun other hOther => ?_⟩
      rw [← decode_encode other, ← decode_encode bytes, ← hOther, ← hBytes]
    · rintro ⟨bytes, hBytes, -⟩
      exact ⟨bytes, hBytes⟩
  · intro bytes
    change isBase64 (String.ofList (encode bytes)).toList = true
    rw [String.toList_ofList]
    exact isBase64_encode bytes

example : encode [0x66, 0x6F, 0x6F, 0x62, 0x61] = "Zm9vYmE=".toList := by decide +kernel

end Base64

end ParamSchema.Format
