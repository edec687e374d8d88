import Mathlib.Data.List.Basic
import Mathlib.Tactic.IntervalCases
import ParamSchema.Format.Basic
import ParamSchema.Proofs.Results
import ParamSchema.Proofs.Text

/-!
# The texts of dates and times

Which characters write a day, a time of day and a date-time, and that the formats accept these
texts and no others. Whatever the bytes of a text are, none is read outside it.
-/

set_option autoImplicit false

namespace ParamSchema.Format

open Text Results

/-! ## The grammar -/

def twoDigits (n : Nat) : List Char := [Nat.digitChar (n / 10), Nat.digitChar (n % 10)]

/-- The lengths of the months in the proleptic Gregorian calendar. -/
def monthLengths (year : Nat) : List Nat :=
  [31, if 4 ∣ year ∧ (100 ∣ year → 400 ∣ year) then 29 else 28, 31, 30, 31, 30, 31, 31, 30, 31, 30,
    31]

inductive IsDate : List Char → Prop
  | mk {year month day : Nat} (hYear : year ≤ 9999) (hMonth : 1 ≤ month ∧ month ≤ 12)
      (hDay : 1 ≤ day ∧ day ≤ (monthLengths year).getD (month - 1) 0) :
    IsDate (twoDigits (year / 100) ++ twoDigits (year % 100) ++ '-' :: twoDigits month ++
      '-' :: twoDigits day)

inductive IsClock : List Char → Prop
  | mk {hour minute second : Nat} (hHour : hour ≤ 23) (hMinute : minute ≤ 59)
      (hSecond : second ≤ 59) :
    IsClock (twoDigits hour ++ ':' :: twoDigits minute ++ ':' :: twoDigits second)

inductive IsDecimals : List Char → Prop
  | none : IsDecimals []
  | point {digits : List Char} (hLength : 1 ≤ digits.length ∧ digits.length ≤ 3)
      (hDigits : ∀ c ∈ digits, c.isDigit = true) : IsDecimals ('.' :: digits)

def IsTime (text : List Char) : Prop :=
  ∃ clock decimals, IsClock clock ∧ IsDecimals decimals ∧ text = clock ++ decimals

/-- `Z`, or an offset from UTC in hours and quarter hours other than 15 minutes. -/
inductive IsOffset : List Char → Prop
  | utc : IsOffset ['Z']
  | shift {sign : Char} {hour minute : Nat}
      (hHour : sign = '-' ∧ hour ≤ 12 ∨ sign = '+' ∧ hour ≤ 14)
      (hMinute : minute ∈ [0, 30, 45]) :
    IsOffset (sign :: twoDigits hour ++ ':' :: twoDigits minute)

def IsDateTime (text : List Char) : Prop :=
  ∃ date time zone, IsDate date ∧ IsTime time ∧ IsOffset zone ∧ text = date ++ 'T' :: time ++ zone

/-! ## Digits -/

theorem exists_digitsValue? {n : Nat} (hn : n < 100) : ∃ value, value.toNat = n ∧
    digitsValue? (Nat.digitChar (n / 10)).toUInt8 (Nat.digitChar (n % 10)).toUInt8 = some value := by
  have hAll : ∀ n < 100, digitsValue? (Nat.digitChar (n / 10)).toUInt8
      (Nat.digitChar (n % 10)).toUInt8 = some (UInt8.ofNat n) := by decide
  exact ⟨UInt8.ofNat n, UInt8.toNat_ofNat_of_lt' (Nat.lt_trans hn (by decide)), hAll n hn⟩

theorem twoDigits_of_digitsValue? {tens ones value : UInt8}
    (h : digitsValue? tens ones = some value) :
    value.toNat < 100 ∧ [tens, ones] = ascii (twoDigits value.toNat) := by
  have hAll : ∀ a < 10, ∀ b < 10, (UInt8.ofNat a * 10 + UInt8.ofNat b).toNat < 100 ∧
      [UInt8.ofNat a + '0'.toUInt8, UInt8.ofNat b + '0'.toUInt8] =
        ascii (twoDigits (UInt8.ofNat a * 10 + UInt8.ofNat b).toNat) := by decide
  unfold digitsValue? at h
  dsimp only at h
  split at h
  · cases h
  · rename_i hDigits
    rw [not_or, UInt8.not_lt, UInt8.not_lt, UInt8.le_iff_toNat_le, UInt8.le_iff_toNat_le] at hDigits
    have hDigit := hAll (tens - '0'.toUInt8).toNat (Nat.lt_succ_of_le hDigits.1)
      (ones - '0'.toUInt8).toNat (Nat.lt_succ_of_le hDigits.2)
    rw [UInt8.ofNat_toNat, UInt8.ofNat_toNat, UInt8.sub_add_cancel, UInt8.sub_add_cancel,
      Option.some.inj h] at hDigit
    exact hDigit

theorem isDigitByte_toUInt8 {c : Char} (h : c.isDigit = true) : isDigitByte c.toUInt8 = true := by
  obtain ⟨hLow, hHigh⟩ := Char.isDigit_iff_toNat.mp h
  have hByte : c.toUInt8.toNat = c.toNat := by
    change c.toNat % 256 = c.toNat
    exact Nat.mod_eq_of_lt (Nat.lt_of_le_of_lt hHigh (by decide))
  rw [isDigitByte, decide_eq_true_eq, UInt8.le_iff_toNat_le, UInt8.le_iff_toNat_le, hByte]
  exact ⟨hLow, hHigh⟩

theorem toUInt8_ofUInt8 (byte : UInt8) : (Char.ofUInt8 byte).toUInt8 = byte := by
  refine UInt8.toNat.inj ?_
  change byte.toNat % 256 = byte.toNat
  exact Nat.mod_eq_of_lt byte.toNat_lt

theorem exists_ascii_of_digits {digits : List UInt8} (h : ∀ byte ∈ digits, isDigitByte byte = true) :
    ∃ chars, (∀ c ∈ chars, Char.isDigit c = true) ∧ ascii chars = digits := by
  refine ⟨digits.map Char.ofUInt8, ?_, ?_⟩
  · intro c hc
    obtain ⟨byte, hByte, rfl⟩ := List.mem_map.mp hc
    have hDigit := h byte hByte
    rw [isDigitByte, decide_eq_true_eq, UInt8.le_iff_toNat_le, UInt8.le_iff_toNat_le] at hDigit
    exact Char.isDigit_iff_toNat.mpr hDigit
  · rw [ascii, List.map_map]
    exact (List.map_congr_left fun byte _ => toUInt8_ofUInt8 byte).trans (List.map_id _)

/-! ## Dates -/

theorem isDay_iff {year month day : Nat} : isDay year month day = true ↔
    (1 ≤ month ∧ month ≤ 12) ∧ 1 ≤ day ∧ day ≤ (monthLengths year).getD (month - 1) 0 := by
  have hLeap : isLeapYear year = true ↔ 4 ∣ year ∧ (100 ∣ year → 400 ∣ year) := by
    simp only [isLeapYear, Bool.and_eq_true, Bool.or_eq_true, beq_iff_eq, bne_iff_ne]
    omega
  rw [isDay, decide_eq_true_eq, ← and_assoc]
  refine and_congr_right fun hMonth => and_congr_right fun _ => ?_
  obtain ⟨hLow, hHigh⟩ := hMonth
  rw [daysInMonth, monthLengths]
  simp only [hLeap]
  interval_cases month <;> rfl

theorem day_lt {year month day : Nat} (h : day ≤ (monthLengths year).getD (month - 1) 0) :
    day < 100 := by
  have hAll : ∀ length ∈ monthLengths year, length < 100 := by
    unfold monthLengths
    split <;> decide
  refine Nat.lt_of_le_of_lt h ?_
  rw [List.getD_eq_getElem?_getD]
  cases hLength : (monthLengths year)[month - 1]? with
  | none => decide
  | some length => exact hAll length (List.mem_of_getElem? hLength)

theorem byteAt_of_lt {bytes : List UInt8} {offset : Nat} (h : offset < bytes.length) :
    byteAt bytes offset = .ok bytes[offset] := dif_pos h

theorem twoDigitsAt_of_le {bytes : List UInt8} {offset : Nat} (h : offset + 2 ≤ bytes.length) :
    twoDigitsAt bytes offset = .ok (digitsValue? bytes[offset] bytes[offset + 1]) := by
  rw [twoDigitsAt, if_neg (by omega), byteAt_of_lt (by omega), byteAt_of_lt (by omega)]
  rfl

theorem readDate_ten (c₁ c₂ y₁ y₂ s₁ m₁ m₂ s₂ d₁ d₂ : UInt8) :
    Decides (readDate [c₁, c₂, y₁, y₂, s₁, m₁, m₂, s₂, d₁, d₂]) (· = true)
      (s₁ = '-'.toUInt8 ∧ s₂ = '-'.toUInt8 ∧ ∃ century, digitsValue? c₁ c₂ = some century ∧
        ∃ year, digitsValue? y₁ y₂ = some year ∧ ∃ month, digitsValue? m₁ m₂ = some month ∧
        ∃ day, digitsValue? d₁ d₂ = some day ∧
        isDay (100 * century.toNat + year.toNat) month.toNat day.toNat = true) := by
  unfold readDate
  rw [if_neg (by simp)]
  simp (disch := simp) only [byteAt_of_lt, twoDigitsAt_of_le, ok_bind, List.getElem_cons_succ,
    List.getElem_cons_zero]
  refine .guard Bool.false_ne_true (fun hNe => if_pos hNe) fun hFirst => ?_
  rw [if_neg (not_not_intro hFirst)]
  refine .guard Bool.false_ne_true (fun hNe => if_pos hNe) fun hSecond => ?_
  rw [if_neg (not_not_intro hSecond)]
  refine .option Bool.false_ne_true (fun hNone => by rw [hNone]; rfl) fun century hCentury => ?_
  rw [hCentury]
  refine .option Bool.false_ne_true (fun hNone => by rw [hNone]; rfl) fun year hYear => ?_
  rw [hYear]
  refine .option Bool.false_ne_true (fun hNone => by rw [hNone]; rfl) fun month hMonth => ?_
  rw [hMonth]
  refine .option Bool.false_ne_true (fun hNone => by rw [hNone]; rfl) fun day hDay => ?_
  rw [hDay]
  exact .ok _

theorem decides_readDate (bytes : List UInt8) :
    Decides (readDate bytes) (· = true) (∃ date, IsDate date ∧ bytes = ascii date) := by
  by_cases hLength : bytes.length = 10
  · match bytes, hLength with
    | [c₁, c₂, y₁, y₂, s₁, m₁, m₂, s₂, d₁, d₂], _ =>
      refine (readDate_ten c₁ c₂ y₁ y₂ s₁ m₁ m₂ s₂ d₁ d₂).congr ⟨?_, ?_⟩
      · rintro ⟨rfl, rfl, century, hCentury, year, hYear, month, hMonth, day, hDay, hDate⟩
        obtain ⟨hCentury, hC⟩ := twoDigits_of_digitsValue? hCentury
        obtain ⟨hYear, hY⟩ := twoDigits_of_digitsValue? hYear
        obtain ⟨-, hM⟩ := twoDigits_of_digitsValue? hMonth
        obtain ⟨-, hD⟩ := twoDigits_of_digitsValue? hDay
        obtain ⟨hMonth, hDay⟩ := isDay_iff.mp hDate
        refine ⟨_, .mk (by omega) hMonth hDay, ?_⟩
        rw [show (100 * century.toNat + year.toNat) / 100 = century.toNat by omega,
          show (100 * century.toNat + year.toNat) % 100 = year.toNat by omega]
        simp only [ascii_append, ascii_cons, ← hC, ← hY, ← hM, ← hD, List.cons_append,
          List.nil_append]
      · rintro ⟨_, @⟨year, month, day, hYear, hMonth, hDay⟩, hDate⟩
        cases hDate
        obtain ⟨century, hC, hCentury⟩ := @exists_digitsValue? (year / 100) (by omega)
        obtain ⟨rest, hR, hRest⟩ := @exists_digitsValue? (year % 100) (by omega)
        obtain ⟨month, rfl, hM⟩ := @exists_digitsValue? month (by omega)
        obtain ⟨day, rfl, hD⟩ := @exists_digitsValue? day (day_lt hDay.2)
        have hNumber : 100 * century.toNat + rest.toNat = year := by omega
        exact ⟨rfl, rfl, century, hCentury, rest, hRest, month, hM, day, hD,
          isDay_iff.mpr (hNumber.symm ▸ ⟨hMonth, hDay⟩)⟩
  · refine .refuse (if_pos hLength) Bool.false_ne_true ?_
    rintro ⟨_, ⟨_, _, _⟩, rfl⟩
    exact hLength rfl

/-! ## Offsets from UTC -/

theorem readOffset_six (sign h₁ h₂ colon m₁ m₂ : UInt8) :
    Decides (readOffset [sign, h₁, h₂, colon, m₁, m₂]) (· = true)
      (¬((sign ≠ '+'.toUInt8 ∧ sign ≠ '-'.toUInt8) ∨ colon ≠ ':'.toUInt8) ∧
        ∃ hour, digitsValue? h₁ h₂ = some hour ∧ ∃ minute, digitsValue? m₁ m₂ = some minute ∧
        (decide (hour ≤ if sign = '-'.toUInt8 then 12 else 14) &&
          (minute == 0 || minute == 30 || minute == 45)) = true) := by
  unfold readOffset
  simp (disch := simp) only [twoDigitsAt_of_le, ok_bind, List.getElem_cons_succ,
    List.getElem_cons_zero]
  refine .guard Bool.false_ne_true (fun hNot => if_pos (not_not.mp hNot)) fun hMarks => ?_
  rw [if_neg hMarks]
  refine .option Bool.false_ne_true (fun hNone => by rw [hNone]; rfl) fun hour hHour => ?_
  rw [hHour]
  refine .option Bool.false_ne_true (fun hNone => by rw [hNone]; rfl) fun minute hMinute => ?_
  rw [hMinute]
  exact .ok _

theorem mem_quarters_iff {minute : UInt8} :
    (minute == 0 || minute == 30 || minute == 45) = true ↔ minute.toNat ∈ [0, 30, 45] := by
  simp only [Bool.or_eq_true, beq_iff_eq, ← UInt8.toNat_inj, List.mem_cons, List.not_mem_nil,
    or_false, or_assoc]
  rfl

theorem decides_readOffset (bytes : List UInt8) :
    Decides (readOffset bytes) (· = true) (∃ zone, IsOffset zone ∧ bytes = ascii zone) := by
  unfold readOffset
  split
  · rename_i letter
    refine (Decides.ok (letter == 'Z'.toUInt8)).congr ?_
    rw [beq_iff_eq]
    constructor
    · rintro rfl
      exact ⟨_, .utc, rfl⟩
    · rintro ⟨_, hZone, hEq⟩
      cases hZone <;> cases hEq
      rfl
  · rename_i sign h₁ h₂ colon m₁ m₂
    refine (readOffset_six sign h₁ h₂ colon m₁ m₂).congr ⟨?_, ?_⟩
    · rintro ⟨hMarks, hour, hHour, minute, hMinute, hRange⟩
      obtain ⟨-, hH⟩ := twoDigits_of_digitsValue? hHour
      obtain ⟨-, hM⟩ := twoDigits_of_digitsValue? hMinute
      rw [Bool.and_eq_true, decide_eq_true_eq, mem_quarters_iff] at hRange
      rw [not_or, not_not, not_and_or, not_not, not_not] at hMarks
      obtain ⟨hSign, rfl⟩ := hMarks
      have hEq {sign : Char} : [sign.toUInt8, h₁, h₂, ':'.toUInt8, m₁, m₂] =
          ascii (sign :: twoDigits hour.toNat ++ ':' :: twoDigits minute.toNat) := by
        simp only [List.cons_append, ascii_append, ascii_cons, ← hH, ← hM, List.nil_append]
      rcases hSign with rfl | rfl
      · exact ⟨_, .shift (.inr ⟨rfl, UInt8.le_iff_toNat_le.mp hRange.1⟩) hRange.2, hEq⟩
      · exact ⟨_, .shift (.inl ⟨rfl, UInt8.le_iff_toNat_le.mp hRange.1⟩) hRange.2, hEq⟩
    · rintro ⟨_, hZone, hEq⟩
      cases hZone with
      | utc => cases hEq
      | @shift sign hour minute hHour hMinute =>
        cases hEq
        have hMost : minute < 100 := by
          simp only [List.mem_cons, List.not_mem_nil, or_false] at hMinute
          omega
        obtain ⟨hour, rfl, hH⟩ := @exists_digitsValue? hour (by omega)
        obtain ⟨minute, rfl, hM⟩ := exists_digitsValue? hMost
        rw [← mem_quarters_iff] at hMinute
        obtain ⟨rfl, hHour⟩ | ⟨rfl, hHour⟩ := hHour
        · exact ⟨by decide, hour, hH, minute, hM,
            Bool.and_eq_true_iff.mpr ⟨decide_eq_true (UInt8.le_iff_toNat_le.mpr hHour), hMinute⟩⟩
        · exact ⟨by decide, hour, hH, minute, hM,
            Bool.and_eq_true_iff.mpr ⟨decide_eq_true (UInt8.le_iff_toNat_le.mpr hHour), hMinute⟩⟩
  · rename_i hOne hSix
    refine .refuse rfl Bool.false_ne_true ?_
    rintro ⟨_, hZone, rfl⟩
    cases hZone with
    | utc => exact hOne _ rfl
    | shift => exact hSix _ _ _ _ _ _ rfl

/-! ## Times -/

theorem afterDigits_eq (bytes : List UInt8) (offset : Nat) :
    afterDigits bytes offset = offset + ((bytes.drop offset).takeWhile isDigitByte).length := by
  induction offset using afterDigits.induct bytes with
  | case1 offset hLess hDigit ih =>
    rw [afterDigits, dif_pos hLess, if_pos hDigit, ih, List.drop_eq_getElem_cons hLess,
      List.takeWhile_cons_of_pos hDigit, List.length_cons]
    omega
  | case2 offset hLess hOther =>
    rw [afterDigits, dif_pos hLess, if_neg hOther, List.drop_eq_getElem_cons hLess,
      List.takeWhile_cons_of_neg hOther]
    rfl
  | case3 offset hEnd =>
    rw [afterDigits, dif_neg hEnd, List.drop_eq_nil_of_le (Nat.le_of_not_lt hEnd)]
    rfl

theorem of_afterDecimals? {bytes : List UInt8} {offset last : Nat}
    (h : afterDecimals? bytes offset = some last) :
    ∃ decimals, IsDecimals decimals ∧ bytes.drop offset = ascii decimals ++ bytes.drop last ∧
      last = offset + decimals.length := by
  unfold afterDecimals? at h
  split at h
  · rename_i hPoint
    obtain ⟨hLess, hPoint⟩ := List.getElem?_eq_some_iff.mp hPoint
    have hSplit := List.prefix_iff_eq_append.mp
      (List.takeWhile_prefix isDigitByte (l := bytes.drop (offset + 1)))
    have hAll := List.all_eq_true.mp (@List.all_takeWhile _ isDigitByte (bytes.drop (offset + 1)))
    obtain ⟨digits, hDigits, hEq⟩ := exists_ascii_of_digits hAll
    dsimp only at h
    rw [afterDigits_eq, ← hEq, length_ascii, Nat.add_sub_cancel_left] at h
    rw [← hEq, length_ascii, List.drop_drop] at hSplit
    split at h
    · rename_i hCount
      cases h
      refine ⟨'.' :: digits, .point hCount hDigits, ?_, ?_⟩
      · rw [List.drop_eq_getElem_cons hLess, hPoint, ascii_cons, List.cons_append, hSplit]
      · rw [List.length_cons]
        omega
    · cases h
  · cases h
    exact ⟨[], .none, rfl, rfl⟩

def EndsDecimals (rest : List UInt8) : Prop :=
  ∀ byte ∈ rest.head?, byte ≠ '.'.toUInt8 ∧ isDigitByte byte = false

theorem takeWhile_digits {digits : List Char} (hDigits : ∀ c ∈ digits, c.isDigit = true)
    {rest : List UInt8} (hRest : EndsDecimals rest) :
    (ascii digits ++ rest).takeWhile isDigitByte = ascii digits := by
  have hAll : ∀ byte ∈ ascii digits, isDigitByte byte = true := by
    intro byte hByte
    obtain ⟨c, hc, rfl⟩ := List.mem_map.mp hByte
    exact isDigitByte_toUInt8 (hDigits c hc)
  refine takeWhile_run hAll fun byte hByte => ?_
  rw [(hRest byte hByte).2]
  exact Bool.false_ne_true

theorem afterDecimals?_ascii {decimals : List Char} (h : IsDecimals decimals) (front : List UInt8)
    {rest : List UInt8} (hRest : EndsDecimals rest) :
    afterDecimals? (front ++ (ascii decimals ++ rest)) front.length =
      some (front.length + decimals.length) := by
  have hHead : (front ++ (ascii decimals ++ rest))[front.length]? =
      (ascii decimals ++ rest).head? := by
    rw [List.getElem?_append_right (Nat.le_refl _), Nat.sub_self, List.head?_eq_getElem?]
  unfold afterDecimals?
  rw [hHead]
  cases h with
  | none =>
    rw [if_neg]
    · rfl
    · intro hPoint
      exact (hRest _ hPoint).1 rfl
  | @point digits hLength hDigits =>
    have hDrop : (front ++ (ascii ('.' :: digits) ++ rest)).drop (front.length + 1) =
        ascii digits ++ rest := by
      rw [List.drop_length_add_append]
      rfl
    have hPoint : (ascii ('.' :: digits) ++ rest).head? = some '.'.toUInt8 := rfl
    rw [if_pos hPoint]
    dsimp only
    rw [afterDigits_eq, hDrop, takeWhile_digits hDigits hRest, length_ascii, Nat.add_sub_cancel_left,
      if_pos hLength, List.length_cons, Nat.add_right_comm, Nat.add_assoc]

theorem timeLength_eight (h₁ h₂ s₁ m₁ m₂ s₂ c₁ c₂ : UInt8) (rest : List UInt8) (length : Nat) :
    Decides (timeLength (h₁ :: h₂ :: s₁ :: m₁ :: m₂ :: s₂ :: c₁ :: c₂ :: rest)) (· = some length)
      (s₁ = ':'.toUInt8 ∧ s₂ = ':'.toUInt8 ∧ ∃ hour, digitsValue? h₁ h₂ = some hour ∧
        ∃ minute, digitsValue? m₁ m₂ = some minute ∧ ∃ second, digitsValue? c₁ c₂ = some second ∧
        ¬(23 < hour ∨ 59 < minute ∨ 59 < second) ∧
        afterDecimals? (h₁ :: h₂ :: s₁ :: m₁ :: m₂ :: s₂ :: c₁ :: c₂ :: rest) 8 = some length) := by
  have hNever : ¬none = some length := nofun
  unfold timeLength
  rw [if_neg (by simp)]
  simp (disch := simp) only [byteAt_of_lt, twoDigitsAt_of_le, ok_bind, List.getElem_cons_succ,
    List.getElem_cons_zero]
  refine .guard hNever (fun hNe => if_pos hNe) fun hFirst => ?_
  rw [if_neg (not_not_intro hFirst)]
  refine .guard hNever (fun hNe => if_pos hNe) fun hSecond => ?_
  rw [if_neg (not_not_intro hSecond)]
  refine .option hNever (fun hNone => by rw [hNone]; rfl) fun hour hHour => ?_
  rw [hHour]
  refine .option hNever (fun hNone => by rw [hNone]; rfl) fun minute hMinute => ?_
  rw [hMinute]
  refine .option hNever (fun hNone => by rw [hNone]; rfl) fun second hSecond => ?_
  rw [hSecond]
  dsimp only
  refine .guard hNever (fun hNot => if_pos (not_not.mp hNot)) fun hRange => ?_
  rw [if_neg hRange]
  exact .ok _

/-- A time that is found is the start of the bytes. -/
theorem exists_timeLength (bytes : List UInt8) : ∃ found, timeLength bytes = .ok found ∧
    ∀ length, found = some length →
      ∃ time, IsTime time ∧ bytes = ascii time ++ bytes.drop length ∧ length = time.length := by
  by_cases hShort : bytes.length < 8
  · exact ⟨none, if_pos hShort, nofun⟩
  · -- the eight bytes of a clock by name, so that each offset is one of them
    obtain ⟨front, rest, rfl, hFront⟩ : ∃ front rest, bytes = front ++ rest ∧ front.length = 8 :=
      ⟨bytes.take 8, bytes.drop 8, (List.take_append_drop 8 bytes).symm,
        List.length_take_of_le (Nat.le_of_not_lt hShort)⟩
    match front, hFront with
    | [h₁, h₂, s₁, m₁, m₂, s₂, c₁, c₂], _ =>
      obtain ⟨found, hFound⟩ := (timeLength_eight h₁ h₂ s₁ m₁ m₂ s₂ c₁ c₂ rest 0).exists_ok
      refine ⟨found, hFound, fun length hLength => ?_⟩
      have hParts := ((timeLength_eight h₁ h₂ s₁ m₁ m₂ s₂ c₁ c₂ rest length).accepted_iff hFound).mp
        hLength
      obtain ⟨rfl, rfl, hour, hHour, minute, hMinute, second, hSecond, hRange, hEnd⟩ := hParts
      obtain ⟨-, hH⟩ := twoDigits_of_digitsValue? hHour
      obtain ⟨-, hM⟩ := twoDigits_of_digitsValue? hMinute
      obtain ⟨-, hS⟩ := twoDigits_of_digitsValue? hSecond
      obtain ⟨decimals, hDecimals, hDrop, rfl⟩ := of_afterDecimals? hEnd
      simp only [not_or, UInt8.not_lt, UInt8.le_iff_toNat_le] at hRange
      have hClock : [h₁, h₂, ':'.toUInt8, m₁, m₂, ':'.toUInt8, c₁, c₂] = ascii
          (twoDigits hour.toNat ++ ':' :: twoDigits minute.toNat ++ ':' ::
            twoDigits second.toNat) := by
        simp only [ascii_append, ascii_cons, ← hH, ← hM, ← hS, List.cons_append, List.nil_append]
      refine ⟨_, ⟨_, decimals, .mk hRange.1 hRange.2.1 hRange.2.2, hDecimals, rfl⟩, ?_, ?_⟩
      · rw [ascii_append, List.append_assoc, ← hClock]
        exact congrArg _ hDrop
      · rw [List.length_append]
        rfl

theorem timeLength_ascii {time : List Char} (hTime : IsTime time) {rest : List UInt8}
    (hRest : EndsDecimals rest) : timeLength (ascii time ++ rest) = .ok (some time.length) := by
  obtain ⟨_, decimals, @⟨hour, minute, second, hHour, hMinute, hSecond⟩, hDecimals, rfl⟩ := hTime
  obtain ⟨hour, rfl, hH⟩ := @exists_digitsValue? hour (by omega)
  obtain ⟨minute, rfl, hM⟩ := @exists_digitsValue? minute (by omega)
  obtain ⟨second, rfl, hS⟩ := @exists_digitsValue? second (by omega)
  have hRange : ¬(23 < hour ∨ 59 < minute ∨ 59 < second) := by
    simp only [not_or, UInt8.not_lt, UInt8.le_iff_toNat_le]
    exact ⟨hHour, hMinute, hSecond⟩
  obtain ⟨found, hFound, hLength⟩ := timeLength_eight _ _ _ _ _ _ _ _ (ascii decimals ++ rest)
    (8 + decimals.length)
  rw [hLength.mpr ⟨rfl, rfl, hour, hH, minute, hM, second, hS, hRange,
    afterDecimals?_ascii hDecimals [_, _, _, _, _, _, _, _] hRest⟩] at hFound
  rw [ascii_append, List.append_assoc, List.length_append]
  exact hFound

theorem decides_readTime (bytes : List UInt8) :
    Decides (readTime bytes) (· = true) (∃ time, IsTime time ∧ bytes = ascii time) := by
  obtain ⟨found, hFound, hSound⟩ := exists_timeLength bytes
  refine ⟨found == some bytes.length, by rw [readTime, hFound]; rfl, ?_⟩
  change (found == some bytes.length) = true ↔ _
  rw [beq_iff_eq]
  constructor
  · intro hAll
    obtain ⟨time, hTime, hBytes, -⟩ := hSound _ hAll
    rw [List.drop_length, List.append_nil] at hBytes
    exact ⟨time, hTime, hBytes⟩
  · rintro ⟨time, hTime, rfl⟩
    have hEmpty : EndsDecimals [] := nofun
    have hLength := timeLength_ascii hTime hEmpty
    rw [List.append_nil, hFound] at hLength
    rw [Except.ok.inj hLength, length_ascii]

/-! ## Dates with times -/

theorem endsDecimals_of_isOffset {zone : List Char} (h : IsOffset zone) :
    EndsDecimals (ascii zone) := by
  intro byte hByte
  cases h with
  | utc =>
    cases hByte
    decide
  | shift hHour =>
    cases hByte
    obtain ⟨rfl, -⟩ | ⟨rfl, -⟩ := hHour <;> decide

theorem bytesFrom_separated {front : List UInt8} (hFront : front.length = 10) {rest : List UInt8}
    {length : Nat} (hLength : length ≤ rest.length) :
    bytesFrom (front ++ 'T'.toUInt8 :: rest) (11 + length) = .ok (rest.drop length) := by
  have hSeparator : (front ++ ['T'.toUInt8]).length = 11 := by
    rw [List.length_append, hFront]
    rfl
  rw [List.append_cons, bytesFrom, if_pos, ← List.drop_drop, List.drop_left' hSeparator]
  rw [List.length_append, hSeparator]
  exact Nat.add_le_add_left hLength 11

/-- The separator stands after ten bytes, which cut no character. -/
theorem readDateTime_separated {front : List UInt8} (hFront : front.length = 10)
    (rest : List UInt8) :
    readDateTime (front ++ 'T'.toUInt8 :: rest) = (do
      if !(← readDate front) then
        return false
      let some length ← timeLength rest | return false
      readOffset (← bytesFrom (front ++ 'T'.toUInt8 :: rest) (11 + length))) := by
  have hLength : (front ++ 'T'.toUInt8 :: rest).length = 11 + rest.length := by
    rw [List.length_append, List.length_cons]
    omega
  have hByte : byteAt (front ++ 'T'.toUInt8 :: rest) 10 = .ok 'T'.toUInt8 := by
    rw [byteAt_of_lt (by omega), List.getElem_append_right (by omega)]
    simp only [hFront, Nat.sub_self, List.getElem_cons_zero]
  have hBefore : bytesBefore? (front ++ 'T'.toUInt8 :: rest) 10 = some front := by
    have hBoundary : isBoundary (front ++ 'T'.toUInt8 :: rest) 10 = true := by
      rw [isBoundary, List.getElem?_append_right (by omega), hFront]
      rfl
    rw [bytesBefore?, if_pos hBoundary, List.take_left' hFront]
  have hFrom := bytesFrom_separated hFront (Nat.zero_le rest.length)
  unfold readDateTime
  rw [if_neg (by omega), hByte, hBefore]
  simp only [Nat.add_zero, List.drop_zero] at hFrom
  rw [hFrom]
  rfl

theorem length_of_isDate {date : List Char} (h : IsDate date) : date.length = 10 := by
  obtain ⟨-, -, -⟩ := h
  rfl

theorem decides_after_separator {front : List UInt8} (hFront : front.length = 10)
    (rest : List UInt8) :
    Decides (readDateTime (front ++ 'T'.toUInt8 :: rest)) (· = true)
      ((∃ date, IsDate date ∧ front = ascii date) ∧
        ∃ time zone, IsTime time ∧ IsOffset zone ∧ rest = ascii time ++ ascii zone) := by
  obtain ⟨day, hDay, hIsDate⟩ := decides_readDate front
  obtain ⟨found, hFound, hSound⟩ := exists_timeLength rest
  rw [readDateTime_separated hFront, hDay, ok_bind]
  refine .guard Bool.false_ne_true (fun hNot => if_pos ?_) fun hDate => ?_
  · rw [Bool.not_eq_true', ← Bool.not_eq_true]
    exact fun h => hNot (hIsDate.mp h)
  rw [hIsDate.mpr hDate, Bool.not_true, if_neg Bool.false_ne_true, hFound]
  cases found with
  | none =>
    refine .refuse rfl Bool.false_ne_true ?_
    rintro ⟨time, zone, hTime, hZone, rfl⟩
    cases (timeLength_ascii hTime (endsDecimals_of_isOffset hZone)).symm.trans hFound
  | some length =>
    obtain ⟨time, hTime, hRest, rfl⟩ := hSound length rfl
    have hLength := congrArg List.length hRest
    rw [List.length_append, length_ascii] at hLength
    simp only [ok_bind, bytesFrom_separated hFront (hLength.ge.trans' (Nat.le_add_right _ _))]
    -- a time that can be followed by an offset is the only one at the start of the rest
    refine (decides_readOffset (rest.drop time.length)).congr ⟨?_, ?_⟩
    · rintro ⟨zone, hZone, hEq⟩
      exact ⟨time, zone, hTime, hZone, hEq ▸ hRest⟩
    · rintro ⟨time', zone, hTime', hZone, rfl⟩
      rw [timeLength_ascii hTime' (endsDecimals_of_isOffset hZone)] at hFound
      rw [← Option.some.inj (Except.ok.inj hFound)]
      exact ⟨zone, hZone, List.drop_left' (length_ascii time')⟩

theorem decides_readDateTime (bytes : List UInt8) : Decides (readDateTime bytes) (· = true)
    (∃ text, IsDateTime text ∧ bytes = ascii text) := by
  have hJoin (date time zone : List Char) : ascii (date ++ 'T' :: time ++ zone) =
      ascii date ++ 'T'.toUInt8 :: (ascii time ++ ascii zone) := by
    simp only [ascii_append, ascii_cons, List.append_assoc, List.cons_append]
  -- without the separator nothing else is looked at
  by_cases hSeparated : ∃ front rest, front.length = 10 ∧ bytes = front ++ 'T'.toUInt8 :: rest
  · obtain ⟨front, rest, hFront, rfl⟩ := hSeparated
    refine (decides_after_separator hFront rest).congr ⟨?_, ?_⟩
    · rintro ⟨⟨date, hDate, rfl⟩, time, zone, hTime, hZone, rfl⟩
      exact ⟨_, ⟨date, time, zone, hDate, hTime, hZone, rfl⟩, (hJoin date time zone).symm⟩
    · rintro ⟨_, ⟨date, time, zone, hDate, hTime, hZone, rfl⟩, hEq⟩
      have hLength : front.length = (ascii date).length := by
        rw [hFront, length_ascii, length_of_isDate hDate]
      obtain ⟨rfl, hTail⟩ := List.append_inj (hEq.trans (hJoin date time zone)) hLength
      exact ⟨⟨date, hDate, rfl⟩, time, zone, hTime, hZone, (List.cons.inj hTail).2⟩
  · refine .refuse ?_ Bool.false_ne_true ?_
    · unfold readDateTime
      by_cases hShort : bytes.length < 11
      · exact if_pos hShort
      · have hTen : 10 < bytes.length := by omega
        rw [if_neg hShort, byteAt_of_lt hTen, ok_bind, if_pos]
        · rfl
        · intro hByte
          refine hSeparated ⟨bytes.take 10, bytes.drop 11, List.length_take_of_le hTen.le, ?_⟩
          rw [← hByte, ← List.drop_eq_getElem_cons hTen, List.take_append_drop]
    · rintro ⟨_, ⟨date, time, zone, hDate, -, -, rfl⟩, rfl⟩
      exact hSeparated ⟨ascii date, _, (length_ascii date).trans (length_of_isDate hDate),
        hJoin date time zone⟩

/-! ## Characters -/

theorem twoDigits_lt (n : Nat) : ∀ c ∈ twoDigits n, c.toNat < 128 := by
  have hDigit (k : Nat) : (Nat.digitChar k).toNat < 128 := by
    by_cases hk : k < 16
    · exact (by decide : ∀ k < 16, (Nat.digitChar k).toNat < 128) k hk
    · rw [Nat.digitChar_eq_star.mpr (Nat.le_of_not_lt hk)]
      decide
  simp only [twoDigits, List.forall_mem_cons, hDigit, true_and]
  exact nofun

theorem isDate_lt {date : List Char} (h : IsDate date) : ∀ c ∈ date, c.toNat < 128 := by
  obtain ⟨-, -, -⟩ := h
  simp only [List.forall_mem_append, List.forall_mem_cons]
  exact ⟨⟨⟨twoDigits_lt _, twoDigits_lt _⟩, by decide, twoDigits_lt _⟩, by decide, twoDigits_lt _⟩

theorem isTime_lt {time : List Char} (h : IsTime time) : ∀ c ∈ time, c.toNat < 128 := by
  obtain ⟨_, decimals, ⟨-, -, -⟩, hDecimals, rfl⟩ := h
  simp only [List.forall_mem_append, List.forall_mem_cons]
  refine ⟨⟨⟨twoDigits_lt _, by decide, twoDigits_lt _⟩, by decide, twoDigits_lt _⟩, ?_⟩
  cases hDecimals with
  | none => exact nofun
  | point _ hDigits =>
    refine List.forall_mem_cons.mpr ⟨by decide, fun c hc => ?_⟩
    exact Nat.lt_of_le_of_lt (Char.isDigit_iff_toNat.mp (hDigits c hc)).2 (by decide)

theorem isOffset_lt {zone : List Char} (h : IsOffset zone) : ∀ c ∈ zone, c.toNat < 128 := by
  cases h with
  | utc => exact List.forall_mem_cons.mpr ⟨by decide, nofun⟩
  | shift hHour =>
    simp only [List.forall_mem_append, List.forall_mem_cons, List.cons_append]
    refine ⟨?_, twoDigits_lt _, by decide, twoDigits_lt _⟩
    obtain ⟨rfl, -⟩ | ⟨rfl, -⟩ := hHour <;> decide

theorem isDateTime_lt {text : List Char} (h : IsDateTime text) : ∀ c ∈ text, c.toNat < 128 := by
  obtain ⟨date, time, zone, hDate, hTime, hZone, rfl⟩ := h
  simp only [List.forall_mem_append, List.forall_mem_cons]
  exact ⟨⟨isDate_lt hDate, by decide, isTime_lt hTime⟩, isOffset_lt hZone⟩

/-- What is decided about the bytes of a text is decided about its characters. -/
theorem decides_chars {text : String} {result : Except OutOfRange Bool} {grammar : List Char → Prop}
    (hAscii : ∀ chars, grammar chars → ∀ c ∈ chars, c.toNat < 128)
    (h : Decides result (· = true) (∃ chars, grammar chars ∧ bytes text = ascii chars)) :
    Decides result (· = true) (grammar text.toList) := by
  refine h.congr ⟨?_, fun hText => ⟨_, hText, ?_⟩⟩
  · rintro ⟨chars, hChars, hBytes⟩
    rw [(bytes_eq_ascii_iff (hAscii chars hChars)).mp hBytes, String.toList_ofList]
    exact hChars
  · rw [bytes_eq_ascii_iff (hAscii _ hText), String.ofList_toList]

theorem decides_date (text : String) :
    Decides (StringFormat.date.read text) (· = true) (IsDate text.toList) :=
  decides_chars (fun _ => isDate_lt) (decides_readDate (bytes text))

theorem decides_time (text : String) :
    Decides (StringFormat.time.read text) (· = true) (IsTime text.toList) :=
  decides_chars (fun _ => isTime_lt) (decides_readTime (bytes text))

theorem decides_dateTime (text : String) :
    Decides (StringFormat.dateTime.read text) (· = true) (IsDateTime text.toList) :=
  decides_chars (fun _ => isDateTime_lt) (decides_readDateTime (bytes text))

end ParamSchema.Format

namespace ParamSchema.StringFormat

open Format Results

theorem accepts_iff {format : StringFormat} {text : String} {holds : Prop}
    (h : Decides (format.read text) (· = true) holds) : format.accepts text = true ↔ holds := by
  obtain ⟨accepted, hRead, hHolds⟩ := h
  rw [accepts, hRead]
  exact hHolds

theorem dateTime_accepts_iff (text : String) : dateTime.accepts text = true ↔
    ∃ day clock zone : String, text = day ++ "T" ++ clock ++ zone ∧
      date.accepts day = true ∧ time.accepts clock = true ∧ IsOffset zone.toList := by
  simp only [accepts_iff (decides_dateTime _), accepts_iff (decides_date _),
    accepts_iff (decides_time _), IsDateTime]
  constructor
  · rintro ⟨date, time, zone, hDate, hTime, hZone, hText⟩
    refine ⟨.ofList date, .ofList time, .ofList zone, String.toList_inj.mp ?_, ?_⟩
    · simp only [String.toList_append, String.toList_ofList, hText, List.append_assoc]
      rfl
    · simp only [String.toList_ofList]
      exact ⟨hDate, hTime, hZone⟩
  · rintro ⟨day, clock, zone, rfl, hDay, hClock, hZone⟩
    refine ⟨_, _, _, hDay, hClock, hZone, ?_⟩
    simp only [String.toList_append, List.append_assoc]
    rfl

theorem accepts_exactly_dates_and_times (text : String) :
    (date.accepts text = true ↔ IsDate text.toList) ∧
    (time.accepts text = true ↔ IsTime text.toList) ∧
    (dateTime.accepts text = true ↔ ∃ day clock zone : String, text = day ++ "T" ++ clock ++ zone ∧
      date.accepts day = true ∧ time.accepts clock = true ∧ IsOffset zone.toList) ∧
    ∀ format : StringFormat, ∃ accepted, format.read text = .ok accepted := by
  refine ⟨accepts_iff (decides_date text), accepts_iff (decides_time text),
    dateTime_accepts_iff text, fun format => ?_⟩
  cases format with
  | dateTime => exact (decides_dateTime text).exists_ok
  | date => exact (decides_date text).exists_ok
  | time => exact (decides_time text).exists_ok
  | byte => exact ⟨_, rfl⟩

end ParamSchema.StringFormat
