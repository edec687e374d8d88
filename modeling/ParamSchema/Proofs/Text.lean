import Mathlib.Data.List.Basic
import Mathlib.Data.List.TakeWhile
import ParamSchema.Text.Bytes

/-!
# Texts and their bytes

A text is known by its bytes, and the bytes of ASCII characters are these characters. So what
is found out about ASCII bytes holds of the characters of the text. A run at the start of a text
ends where the text ends or at the first character that does not belong to it.
-/

set_option autoImplicit false

namespace ParamSchema.Text

theorem bytes_injective {text other : String} (h : bytes text = bytes other) : text = other := by
  unfold bytes at h
  rw [String.toUTF8_eq_toByteArray, String.toUTF8_eq_toByteArray] at h
  exact String.toByteArray_inj.mp (ByteArray.ext (Array.toList_inj.mp h))

theorem truncate_append {kept cut : String} {length : Nat} (hLength : length = kept.utf8ByteSize)
    (hValid : String.Pos.Raw.IsValid (kept ++ cut) ⟨length⟩) :
    truncate (kept ++ cut) length hValid = kept := by
  subst hLength
  exact (String.Pos.splits _).eq_left ⟨rfl, rfl⟩

def ascii (chars : List Char) : List UInt8 := chars.map Char.toUInt8

theorem ascii_append (chars others : List Char) :
    ascii (chars ++ others) = ascii chars ++ ascii others :=
  List.map_append

theorem ascii_cons (c : Char) (chars : List Char) :
    ascii (c :: chars) = c.toUInt8 :: ascii chars := rfl

theorem length_ascii (chars : List Char) : (ascii chars).length = chars.length := List.length_map _

theorem utf8EncodeChar_of_ascii {c : Char} (h : c.toNat < 128) :
    String.utf8EncodeChar c = [c.toUInt8] := by
  have hCode : c.val ≤ 127 := UInt32.le_iff_toNat_le.mpr (Nat.le_of_lt_succ h)
  exact String.utf8EncodeChar_eq_singleton (Char.utf8Size_eq_one_iff.mpr hCode)

theorem bytes_ofList {chars : List Char} (h : ∀ c ∈ chars, c.toNat < 128) :
    bytes (String.ofList chars) = ascii chars := by
  rw [bytes, String.toUTF8_eq_toByteArray, String.toByteArray_ofList, List.utf8Encode,
    List.data_toByteArray, List.toList_toArray, ascii, List.map_eq_flatMap]
  exact List.flatMap_congr fun c hc => utf8EncodeChar_of_ascii (h c hc)

theorem bytes_eq_ascii_iff {text : String} {chars : List Char} (h : ∀ c ∈ chars, c.toNat < 128) :
    bytes text = ascii chars ↔ text = String.ofList chars := by
  rw [← bytes_ofList h]
  exact ⟨bytes_injective, congrArg bytes⟩

section

variable {α : Type} {p : α → Bool} {run rest : List α}

theorem takeWhile_run (hRun : ∀ a ∈ run, p a = true) (hRest : ∀ a ∈ rest.head?, ¬p a = true) :
    (run ++ rest).takeWhile p = run := by
  rw [List.takeWhile_append_of_pos hRun]
  cases rest with
  | nil => exact List.append_nil run
  | cons a rest => rw [List.takeWhile_cons_of_neg (hRest a rfl), List.append_nil]

theorem dropWhile_run (hRun : ∀ a ∈ run, p a = true) (hRest : ∀ a ∈ rest.head?, ¬p a = true) :
    (run ++ rest).dropWhile p = rest := by
  rw [List.dropWhile_append_of_pos hRun]
  cases rest with
  | nil => rfl
  | cons a rest => rw [List.dropWhile_cons_of_neg (hRest a rfl)]

end

end ParamSchema.Text
