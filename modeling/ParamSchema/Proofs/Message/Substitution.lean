import ParamSchema.Message.Template
import ParamSchema.Proofs.Text

/-!
# Substitution into templates

A template falls apart at its leftmost placeholders that do not overlap, in one way. What is
substituted is this cut, which knows nothing of the values, with a value for each placeholder.
-/

set_option autoImplicit false

namespace ParamSchema.Template

/-! ## Placeholders -/

/-- A key in double braces, with or without blanks around it. -/
inductive IsPlaceholder : List Char → List Char → Prop
  | mk {before key after : List Char} (hBefore : ∀ c ∈ before, Text.isBlank c = true)
      (hNonempty : key ≠ []) (hKey : ∀ c ∈ key, isKeyChar c = true)
      (hAfter : ∀ c ∈ after, Text.isBlank c = true) :
      IsPlaceholder ('\x7b' :: '\x7b' :: (before ++ (key ++ (after ++ ['\x7d', '\x7d'])))) key

theorem isKeyChar_iff {c : Char} : isKeyChar c = true ↔
    'A' ≤ c ∧ c ≤ 'Z' ∨ 'a' ≤ c ∧ c ≤ 'z' ∨ '0' ≤ c ∧ c ≤ '9' ∨ c = '_' := by
  delta isKeyChar Char.isAlphanum Char.isAlpha Char.isUpper Char.isLower Char.isDigit
  simp only [Bool.or_eq_true, Bool.and_eq_true, decide_eq_true_eq, beq_iff_eq, or_assoc]
  rfl

theorem not_isBlank_of_isKeyChar {c : Char} (h : isKeyChar c = true) : ¬Text.isBlank c = true := by
  simp only [isKeyChar_iff, Char.le_def, UInt32.le_iff_toNat_le, ← Char.toNat_inj] at h
  change 65 ≤ c.toNat ∧ c.toNat ≤ 90 ∨ 97 ≤ c.toNat ∧ c.toNat ≤ 122 ∨
    48 ≤ c.toNat ∧ c.toNat ≤ 57 ∨ c.toNat = 95 at h
  simp only [Text.isBlank, Text.blankRanges, List.any_cons, List.any_nil, Bool.or_eq_true,
    decide_eq_true_eq, Bool.false_eq_true, or_false]
  omega

theorem placeholder?_append {written key : List Char} (h : IsPlaceholder written key)
    (rest : List Char) : placeholder? (written ++ rest) = some (key, rest) := by
  obtain @⟨before, _, after, hBefore, hNonempty, hKey, hAfter⟩ := h
  -- each run is taken in full, as what comes after it does not belong to it
  have hBlankStops : ∀ c ∈ (key ++ (after ++ '\x7d' :: '\x7d' :: rest)).head?,
      ¬Text.isBlank c = true := by
    obtain ⟨first, others, rfl⟩ := List.exists_cons_of_ne_nil hNonempty
    rintro _ ⟨⟩
    exact not_isBlank_of_isKeyChar (hKey first List.mem_cons_self)
  have hKeyStops : ∀ c ∈ (after ++ '\x7d' :: '\x7d' :: rest).head?, ¬isKeyChar c = true := by
    cases after with
    | nil =>
      rintro _ ⟨⟩
      decide
    | cons blank after =>
      rintro _ ⟨⟩ hKeyChar
      exact not_isBlank_of_isKeyChar hKeyChar (hAfter _ List.mem_cons_self)
  have hBraceStops : ∀ c ∈ ('\x7d' :: '\x7d' :: rest).head?, ¬Text.isBlank c = true := by
    rintro _ ⟨⟩
    decide
  simp only [List.cons_append, List.append_assoc, List.nil_append]
  rw [placeholder?, Text.dropWhile_run hBefore hBlankStops, Text.takeWhile_run hKey hKeyStops,
    Text.dropWhile_run hKey hKeyStops, Text.dropWhile_run hAfter hBraceStops]
  exact if_neg (mt List.isEmpty_iff.mp hNonempty)

theorem of_placeholder? {text key rest : List Char} (h : placeholder? text = some (key, rest)) :
    ∃ written, IsPlaceholder written key ∧ text = written ++ rest := by
  unfold placeholder? at h
  split at h
  · rename_i inner
    dsimp only at h
    split at h
    · rename_i tail hClose
      split at h
      · cases h
      · rename_i hNonempty
        cases h
        have hWritten := @IsPlaceholder.mk (inner.takeWhile Text.isBlank) _
          (((inner.dropWhile Text.isBlank).dropWhile isKeyChar).takeWhile Text.isBlank)
          (fun _ => List.mem_takeWhile_imp) (mt List.isEmpty_iff.mpr hNonempty)
          (fun _ => List.mem_takeWhile_imp) (fun _ => List.mem_takeWhile_imp)
        refine ⟨_, hWritten, ?_⟩
        simp only [List.cons_append, List.append_assoc, List.nil_append]
        rw [← hClose, List.takeWhile_append_dropWhile, List.takeWhile_append_dropWhile,
          List.takeWhile_append_dropWhile]
    · cases h
  · cases h

theorem IsPlaceholder.ne_nil {written key : List Char} (h : IsPlaceholder written key) :
    written ≠ [] := by
  cases h
  exact List.cons_ne_nil _ _

theorem IsPlaceholder.unique {written written' key key' rest rest' : List Char}
    (h : IsPlaceholder written key) (h' : IsPlaceholder written' key')
    (hText : written ++ rest = written' ++ rest') :
    written = written' ∧ key = key' ∧ rest = rest' := by
  -- the scanner finds both at the start of the same text
  have hFound := placeholder?_append h rest
  rw [hText, placeholder?_append h' rest'] at hFound
  obtain ⟨rfl, rfl⟩ := Prod.mk.inj (Option.some.inj hFound)
  exact ⟨List.append_cancel_right hText, rfl, rfl⟩

theorem pieces_placeholder {written key : List Char} (h : IsPlaceholder written key)
    (rest : List Char) : pieces (written ++ rest) = .placeholder written key :: pieces rest := by
  have hFound := placeholder?_append h rest
  obtain ⟨c, text, hText⟩ := List.exists_cons_of_ne_nil
    (List.append_ne_nil_of_left_ne_nil h.ne_nil rest)
  rw [hText] at hFound
  rw [hText, pieces]
  split
  · rename_i hSome
    cases hSome.symm.trans hFound
    rw [← hText, List.length_append, Nat.add_sub_cancel_right, List.take_left]
  · rename_i hNone
    cases hNone.symm.trans hFound

theorem pieces_char {c : Char} {text : List Char} (h : placeholder? (c :: text) = none) :
    pieces (c :: text) = .char c :: pieces text := by
  rw [pieces]
  split
  · rename_i hFound
    cases hFound.symm.trans h
  · rfl

/-! ## Cuts -/

def StandsAt (text : List Char) (offset : Nat) : Prop :=
  ∃ written key rest, IsPlaceholder written key ∧ text.drop offset = written ++ rest

/-- Text without placeholders, and the placeholder after it. -/
structure Segment where
  before : List Char
  written : List Char
  key : List Char

inductive Cut : List Char → List Segment → List Char → Prop
  | last {text : List Char} (hNone : ∀ offset, ¬StandsAt text offset) : Cut text [] text
  | next {text rest last : List Char} {segment : Segment} {segments : List Segment}
      (hText : text = segment.before ++ (segment.written ++ rest))
      (hPlaceholder : IsPlaceholder segment.written segment.key)
      (hLeftmost : ∀ offset < segment.before.length, ¬StandsAt text offset)
      (hRest : Cut rest segments last) : Cut text (segment :: segments) last

theorem standsAt_of_append {before written key : List Char} (h : IsPlaceholder written key)
    (rest : List Char) : StandsAt (before ++ (written ++ rest)) before.length :=
  ⟨written, key, rest, h, List.drop_left⟩

theorem standsAt_iff {text : List Char} {offset : Nat} :
    StandsAt text offset ↔ (placeholder? (text.drop offset)).isSome = true := by
  constructor
  · rintro ⟨written, key, rest, hPlaceholder, hText⟩
    rw [hText, placeholder?_append hPlaceholder rest]
    rfl
  · intro hFound
    obtain ⟨⟨key, rest⟩, hFound⟩ := Option.isSome_iff_exists.mp hFound
    obtain ⟨written, hPlaceholder, hText⟩ := of_placeholder? hFound
    exact ⟨written, key, rest, hPlaceholder, hText⟩

instance (text : List Char) (offset : Nat) : Decidable (StandsAt text offset) :=
  decidable_of_iff _ standsAt_iff.symm

theorem Cut.unique {text last last' : List Char} {segments segments' : List Segment}
    (h : Cut text segments last) (h' : Cut text segments' last') :
    segments = segments' ∧ last = last' := by
  induction h generalizing segments' with
  | last hNone =>
    cases h' with
    | last => exact ⟨rfl, rfl⟩
    | next hText hPlaceholder =>
      subst hText
      exact absurd (standsAt_of_append hPlaceholder _) (hNone _)
  | @next text rest last segment segments hText hPlaceholder hLeftmost _ ih =>
    cases h' with
    | last hNone =>
      subst hText
      exact absurd (standsAt_of_append hPlaceholder _) (hNone _)
    | @next _ rest' _ segment' segments' hText' hPlaceholder' hLeftmost' hRest' =>
      -- Neither of the two placeholders begins before the other.
      have hStands : StandsAt text segment.before.length :=
        hText ▸ standsAt_of_append hPlaceholder rest
      have hStands' : StandsAt text segment'.before.length :=
        hText' ▸ standsAt_of_append hPlaceholder' rest'
      have hLength : segment.before.length = segment'.before.length :=
        Nat.le_antisymm (Nat.le_of_not_lt fun hLess => hLeftmost _ hLess hStands')
          (Nat.le_of_not_lt fun hLess => hLeftmost' _ hLess hStands)
      obtain ⟨before, written, key⟩ := segment
      obtain ⟨before', written', key'⟩ := segment'
      obtain ⟨rfl, hTail⟩ := List.append_inj (hText.symm.trans hText') hLength
      obtain ⟨rfl, rfl, rfl⟩ := hPlaceholder.unique hPlaceholder' hTail
      obtain ⟨rfl, rfl⟩ := ih hRest'
      exact ⟨rfl, rfl⟩

theorem not_standsAt_of_le {text : List Char} {offset : Nat} (h : text.length ≤ offset) :
    ¬StandsAt text offset := by
  rw [standsAt_iff, List.drop_eq_nil_of_le h]
  exact Bool.false_ne_true

theorem exists_of_standsAt_cons {c : Char} {text : List Char}
    (hNone : placeholder? (c :: text) = none) {offset : Nat} (h : StandsAt (c :: text) offset) : ∃ n, offset = n + 1 ∧ StandsAt text n := by
  cases offset with
  | zero =>
    rw [standsAt_iff, List.drop_zero, hNone] at h
    cases h
  | succ n => exact ⟨n, rfl, h⟩

def Segment.value (name : String) (params : List (String × String)) (segment : Segment) :
    List Char :=
  match params.find? fun param => param.1 == String.ofList segment.key with
  | some param => param.2.toList
  | none => if String.ofList segment.key = "name" then name.toList else segment.written

def Segment.fill (name : String) (params : List (String × String)) (segment : Segment) :
    List Char :=
  segment.before ++ segment.value name params

theorem Cut.cons {c : Char} {text last : List Char} {segments : List Segment}
    (hNone : placeholder? (c :: text) = none) (h : Cut text segments last) :
    ∃ segments' last', Cut (c :: text) segments' last' ∧ ∀ name params,
      segments'.flatMap (Segment.fill name params) ++ last' =
        c :: (segments.flatMap (Segment.fill name params) ++ last) := by
  -- the character goes to the text before the first placeholder, or to the last text
  cases h with
  | last hNever =>
    refine ⟨[], c :: text, .last fun offset hStands => ?_, fun _ _ => rfl⟩
    obtain ⟨n, -, hStands⟩ := exists_of_standsAt_cons hNone hStands
    exact hNever n hStands
  | @next _ rest _ segment segments hText hPlaceholder hLeftmost hRest =>
    refine ⟨⟨c :: segment.before, segment.written, segment.key⟩ :: segments, last,
      .next (congrArg (c :: ·) hText) hPlaceholder (fun offset hLess hStands => ?_) hRest,
      fun _ _ => rfl⟩
    obtain ⟨n, rfl, hStands⟩ := exists_of_standsAt_cons hNone hStands
    exact hLeftmost n (Nat.lt_of_succ_lt_succ hLess) hStands

theorem fill_placeholder (name : String) (params : List (String × String)) (segment : Segment) :
    (Piece.placeholder segment.written segment.key).fill name params = segment.value name params := by
  rw [Piece.fill, Segment.value]
  induction params with
  | nil => rfl
  | cons param params ih =>
    rw [List.lookup_cons, List.find?_cons]
    by_cases hKey : param.1 = String.ofList segment.key
    · rw [hKey, beq_self_eq_true]
    · rw [beq_false_of_ne hKey, beq_false_of_ne (Ne.symm hKey)]
      exact ih

theorem exists_cut (text : List Char) : ∃ segments last, Cut text segments last ∧ ∀ name params,
    (pieces text).flatMap (Piece.fill name params) =
      segments.flatMap (Segment.fill name params) ++ last := by
  induction text using pieces.induct with
  | case1 =>
    refine ⟨[], [], .last fun _ => not_standsAt_of_le (Nat.zero_le _), fun name params => ?_⟩
    rw [pieces]
    rfl
  | case2 c text key rest hFound ih =>
    obtain ⟨segments, last, hCut, hFill⟩ := ih
    obtain ⟨written, hPlaceholder, hText⟩ := of_placeholder? hFound
    refine ⟨⟨[], written, key⟩ :: segments, last, .next hText hPlaceholder nofun hCut,
      fun name params => ?_⟩
    rw [hText, pieces_placeholder hPlaceholder, List.flatMap_cons, List.flatMap_cons, hFill,
      List.append_assoc, fill_placeholder name params ⟨[], written, key⟩]
    rfl
  | case3 c text hNone ih =>
    obtain ⟨segments, last, hCut, hFill⟩ := ih
    obtain ⟨segments', last', hCut', hFill'⟩ := hCut.cons hNone
    refine ⟨segments', last', hCut', fun name params => ?_⟩
    rw [pieces_char hNone, List.flatMap_cons, hFill, hFill']
    rfl

theorem substitute_fills_only_cut (template : String) :
    ∃ segments last, Cut template.toList segments last ∧
      (∀ others tail, Cut template.toList others tail → others = segments ∧ tail = last) ∧
      (∀ name params, substitute template name params =
        String.ofList (segments.flatMap (Segment.fill name params) ++ last)) ∧
      ((∀ offset, ¬StandsAt template.toList offset) →
        ∀ name params, substitute template name params = template) := by
  obtain ⟨segments, last, hCut, hFill⟩ := exists_cut template.toList
  have hSubstitute (name : String) (params : List (String × String)) :
      substitute template name params =
        String.ofList (segments.flatMap (Segment.fill name params) ++ last) := by
    rw [substitute, hFill]
  refine ⟨segments, last, hCut, fun others _ h => h.unique hCut, hSubstitute,
    fun hNone name params => ?_⟩
  obtain ⟨rfl, rfl⟩ := hCut.unique (.last hNone)
  rw [hSubstitute, List.flatMap_nil, List.nil_append, String.ofList_toList]

/-- Double braces without a key, closed by one brace and opened by one. -/
def unfinished : String := "\x7b\x7b\x7d\x7d \x7b\x7bname\x7d \x7bname\x7d\x7d"

theorem unfinished_placeholders_are_kept :
    (∀ offset, ¬StandsAt unfinished.toList offset) ∧
      substitute unfinished "x" [("name", "y")] = unfinished := by
  have hNone (offset : Nat) : ¬StandsAt unfinished.toList offset := by
    by_cases hLess : offset < 20
    · exact (by decide : ∀ offset < 20, ¬StandsAt unfinished.toList offset) offset hLess
    · exact not_standsAt_of_le (Nat.le_of_not_lt hLess)
  obtain ⟨_, _, -, -, -, hUnchanged⟩ := substitute_fills_only_cut unfinished
  exact ⟨hNone, hUnchanged hNone "x" [("name", "y")]⟩

end ParamSchema.Template
