import ParamSchema.Proofs.Pattern.Class
import ParamSchema.Proofs.Pattern.Turn

/-!
# Adapting classes

Inside brackets the adaptation goes atom by atom, and what it writes for a text begins with a
mark only if the text does.
-/

set_option autoImplicit false

namespace ParamSchema.Pattern

section

variable {c : Char} (rest : List Char)

theorem adaptFrom_guarded (hGuarded : isGuarded c = true) :
    adaptFrom true (c :: rest) = '\\' :: c :: adaptFrom true rest :=
  (Turn.guarded hGuarded rest).adaptFrom_eq

theorem adaptFrom_plain (hEscape : c ≠ '\\') (hClose : c ≠ ']') (hGuarded : isGuarded c = false) :
    adaptFrom true (c :: rest) = c :: adaptFrom true rest := by
  have hOpen : c ≠ '[' := by
    rintro rfl
    cases hGuarded
  exact (Turn.plain true hEscape hOpen (fun _ => ⟨hClose, hGuarded⟩) rest).adaptFrom_eq

theorem adaptFrom_escape :
    adaptFrom true ('\\' :: c :: rest) = adaptEscape true c ++ adaptFrom true rest :=
  (Turn.escape true c rest).adaptFrom_eq

theorem adaptFrom_close : adaptFrom true (']' :: rest) = ']' :: adaptFrom false rest :=
  (Turn.closed rest).adaptFrom_eq

theorem adaptFrom_outside (hOpen : c ≠ '[') (hEscape : c ≠ '\\') :
    adaptFrom false (c :: rest) = c :: adaptFrom false rest :=
  (Turn.plain false hEscape hOpen nofun rest).adaptFrom_eq

theorem head_ne {mark : Char} (hOther : c ≠ mark) : (c :: rest).head? ≠ some mark :=
  fun hHead => hOther (Option.some.inj hHead)

theorem adaptFrom_open (hCaret : c ≠ '^') (hClose : c ≠ ']') :
    adaptFrom false ('[' :: c :: rest) = '[' :: adaptFrom true (c :: rest) :=
  (Turn.opened false (head_ne rest hClose) fun _ => head_ne rest hCaret).adaptFrom_eq

theorem adaptFrom_openNegated (hClose : c ≠ ']') :
    adaptFrom false ('[' :: '^' :: c :: rest) = '[' :: '^' :: adaptFrom true (c :: rest) :=
  (Turn.opened true (head_ne rest hClose) nofun).adaptFrom_eq

end

theorem head_adaptEscape (c : Char) : ∃ head tail, adaptEscape true c = head :: tail ∧
    (head = '\\' ∨ head = '[' ∨ isMark head = false) := by
  have hAdapted := adaptedEscape true c
  generalize adaptEscape true c = written at hAdapted ⊢
  cases hAdapted with
  | named =>
    rw [namedClass, String.toList_append, String.toList_append]
    exact ⟨'[', _, rfl, .inr (.inl rfl)⟩
  | boundary => exact ⟨'\\', _, rfl, .inl rfl⟩
  | letter hMark => exact ⟨c, [], rfl, .inr (.inr hMark)⟩
  | escaped => exact ⟨'\\', [c], rfl, .inl rfl⟩

theorem adaptFrom_ne_nil {text : List Char} (hText : text ≠ []) : adaptFrom true text ≠ [] := by
  unfold adaptFrom
  split
  case h_3 c _ =>
    obtain ⟨head, tail, hEscaped, -⟩ := head_adaptEscape c
    rw [hEscaped]
    exact List.cons_ne_nil _ _
  all_goals grind

/-- An adapted text begins with a mark only if the text does. -/
theorem head_adaptFrom {mark : Char} (hMark : isMark mark = true) (hEscape : mark ≠ '\\')
    (hOpen : mark ≠ '[') {text : List Char} (hHead : (adaptFrom true text).head? = some mark) :
    text.head? = some mark := by
  unfold adaptFrom at hHead
  split at hHead
  case h_3 c _ =>
    obtain ⟨head, tail, hEscaped, hOther⟩ := head_adaptEscape c
    rw [hEscaped, List.cons_append, List.head?_cons, Option.some.injEq] at hHead
    grind
  all_goals grind

theorem isMark_of_guarded {c : Char} (hGuarded : isGuarded c = true) : isMark c = true := by
  obtain rfl | rfl | rfl := isGuarded_iff.mp hGuarded <;> decide

theorem adaptEscape_punctuation {c : Char} (hMark : isPunctuation c = true) :
    adaptEscape true c = if isMark c = true then ['\\', c] else [c] := by
  unfold adaptEscape
  split <;> grind [isPunctuation]

/-- What the text of a single character is adapted to: the character itself, the character after
a backslash, or the code of the backspace. -/
inductive AdaptedChar (text : List Char) (c : Char) : List Char → Prop where
  | plain (hEscape : c ≠ '\\') (hClose : c ≠ ']') (hGuarded : isGuarded c = false)
      (hHyphen : c = '-' → text = ['-']) : AdaptedChar text c [c]
  | marked (hMark : isMark c = true) : AdaptedChar text c ['\\', c]
  | code (hBackspace : c = '\x08') : AdaptedChar text c ['\\', 'x', '0', '8']

theorem adaptFrom_char {text : List Char} {c : Char} (hAtom : AtomText text (.char c)) :
    AdaptedChar text c (adaptFrom true text) := by
  generalize hChar : ClassAtom.char c = a at hAtom
  cases hAtom with
  | literal hEscape hClose =>
    cases hChar
    cases hGuarded : isGuarded c with
    | true =>
      rw [adaptFrom_guarded _ hGuarded]
      exact .marked (isMark_of_guarded hGuarded)
    | false =>
      rw [adaptFrom_plain _ hEscape hClose hGuarded]
      exact .plain hEscape hClose hGuarded (congrArg ([·]))
  | escaped hPunctuation =>
    cases hChar
    rw [adaptFrom_escape, adaptEscape_punctuation hPunctuation]
    cases hMark : isMark c with
    | true => exact .marked hMark
    | false =>
      have hGuarded : isGuarded c = false := by
        cases hGuarded : isGuarded c with
        | true => exact absurd rfl (ne_mark hMark (isMark_of_guarded hGuarded))
        | false => rfl
      exact .plain (ne_mark hMark (by decide)) (ne_mark hMark (by decide)) hGuarded
        fun hHyphen => absurd hHyphen (ne_mark hMark (by decide))
  | backspace =>
    cases hChar
    exact .code rfl
  | digit | noDigit | word | noWord => cases hChar

theorem adaptFrom_atom {text : List Char} {a : ClassAtom} (hAtom : AtomText text a)
    (rest : List Char) : adaptFrom true (text ++ rest) = adaptFrom true text ++ adaptFrom true rest := by
  cases hAtom with
  | @literal c hEscape hClose =>
    cases hGuarded : isGuarded c with
    | true =>
      rw [List.singleton_append, adaptFrom_guarded _ hGuarded, adaptFrom_guarded _ hGuarded]
      rfl
    | false =>
      rw [List.singleton_append, adaptFrom_plain _ hEscape hClose hGuarded,
        adaptFrom_plain _ hEscape hClose hGuarded]
      rfl
  | _ =>
    rw [List.cons_append, List.singleton_append, adaptFrom_escape, adaptFrom_escape]
    exact congrArg (· ++ _) (List.append_nil _).symm

theorem adaptFrom_range {text text' : List Char} {first last : Char}
    (hFirst : AtomText text (.char first)) (hLast : AtomText text' (.char last))
    (rest : List Char) : adaptFrom true (text ++ '-' :: (text' ++ rest)) =
      adaptFrom true text ++ '-' :: (adaptFrom true text' ++ adaptFrom true rest) := by
  rw [adaptFrom_atom hFirst, adaptFrom_plain _ (by decide) (by decide) (by decide),
    adaptFrom_atom hLast]

theorem adaptFrom_items {text : List Char} {items : List ClassItem} (hItems : ItemsText text items)
    (rest : List Char) : adaptFrom true (text ++ rest) = adaptFrom true text ++ adaptFrom true rest := by
  induction hItems with
  | nil => rfl
  | atom hAtom _ _ ih =>
    rw [List.append_assoc, adaptFrom_atom hAtom, ih, adaptFrom_atom hAtom, List.append_assoc]
  | range hFirst hLast _ _ ih =>
    rw [List.append_assoc, List.cons_append, List.append_assoc, adaptFrom_range hFirst hLast, ih,
      adaptFrom_range hFirst hLast]
    simp only [List.append_assoc, List.cons_append]

end ParamSchema.Pattern
