import ParamSchema.Pattern.Dialect

/-!
# Character classes as schemas write them

The grammar of what stands between `[` and `]` in ECMAScript, in Unicode mode, and the
characters that it means. Nothing here refers to the matcher or to the adaptation.
-/

set_option autoImplicit false

namespace ParamSchema.Pattern

inductive ClassAtom where
  | char (c : Char)
  | digit (negated : Bool)
  | word (negated : Bool)

inductive ClassItem where
  | atom (atom : ClassAtom)
  | range (first last : Char)

def ClassAtom.contains (c : Char) : ClassAtom → Bool
  | .char own => c == own
  | .digit negated => c.isDigit != negated
  | .word negated => (c.isAlphanum || c == '_') != negated

def ClassItem.contains (c : Char) : ClassItem → Bool
  | .atom a => a.contains c
  | .range first last => decide (first ≤ c ∧ c ≤ last)

/-- How an atom is written. Of the marks that may be escaped here, Unicode mode allows those of
the syntax, the slash and the hyphen. -/
inductive AtomText : List Char → ClassAtom → Prop where
  | literal {c : Char} (hEscape : c ≠ '\\') (hClose : c ≠ ']') : AtomText [c] (.char c)
  | escaped {c : Char} (hMark : isPunctuation c = true) : AtomText ['\\', c] (.char c)
  | backspace : AtomText ['\\', 'b'] (.char '\x08')
  | digit : AtomText ['\\', 'd'] (.digit false)
  | noDigit : AtomText ['\\', 'D'] (.digit true)
  | word : AtomText ['\\', 'w'] (.word false)
  | noWord : AtomText ['\\', 'W'] (.word true)

/-- How items are written one after another. A hyphen after an atom makes a range of it, unless
the hyphen is the last of all; the ends of a range are single characters in order. -/
inductive ItemsText : List Char → List ClassItem → Prop where
  | nil : ItemsText [] []
  | atom {text rest : List Char} {a : ClassAtom} {items : List ClassItem}
      (hAtom : AtomText text a) (hRest : ItemsText rest items)
      (hHyphen : rest.head? = some '-' → rest = ['-']) :
      ItemsText (text ++ rest) (.atom a :: items)
  | range {text text' rest : List Char} {first last : Char} {items : List ClassItem}
      (hFirst : AtomText text (.char first)) (hLast : AtomText text' (.char last))
      (hOrder : first ≤ last) (hRest : ItemsText rest items) :
      ItemsText (text ++ '-' :: (text' ++ rest)) (.range first last :: items)

/-- Two hyphens stand side by side and neither is escaped. -/
def doubledHyphen : List Char → Bool
  | '\\' :: _ :: rest => doubledHyphen rest
  | '-' :: '-' :: _ => true
  | _ :: rest => doubledHyphen rest
  | [] => false

def classSource (negated : Bool) (body : List Char) : String :=
  String.ofList ('^' :: '[' :: ((if negated then ['^'] else []) ++ body ++ [']', '$']))

theorem AtomText.ne_nil {text : List Char} {a : ClassAtom} (hAtom : AtomText text a) :
    text ≠ [] := by
  cases hAtom <;> exact List.cons_ne_nil _ _

theorem ItemsText.eq_nil {items : List ClassItem} (hItems : ItemsText [] items) : items = [] := by
  generalize hText : ([] : List Char) = text at hItems
  cases hItems with
  | nil => rfl
  | atom hAtom => exact absurd (List.append_eq_nil_iff.mp hText.symm).1 hAtom.ne_nil
  | range hFirst => exact absurd (List.append_eq_nil_iff.mp hText.symm).1 hFirst.ne_nil

theorem AtomText.head_ne_close {text : List Char} {a : ClassAtom} (hAtom : AtomText text a)
    (rest : List Char) : (text ++ rest).head? ≠ some ']' := by
  intro hHead
  cases hAtom with
  | literal _ hClose => exact hClose (Option.some.inj hHead)
  | _ => cases hHead

theorem ItemsText.head_ne_close {text : List Char} {items : List ClassItem}
    (hItems : ItemsText text items) : text.head? ≠ some ']' := by
  cases hItems with
  | nil => exact nofun
  | atom hAtom => exact hAtom.head_ne_close _
  | range hFirst => exact hFirst.head_ne_close _

theorem doubledHyphen_atom {text : List Char} {a : ClassAtom} (hAtom : AtomText text a)
    {rest : List Char} (hHyphens : doubledHyphen (text ++ rest) = false) :
    doubledHyphen rest = false ∧ (text = ['-'] → rest.head? ≠ some '-') := by
  cases hAtom with
  | @literal c hEscape hClose =>
    rw [List.singleton_append] at hHyphens
    unfold doubledHyphen at hHyphens
    split at hHyphens
    case h_1 hText => exact absurd (List.cons.inj hText).1 hEscape
    case h_2 => cases hHyphens
    case h_3 hOther hText =>
      obtain ⟨rfl, rfl⟩ := List.cons.inj hText
      refine ⟨hHyphens, ?_⟩
      intro hOwn hHead
      obtain ⟨tail, rfl⟩ := List.head?_eq_some_iff.mp hHead
      exact hOther tail (List.cons.inj hOwn).1 rfl
    case h_4 hText => cases hText
  | _ =>
    refine ⟨hHyphens, ?_⟩
    intro hText
    cases hText

end ParamSchema.Pattern
