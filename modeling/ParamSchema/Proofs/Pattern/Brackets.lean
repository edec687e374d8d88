import Mathlib.Data.List.Forall2
import ParamSchema.Pattern.Brackets
import ParamSchema.Proofs.Pattern.Adaptation

/-!
# Reading adapted classes

What the reader of brackets makes of an adapted class: one tree for each item. A hyphen is
taken as the class means it unless another hyphen stands beside it.
-/

set_option autoImplicit false

namespace ParamSchema.Pattern

inductive ClassItem.Reads : ClassItem → SetTree → Prop where
  | char (letter : Letter) : Reads (.atom (.char letter.char)) (.letter letter)
  | digit (negated : Bool) : Reads (.atom (.digit negated)) (.ascii negated .digit)
  | word (negated : Bool) : Reads (.atom (.word negated)) (.ascii negated .word)
  | range (first last : Letter) : Reads (.range first.char last.char) (.range first last)

theorem escape?_mark {c : Char} (hMark : isMark c = true) (rest : List Char) :
    escape? false (c :: rest) = some (.letter ⟨c, false⟩, rest) := by
  have hOneOf := List.contains_iff_mem.mp hMark
  simp only [String.reduceToList, List.mem_cons, List.not_mem_nil, or_false] at hOneOf
  rcases hOneOf with rfl | rfl | rfl | rfl | rfl | rfl | rfl | rfl | rfl | rfl | rfl | rfl | rfl |
    rfl | rfl | rfl | rfl | rfl <;> rfl

theorem setItem?_plain {c : Char} (hEscape : c ≠ '\\') (rest : List Char) :
    setItem? false (c :: rest) = some (.letter ⟨c, false⟩, rest) := by
  unfold setItem?
  split <;> grind

theorem setItem?_char {text : List Char} {c : Char} (hAtom : AtomText text (.char c))
    (rest : List Char) : ∃ letter : Letter, letter.char = c ∧
      setItem? false (adaptFrom true text ++ rest) = some (.letter letter, rest) := by
  have hAdapted := adaptFrom_char hAtom
  generalize adaptFrom true text = adapted at hAdapted ⊢
  cases hAdapted with
  | plain hEscape => exact ⟨⟨c, false⟩, rfl, setItem?_plain hEscape rest⟩
  | marked hMark => exact ⟨⟨c, false⟩, rfl, escape?_mark hMark rest⟩
  | code hBackspace => exact ⟨⟨'\x08', true⟩, hBackspace.symm, rfl⟩

/-- No range goes on here: a hyphen is the last before the closing bracket. -/
def NoRange (text : List Char) : Prop :=
  text.head? = some '-' → ∃ tail, text = '-' :: ']' :: tail

theorem setRange?_letter {text rest : List Char} {letter : Letter}
    (hItem : setItem? false text = some (.letter letter, rest)) (hRest : NoRange rest) :
    setRange? false text = some (.letter letter, rest) := by
  unfold setRange?
  simp only [hItem, Option.bind_eq_bind, Option.bind_some, skipIgnored, Bool.false_eq_true, if_false]
  split
  case h_1 tail hHyphen =>
    obtain ⟨_, hLast⟩ := hRest rfl
    rw [(List.cons.inj hLast).2]
    rfl
  case h_2 => rfl

theorem setRange?_range {text tail rest : List Char} {first last : Letter}
    (hFirst : setItem? false text = some (.letter first, '-' :: tail))
    (hLast : setItem? false tail = some (.letter last, rest)) (hOrder : first.char ≤ last.char)
    (hHyphen : tail.head? ≠ some '-') (hClose : tail.head? ≠ some ']') :
    setRange? false text = some (.range first last, rest) := by
  unfold setRange?
  -- what follows the hyphen is neither of the two characters that end an item
  simp only [hFirst, hLast, Option.bind_eq_bind, Option.bind_some, skipIgnored, Bool.false_eq_true,
    if_false, peekIgnoring, Primitive.letter?, if_pos hOrder]

theorem setStep?_item {items : List SetTree} {frames : List SetFrame} {c : Char}
    {text rest : List Char} {item : SetTree} (hLetter : isGuarded c = false) (hClose : c ≠ ']')
    (hHyphens : c = '-' → text.head? ≠ some '-')
    (hRange : setRange? false (c :: text) = some (item, rest)) :
    setStep? false items frames (c :: text) = some (.inside (item :: items) frames, rest) := by
  unfold setStep?
  split <;> grind [isGuarded]

theorem setStep?_char {text rest : List Char} {c : Char} (hAtom : AtomText text (.char c))
    (hHyphens : text = ['-'] → rest.head? ≠ some '-') {items : List SetTree}
    {frames : List SetFrame} {item : SetTree} {after : List Char}
    (hRange : setRange? false (adaptFrom true text ++ rest) = some (item, after)) :
    setStep? false items frames (adaptFrom true text ++ rest) =
      some (.inside (item :: items) frames, after) := by
  have hAdapted := adaptFrom_char hAtom
  generalize adaptFrom true text = adapted at hAdapted hRange ⊢
  cases hAdapted with
  | plain _ hClose hGuarded hHyphen =>
    exact setStep?_item hGuarded hClose (fun hOwn => hHyphens (hHyphen hOwn)) hRange
  | marked | code =>
    exact setStep?_item (by decide) (by decide) (fun hOwn => absurd hOwn (by decide)) hRange

theorem setFrom?_step {items items' : List SetTree} {frames frames' : List SetFrame}
    {text rest : List Char}
    (hStep : setStep? false items frames text = some (.inside items' frames', rest))
    (hShorter : rest.length < text.length) :
    setFrom? false items frames text = setFrom? false items' frames' rest := by
  rw [setFrom?]
  simp only [skipIgnored, Bool.false_eq_true, if_false, hStep, if_pos hShorter]

theorem setStep?_ascii (negated : Bool) (name : AsciiClass) (items : List SetTree)
    (frames : List SetFrame) (rest : List Char) :
    setStep? false items frames
      (namedClass true ((if negated then "^" else "") ++ name.name) ++ rest) =
      some (.inside (.ascii negated name :: items) frames, rest) := by
  cases name <;> cases negated <;> rfl

theorem setStep?_atom {text rest : List Char} {a : ClassAtom} (hAtom : AtomText text a)
    (hRest : NoRange rest) (hHyphens : text = ['-'] → rest.head? ≠ some '-')
    (items : List SetTree) (frames : List SetFrame) :
    ∃ tree, ClassItem.Reads (.atom a) tree ∧
      setStep? false items frames (adaptFrom true text ++ rest) =
        some (.inside (tree :: items) frames, rest) := by
  cases a with
  | char c =>
    obtain ⟨letter, rfl, hItem⟩ := setItem?_char hAtom rest
    exact ⟨.letter letter, .char letter, setStep?_char hAtom hHyphens (setRange?_letter hItem hRest)⟩
  | digit negated =>
    refine ⟨.ascii negated .digit, .digit negated, ?_⟩
    cases hAtom
    · exact setStep?_ascii false .digit items frames rest
    · exact setStep?_ascii true .digit items frames rest
  | word negated =>
    refine ⟨.ascii negated .word, .word negated, ?_⟩
    cases hAtom
    · exact setStep?_ascii false .word items frames rest
    · exact setStep?_ascii true .word items frames rest

theorem setStep?_range {text text' : List Char} {first last : Char}
    (hFirst : AtomText text (.char first)) (hLast : AtomText text' (.char last))
    (hOrder : first ≤ last) (hLeft : text ≠ ['-']) (hRight : text' ≠ ['-'])
    (rest : List Char) (items : List SetTree) (frames : List SetFrame) :
    ∃ tree, ClassItem.Reads (.range first last) tree ∧
      setStep? false items frames (adaptFrom true text ++ '-' :: (adaptFrom true text' ++ rest)) =
        some (.inside (tree :: items) frames, rest) := by
  obtain ⟨firstLetter, rfl, hFirstItem⟩ :=
    setItem?_char hFirst ('-' :: (adaptFrom true text' ++ rest))
  obtain ⟨lastLetter, rfl, hLastItem⟩ := setItem?_char hLast rest
  have hHead : (adaptFrom true text' ++ rest).head? ≠ some '-' ∧
      (adaptFrom true text' ++ rest).head? ≠ some ']' := by
    have hAdapted := adaptFrom_char hLast
    generalize adaptFrom true text' = adapted at hAdapted ⊢
    cases hAdapted with
    | plain _ hClose _ hHyphen =>
      exact ⟨fun hOwn => hRight (hHyphen (Option.some.inj hOwn)),
        fun hOwn => hClose (Option.some.inj hOwn)⟩
    | marked | code => exact ⟨by simp, by simp⟩
  exact ⟨.range firstLetter lastLetter, .range firstLetter lastLetter,
    setStep?_char hFirst (fun hHyphen => absurd hHyphen hLeft)
      (setRange?_range hFirstItem hLastItem hOrder hHead.1 hHead.2)⟩

section

variable {text rest tail : List Char}

theorem hyphen_before_close (hHead : (adaptFrom true text ++ ']' :: tail).head? = some '-') :
    text.head? = some '-' := by
  cases hText : adaptFrom true text with
  | nil =>
    rw [hText] at hHead
    cases hHead
  | cons c rest =>
    rw [hText] at hHead
    exact head_adaptFrom (by decide) (by decide) (by decide) (by rw [hText, ← hHead]; rfl)

theorem noRange_adaptFrom (hHyphen : rest.head? = some '-' → rest = ['-']) (tail : List Char) :
    NoRange (adaptFrom true rest ++ ']' :: tail) := by
  intro hHead
  rw [hHyphen (hyphen_before_close hHead)]
  exact ⟨tail, rfl⟩

theorem length_lt_of_adapted (hText : text ≠ []) :
    rest.length < (adaptFrom true text ++ rest).length := by
  have hPos := List.length_pos_iff.mpr (adaptFrom_ne_nil hText)
  rw [List.length_append]
  omega

end

/-- A run over items reads a tree for each of them. -/
theorem setFrom?_items {text : List Char} {items : List ClassItem} (hItems : ItemsText text items)
    (hHyphens : doubledHyphen text = false) (frames : List SetFrame) (tail : List Char)
    (before : List SetTree) :
    ∃ trees, List.Forall₂ ClassItem.Reads items trees ∧
      setFrom? false before frames (adaptFrom true text ++ ']' :: tail) =
        setFrom? false (trees.reverse ++ before) frames (']' :: tail) := by
  -- the trees read before come in reverse; a run may begin with any of them
  induction hItems generalizing before with
  | nil => exact ⟨[], .nil, rfl⟩
  | @atom text rest a items hAtom hRest hHyphen ih =>
    obtain ⟨hRestHyphens, hDoubled⟩ := doubledHyphen_atom hAtom hHyphens
    obtain ⟨tree, hTree, hStep⟩ := setStep?_atom hAtom (noRange_adaptFrom hHyphen tail)
      (fun hText hHead => hDoubled hText (hyphen_before_close hHead)) before frames
    obtain ⟨trees, hTrees, hRun⟩ := ih hRestHyphens (tree :: before)
    refine ⟨tree :: trees, .cons hTree hTrees, ?_⟩
    rw [adaptFrom_atom hAtom, List.append_assoc,
      setFrom?_step hStep (length_lt_of_adapted hAtom.ne_nil), hRun, List.reverse_cons,
      List.append_assoc, List.singleton_append]
  | @range text text' rest first last items hFirst hLast hOrder hRest ih =>
    obtain ⟨hTailHyphens, hLeft⟩ := doubledHyphen_atom hFirst hHyphens
    have hHyphen : AtomText ['-'] (.char '-') := .literal (by decide) (by decide)
    obtain ⟨hLastHyphens, hRight⟩ := doubledHyphen_atom hHyphen hTailHyphens
    obtain ⟨hRestHyphens, -⟩ := doubledHyphen_atom hLast hLastHyphens
    obtain ⟨tree, hTree, hStep⟩ := setStep?_range hFirst hLast hOrder (fun hOwn => hLeft hOwn rfl)
      (fun hOwn => hRight rfl (by rw [hOwn]; rfl)) (adaptFrom true rest ++ ']' :: tail) before frames
    obtain ⟨trees, hTrees, hRun⟩ := ih hRestHyphens (tree :: before)
    have hShorter : (adaptFrom true rest ++ ']' :: tail).length < (adaptFrom true text ++
        '-' :: (adaptFrom true text' ++ (adaptFrom true rest ++ ']' :: tail))).length := by
      simp only [List.length_append, List.length_cons]
      omega
    refine ⟨tree :: trees, .cons hTree hTrees, ?_⟩
    rw [adaptFrom_range hFirst hLast, List.append_assoc, List.cons_append, List.append_assoc,
      setFrom?_step hStep hShorter, hRun, List.reverse_cons, List.append_assoc,
      List.singleton_append]

theorem setFrom?_close (negated : Bool) (items : List SetTree) (tail : List Char) :
    setFrom? false items [.bracket [] negated] (']' :: tail) =
      some (.bracketed negated (.ofItems items.reverse), tail) := by
  rw [setFrom?]
  rfl

/-- A single hyphen that leads is read as it would be later. -/
theorem setFrom?_hyphen {rest : List Char} (hHyphens : rest.head? ≠ some '-')
    (items : List SetTree) (frames : List SetFrame) :
    setFrom? false items frames ('-' :: rest) =
      setFrom? false (.letter ⟨'-', false⟩ :: items) frames rest := by
  have hItem : setItem? false ('-' :: rest) = some (.letter ⟨'-', false⟩, rest) :=
    setItem?_plain (by decide) rest
  have hRange := setRange?_letter hItem fun hHead => absurd hHead hHyphens
  exact setFrom?_step (setStep?_item (by decide) (by decide) (fun _ => hHyphens) hRange)
    (Nat.lt_succ_self _)

theorem leadingHyphens_hyphen {rest : List Char} (hHyphens : rest.head? ≠ some '-') :
    leadingHyphens false false 0 ('-' :: rest) = (1, rest) := by
  cases rest with
  | nil => rfl
  | cons c rest =>
    have hOther : c ≠ '-' := fun hOwn => hHyphens (congrArg some hOwn)
    simp [leadingHyphens, hOther]

theorem brackets?_eq {negated : Bool} {c : Char} {rest : List Char} (hClose : c ≠ ']')
    (hCaret : negated = false → c ≠ '^') (hHyphens : c = '-' → rest.head? ≠ some '-') :
    brackets? false ((if negated then ['^'] else []) ++ c :: rest) =
      setFrom? false [] [.bracket [] negated] (c :: rest) := by
  unfold brackets?
  by_cases hHyphen : c = '-'
  · subst hHyphen
    have hOpen : openBracket false ((if negated then ['^'] else []) ++ '-' :: rest) =
        (negated, [.letter ⟨'-', false⟩], rest) := by
      cases negated <;> simp [openBracket, skipIgnored, leadingHyphens_hyphen (hHyphens rfl)]
    rw [hOpen, setFrom?_hyphen (hHyphens rfl)]
  · have hOpen : openBracket false ((if negated then ['^'] else []) ++ c :: rest) =
        (negated, [], c :: rest) := by
      cases negated with
      | true => simp [openBracket, skipIgnored, leadingHyphens, hHyphen, hClose]
      | false => simp [openBracket, skipIgnored, leadingHyphens, hHyphen, hClose, hCaret rfl]
    rw [hOpen]

/-- The brackets of an adapted class are read as a tree for each of its items. -/
theorem brackets?_class {negated : Bool} {body : List Char} {items : List ClassItem}
    (hItems : ItemsText body items) (hBody : body ≠ [])
    (hCaret : negated = false → body.head? ≠ some '^') (hHyphens : doubledHyphen body = false)
    (tail : List Char) :
    ∃ trees, List.Forall₂ ClassItem.Reads items trees ∧
      brackets? false ((if negated then ['^'] else []) ++ (adaptFrom true body ++ ']' :: tail)) =
        some (.bracketed negated (.ofItems trees), tail) := by
  obtain ⟨trees, hTrees, hRun⟩ := setFrom?_items hItems hHyphens [.bracket [] negated] tail []
  refine ⟨trees, hTrees, ?_⟩
  obtain ⟨c, rest, hText⟩ := List.exists_cons_of_ne_nil (adaptFrom_ne_nil hBody)
  have hHead {mark : Char} (hMark : isMark mark = true) (hEscape : mark ≠ '\\')
      (hOpen : mark ≠ '[') (hOwn : c = mark) : body.head? = some mark :=
    head_adaptFrom hMark hEscape hOpen (by rw [hText, hOwn]; rfl)
  have hClose : c ≠ ']' := fun hOwn =>
    hItems.head_ne_close (hHead (by decide) (by decide) (by decide) hOwn)
  have hNoCaret (hPlain : negated = false) : c ≠ '^' := fun hOwn =>
    hCaret hPlain (hHead (by decide) (by decide) (by decide) hOwn)
  have hHyphen (hOwn : c = '-') : (rest ++ ']' :: tail).head? ≠ some '-' := by
    intro hNext
    obtain ⟨body, rfl⟩ := List.head?_eq_some_iff.mp (hHead (by decide) (by decide) (by decide) hOwn)
    rw [adaptFrom_plain body (by decide) (by decide) (by decide)] at hText
    rw [← (List.cons.inj hText).2] at hNext
    obtain ⟨body, rfl⟩ := List.head?_eq_some_iff.mp (hyphen_before_close hNext)
    cases hHyphens
  rw [hText, List.cons_append] at hRun ⊢
  rw [brackets?_eq hClose hNoCaret hHyphen, hRun, setFrom?_close, List.append_nil,
    List.reverse_reverse]

end ParamSchema.Pattern
