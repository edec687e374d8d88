import ParamSchema.Pattern.Basic
import ParamSchema.Proofs.Pattern.Brackets
import ParamSchema.Proofs.Schema.Grammar

/-!
# Classes keep their meaning

A pattern of one class matches the characters that the class means, as long as no two hyphens
stand side by side in it. Where they do, the matcher takes them for a difference of sets.
-/

set_option autoImplicit false

namespace ParamSchema.Pattern

section

open Unicode

variable (c : Char)

theorem contains_single (own : Char) :
    (CodeSet.single own.toNat).contains c.toNat = (c == own) := by
  rw [Bool.eq_iff_iff, beq_iff_eq, ← Char.toNat_inj]
  simp [CodeSet.single, CodeSet.contains]
  omega

theorem contains_range (first last : Char) :
    (CodeSet.ranges [(first.toNat, last.toNat)]).contains c.toNat =
      decide (first ≤ c ∧ c ≤ last) := by
  simp only [CodeSet.contains, List.any_cons, List.any_nil, Bool.or_false]
  exact decide_eq_decide.mpr Iff.rfl

theorem contains_digit : AsciiClass.digit.toSet.contains c.toNat = c.isDigit := by
  have hDigit : c.isDigit = (decide (48 ≤ c.val) && decide (c.val ≤ 57)) := rfl
  rw [hDigit]
  simp [AsciiClass.toSet, CodeSet.contains, UInt32.le_iff_toNat_le]

theorem contains_word :
    AsciiClass.word.toSet.contains c.toNat = (c.isAlphanum || c == '_') := by
  have hUnderscore : (c == '_') = decide (c.toNat = 0x5F) := by
    rw [Bool.eq_iff_iff, beq_iff_eq, decide_eq_true_iff, ← Char.toNat_inj]
    rfl
  have hAlphanum : c.isAlphanum = ((decide (65 ≤ c.val ∧ c.val ≤ 90) ||
      (decide (97 ≤ c.val) && decide (c.val ≤ 122))) ||
      (decide (48 ≤ c.val) && decide (c.val ≤ 57))) := rfl
  rw [hUnderscore, hAlphanum, Bool.eq_iff_iff]
  simp [AsciiClass.toSet, asciiWordSet, CodeSet.contains, UInt32.le_iff_toNat_le]
  omega

end

/-- The tree stands for a set with the given members, and of limited size. -/
def SetTree.Means (tree : SetTree) (member : Char → Bool) (size : Nat) : Prop :=
  ∃ set, tree.toSet? {} = some set ∧ (∀ c : Char, set.contains c.toNat = member c) ∧
    setSize set ≤ size

theorem encodedLength_le (code : Nat) : encodedLength code ≤ 4 := by
  unfold encodedLength
  repeat' split
  all_goals decide

theorem setSize_range (first last : Nat) : setSize (.ranges [(first, last)]) =
    if last < 0x80 then 8 else 24 + 16 * encodedLength last := rfl

theorem setSize_union (a b : Unicode.CodeSet) : setSize (.union a b) = setSize a + setSize b := rfl

theorem setSize_compl (a : Unicode.CodeSet) : setSize (.compl a) = setSize a + 304 := rfl

theorem setSize_range_le (first last : Nat) : setSize (.ranges [(first, last)]) ≤ 88 := by
  have hLength := encodedLength_le last
  rw [setSize_range]
  split <;> omega

theorem means_ascii (negated : Bool) (name : AsciiClass) :
    (SetTree.ascii negated name).Means (fun c => name.toSet.contains c.toNat != negated)
      (setSize name.toSet + 304) := by
  cases negated with
  | false => exact ⟨name.toSet, rfl, fun c => (Bool.bne_false _).symm, Nat.le_add_right _ _⟩
  | true => exact ⟨.compl name.toSet, rfl, fun c => (Bool.bne_true _).symm, Nat.le_refl _⟩

theorem ClassItem.Reads.means {item : ClassItem} {tree : SetTree} (hReads : item.Reads tree) :
    tree.Means (fun c => item.contains c) 336 := by
  cases hReads with
  | char letter =>
    exact ⟨.single letter.char.toNat, rfl, fun c => contains_single c letter.char,
      Nat.le_trans (setSize_range_le _ _) (by decide)⟩
  | range first last =>
    exact ⟨.ranges [(first.char.toNat, last.char.toNat)], rfl,
      fun c => contains_range c first.char last.char, Nat.le_trans (setSize_range_le _ _) (by decide)⟩
  | digit negated =>
    obtain ⟨set, hSet, hContains, hSize⟩ := means_ascii negated .digit
    exact ⟨set, hSet, fun c => (hContains c).trans (congrArg (· != negated) (contains_digit c)),
      Nat.le_trans hSize (by decide)⟩
  | word negated =>
    obtain ⟨set, hSet, hContains, hSize⟩ := means_ascii negated .word
    exact ⟨set, hSet, fun c => (hContains c).trans (congrArg (· != negated) (contains_word c)),
      Nat.le_trans hSize (by decide)⟩

theorem ClassItem.Reads.nesting {item : ClassItem} {tree : SetTree} (hReads : item.Reads tree) :
    tree.nesting = 0 := by
  cases hReads <;> rw [SetTree.nesting] <;> exact nofun

section

variable {items : List ClassItem} {trees : List SetTree}
  (hReads : List.Forall₂ ClassItem.Reads items trees)

include hReads

theorem means_union :
    (SetTree.union trees).Means (fun c => items.any (·.contains c)) (336 * items.length) := by
  unfold SetTree.Means
  simp only [SetTree.toSet?]
  induction hReads with
  | nil => exact ⟨.empty, rfl, fun c => rfl, Nat.le_refl _⟩
  | cons hItem hItems ih =>
    obtain ⟨first, hFirst, hFirstContains, hFirstSize⟩ := hItem.means
    obtain ⟨rest, hRest, hRestContains, hRestSize⟩ := ih
    refine ⟨.union first rest, ?_, ?_, ?_⟩
    · rw [SetTree.toUnion?, hFirst, hRest]
      rfl
    · intro c
      rw [Unicode.CodeSet.contains, hFirstContains, hRestContains, List.any_cons]
    · rw [setSize_union, List.length_cons]
      omega

theorem means_ofItems :
    (SetTree.ofItems trees).Means (fun c => items.any (·.contains c)) (336 * items.length) := by
  cases hReads with
  | nil => exact ⟨.empty, rfl, fun c => rfl, Nat.le_refl _⟩
  | cons hItem hItems =>
    cases hItems with
    | nil =>
      obtain ⟨set, hSet, hContains, hSize⟩ := hItem.means
      exact ⟨set, hSet, fun c => (hContains c).trans (Bool.or_false _).symm, hSize⟩
    | cons hNext hItems => exact means_union (.cons hItem (.cons hNext hItems))

theorem nestingAll_trees : SetTree.nestingAll trees = 0 := by
  induction hReads with
  | nil => rfl
  | cons hItem hItems ih => rw [SetTree.nestingAll, hItem.nesting, ih, Nat.max_self]

theorem nesting_ofItems : (SetTree.ofItems trees).nesting ≤ 1 := by
  have hAll := nestingAll_trees hReads
  unfold SetTree.ofItems
  split
  · exact Nat.zero_le _
  · rw [SetTree.nestingAll, SetTree.nestingAll] at hAll
    omega
  · exact Nat.le_of_eq (by rw [SetTree.nesting, hAll])

end

def Regex.oneOf (set : Unicode.CodeSet) : Regex Atom :=
  .seq (.atom (.assertion .textStart))
    (.seq (.atom (.char set)) (.atom (.assertion .textEnd)))

theorem isMatch_oneOf (set : Unicode.CodeSet) (c : Char) :
    (Regex.oneOf set).isMatch [c] = set.contains c.toNat := by
  cases hMember : set.contains c.toNat <;>
    simp [Regex.oneOf, Regex.isMatch, Regex.map, Regex.image, Atom.move, Move.image, positions,
      Assertion.holds, hMember]

theorem size_char_le (set : Unicode.CodeSet) : (Atom.char set).size ≤ setSize set + 64 := by
  unfold Atom.size
  split
  case h_1 first last hAtom =>
    cases hAtom
    split
    · subst last
      have hLength := encodedLength_le first
      rw [setSize_range]
      split
      · rw [encodedLength, if_pos ‹_›]
        omega
      · omega
    · exact Nat.le_of_eq (Nat.add_comm _ _)
  case h_2 hAtom =>
    cases hAtom
    exact Nat.le_of_eq (Nat.add_comm _ _)
  case h_3 hAtom => cases hAtom

theorem size_oneOf_le (set : Unicode.CodeSet) : (Regex.oneOf set).size ≤ setSize set + 128 := by
  have hSize : (Regex.oneOf set).size = 32 + ((Atom.char set).size + 32) := rfl
  have hAtom := size_char_le set
  omega

theorem run?_step {state next : Parsing} {c : Char} {rest after : List Char}
    (hIgnoring : state.ignoring = false) (hStep : state.step? (c :: rest) = some (next, after))
    (hShorter : after.length ≤ rest.length) : state.run? (c :: rest) = next.run? after := by
  rw [Parsing.run?]
  simp only [skipIgnored, hIgnoring, Bool.false_eq_true, if_false, hStep]
  exact if_pos (Nat.lt_succ_of_le hShorter)

theorem run?_anchored {text : List Char} {tree : Tree}
    (hTree : brackets? false text = some (tree, ['$'])) (hText : 0 < text.length) :
    Parsing.run? {} ('^' :: '[' :: text) =
      some (.sequence [.anchor .lineStart, tree, .anchor .lineEnd]) := by
  have hBrackets : (Parsing.push {} (.anchor .lineStart)).step? ('[' :: text) =
      some (((Parsing.push {} (.anchor .lineStart)).push tree), ['$']) :=
    congrArg (Option.map _) hTree
  rw [run?_step rfl rfl (Nat.le_refl _), run?_step rfl hBrackets hText,
    run?_step rfl rfl (Nat.le_refl _), Parsing.run?]
  rfl

theorem toRegex?_anchored {negated : Bool} {body : SetTree} {set : Unicode.CodeSet}
    (hSet : body.toSet? {} = some set) :
    (Tree.sequence [.anchor .lineStart, .bracketed negated body, .anchor .lineEnd]).toRegex? {} =
      some (.oneOf (if negated then .compl set else set), {}) := by
  have hBody : (Tree.bracketed negated body).toRegex? {} =
      some (.atom (.char (if negated then .compl set else set)), {}) := by
    rw [Tree.toRegex?, hSet]
    cases negated <;> rfl
  have hTail : Tree.joinAll? .seq {} [.bracketed negated body, .anchor .lineEnd] =
      some (.seq (.atom (.char (if negated then .compl set else set)))
        (.atom (.assertion .textEnd)), {}) := by
    rw [Tree.joinAll?, hBody]
    · rfl
    · exact nofun
  rw [Tree.toRegex?, Tree.joinAll?, Tree.toRegex?]
  · simp only [Option.bind_eq_bind, Option.bind_some, hTail]
    rfl
  · exact nofun

theorem adapt_class {negated : Bool} {body : List Char} {items : List ClassItem}
    (hItems : ItemsText body items) (hBody : body ≠ [])
    (hCaret : negated = false → body.head? ≠ some '^') :
    (adapt (classSource negated body)).toList =
      '^' :: '[' :: ((if negated then ['^'] else []) ++ (adaptFrom true body ++ [']', '$'])) := by
  have hEnd : adaptFrom true (body ++ [']', '$']) = adaptFrom true body ++ [']', '$'] := by
    rw [adaptFrom_items hItems, adaptFrom_close,
      adaptFrom_outside _ (by decide) (by decide)]
    rfl
  obtain ⟨c, rest, rfl⟩ := List.exists_cons_of_ne_nil hBody
  have hClose : c ≠ ']' := fun hOwn => hItems.head_ne_close (congrArg some hOwn)
  rw [toList_adapt, classSource, String.toList_ofList,
    adaptFrom_outside _ (by decide) (by decide)]
  cases negated with
  | true =>
    rw [← hEnd]
    exact congrArg ('^' :: ·) (adaptFrom_openNegated _ hClose)
  | false =>
    rw [← hEnd]
    have hPlain : c ≠ '^' := fun hOwn => hCaret rfl (congrArg some hOwn)
    exact congrArg ('^' :: ·) (adaptFrom_open _ hPlain hClose)

def anchoredClass (negated : Bool) (body : SetTree) : Tree :=
  .sequence [.anchor .lineStart, .bracketed negated body, .anchor .lineEnd]

theorem nesting_anchoredClass (negated : Bool) {body : SetTree} (hBody : body.nesting ≤ 1) :
    (anchoredClass negated body).nesting ≤ maxNesting := by
  have hNesting : (anchoredClass negated body).nesting = body.nesting + 2 := by
    simp [anchoredClass, Tree.nesting, Tree.nestingAll]
  rw [hNesting]
  exact Nat.le_trans (Nat.add_le_add_right hBody 2) (by decide)

/-- White space and everything else. -/
def everything : SetTree := .union [.blank false, .blank true]

theorem means_everything : everything.Means (fun _ => true) 1424 := by
  refine ⟨_, rfl, ?_, by decide⟩
  intro c
  rw [Unicode.CodeSet.contains, Unicode.CodeSet.contains, Unicode.CodeSet.contains, ← Bool.or_assoc]
  exact (congrArg (· || _) (Bool.or_not_self _)).trans (Bool.true_or _)

theorem run?_emptyClass (negated : Bool) :
    Parsing.run? {} (adapt (classSource negated [])).toList =
      some (anchoredClass (!negated) everything) := by
  have hItems (frames : List SetFrame) : setFrom? false [] frames "\\s\\S]$".toList =
      setFrom? false [.blank true, .blank false] frames "]$".toList := by
    rw [setFrom?_step rfl (by decide), setFrom?_step rfl (by decide)]
    rfl
  have hClose (turned : Bool) : setFrom? false [.blank true, .blank false] [.bracket [] turned]
      "]$".toList = some (.bracketed turned everything, ['$']) := setFrom?_close turned _ _
  rw [toList_adapt, classSource, String.toList_ofList]
  cases negated with
  | true => exact run?_anchored ((hItems _).trans (hClose false)) (by decide)
  | false => exact run?_anchored ((hItems _).trans (hClose true)) (by decide)

section

variable {negated : Bool} {body : List Char} {items : List ClassItem}
  (hItems : ItemsText body items) (hCaret : negated = false → body.head? ≠ some '^')
  (hHyphens : doubledHyphen body = false)

include hItems hCaret hHyphens

/-- What the pattern of a class is read as. -/
theorem run?_class :
    ∃ turned tree, Parsing.run? {} (adapt (classSource negated body)).toList =
        some (anchoredClass turned tree) ∧ tree.nesting ≤ 1 ∧
      tree.Means (fun c => (items.any (·.contains c) != negated) != turned)
        (336 * items.length + 1424) := by
  by_cases hBody : body = []
  · subst hBody
    obtain ⟨set, hSet, hContains, hSize⟩ := means_everything
    rw [hItems.eq_nil]
    refine ⟨!negated, everything, run?_emptyClass negated, by decide, set, hSet, ?_, hSize⟩
    intro c
    rw [hContains]
    cases negated <;> rfl
  · obtain ⟨trees, hTrees, hRead⟩ := brackets?_class hItems hBody hCaret hHyphens ['$']
    obtain ⟨set, hSet, hContains, hSize⟩ := means_ofItems hTrees
    refine ⟨negated, .ofItems trees, ?_, nesting_ofItems hTrees, set, hSet, ?_, by omega⟩
    · rw [adapt_class hItems hBody hCaret, run?_anchored hRead]
      · rfl
      · rw [List.length_append, List.length_append, List.length_cons]
        omega
    · intro c
      rw [hContains]
      cases negated <;> simp

theorem ofText?_class :
    ∃ set : Unicode.CodeSet,
      (∀ c : Char, set.contains c.toNat = (items.any (·.contains c) != negated)) ∧
      (Regex.oneOf set).size ≤ 336 * items.length + 2048 ∧
      Regex.ofText? (adapt (classSource negated body)) =
        (some (Regex.oneOf set)).filter fun regex => decide (regex.size ≤ maxSize) := by
  obtain ⟨turned, tree, hRun, hNesting, set, hSet, hContains, hSize⟩ :=
    run?_class hItems hCaret hHyphens
  dsimp only at hContains
  have hTree : Tree.ofText? (adapt (classSource negated body)) =
      some (anchoredClass turned tree) := by
    rw [Tree.ofText?, hRun, Option.filter_some, if_pos]
    exact decide_eq_true (nesting_anchoredClass turned hNesting)
  refine ⟨if turned then .compl set else set, ?_, ?_, ?_⟩
  · intro c
    cases turned with
    | true =>
      rw [if_pos rfl, Unicode.CodeSet.contains, hContains, Bool.bne_true, Bool.not_not]
    | false => exact (hContains c).trans (Bool.bne_false _)
  · refine Nat.le_trans (size_oneOf_le _) ?_
    cases turned with
    | true =>
      rw [if_pos rfl, setSize_compl]
      omega
    | false =>
      rw [if_neg (by decide)]
      omega
  · rw [Regex.ofText?, hTree, Option.bind_some, anchoredClass, toRegex?_anchored hSet]
    rfl

/-- A class without doubled hyphens keeps its meaning, and is compiled unless it is too large. -/
theorem compile?_class :
    (∀ pattern, compile? (classSource negated body) = some pattern → ∀ c : Char,
      pattern.isMatch (String.singleton c) = (items.any (·.contains c) != negated)) ∧
    (336 * items.length + 2048 ≤ maxSize →
      ∃ pattern, compile? (classSource negated body) = some pattern) := by
  obtain ⟨set, hContains, hSize, hRead⟩ := ofText?_class hItems hCaret hHyphens
  constructor
  · intro pattern hPattern c
    have hCompiled := pattern.compiled
    rw [compile?_eq_some_iff.mp hPattern, hRead] at hCompiled
    obtain ⟨hRegex, -⟩ := Option.filter_eq_some_iff.mp hCompiled
    rw [isMatch, ← Option.some.inj hRegex, String.toList_singleton, isMatch_oneOf, hContains]
  · intro hFits
    have hCompiled : Regex.ofText? (adapt (classSource negated body)) = some (.oneOf set) := by
      rw [hRead, Option.filter_some, if_pos]
      exact decide_eq_true (Nat.le_trans hSize hFits)
    exact ⟨⟨classSource negated body, .oneOf set, hCompiled⟩, compile?_eq_some_iff.mpr rfl⟩

end

theorem ampersands_and_last_hyphen_are_members :
    (compile? (classSource false "a-f&&\\d-".toList)).map (fun pattern =>
      ['c', '&', '7', '-', 'g'].map fun c => pattern.isMatch (String.singleton c)) =
      some [true, true, true, true, false] := by
  have hAmpersand : AtomText ['&'] (.char '&') := .literal (by decide) (by decide)
  have hHyphen : AtomText ['-'] (.char '-') := .literal (by decide) (by decide)
  have hDigits : ItemsText "\\d-".toList [.atom (.digit false), .atom (.char '-')] :=
    @ItemsText.atom ['\\', 'd'] ['-'] _ _ .digit (@ItemsText.atom ['-'] [] _ _ hHyphen .nil nofun)
      fun _ => rfl
  have hMarks : ItemsText "&&\\d-".toList
      [.atom (.char '&'), .atom (.char '&'), .atom (.digit false), .atom (.char '-')] :=
    @ItemsText.atom ['&'] _ _ _ hAmpersand
      (@ItemsText.atom ['&'] _ _ _ hAmpersand hDigits (by decide)) (by decide)
  have hItems := @ItemsText.range ['a'] ['f'] _ _ _ _ (.literal (by decide) (by decide))
    (.literal (by decide) (by decide)) (by decide) hMarks
  obtain ⟨hMeaning, hCompiles⟩ :=
    @compile?_class false "a-f&&\\d-".toList _ hItems (by decide) (by decide)
  obtain ⟨pattern, hPattern⟩ := hCompiles (by decide)
  rw [hPattern, Option.map_some]
  simp only [List.map_cons, List.map_nil, hMeaning pattern hPattern]
  decide

/-- Between the plus sign and the hyphen stands the comma, which the matcher leaves out. -/
theorem doubled_hyphen_loses_the_comma :
    ItemsText ['+', '-', '-'] [.range '+' '-'] ∧
      (ClassItem.range '+' '-').contains ',' = true ∧
      (compile? (classSource false ['+', '-', '-'])).map (·.isMatch ",") = some false := by
  refine ⟨?_, by decide, by decide +kernel⟩
  exact @ItemsText.range ['+'] ['-'] [] _ _ _ (.literal (by decide) (by decide))
    (.literal (by decide) (by decide)) (by decide) .nil

end ParamSchema.Pattern
