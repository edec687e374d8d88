import ParamSchema.Pattern.Dialect
import ParamSchema.Proofs.Text

/-!
# Turns of the adaptation

What a turn can do is said once, by a relation without buffer and truncation: from which text,
read inside or outside brackets, it writes what, and where it leaves off; and so is what an escape
can be adapted to. What is proved of a pattern goes by induction over turns. The text that a whole
run writes is a function of its own, `adaptFrom`.
-/

set_option autoImplicit false

namespace ParamSchema.Pattern

def isGuarded (c : Char) : Bool := c == '[' || c == '&' || c == '~'

theorem isGuarded_iff {c : Char} : isGuarded c = true ↔ c = '[' ∨ c = '&' ∨ c = '~' := by
  simp only [isGuarded, Bool.or_eq_true, beq_iff_eq, or_assoc]

theorem ne_mark {c mark : Char} (hPlain : isMark c = false) (hMark : isMark mark = true) :
    c ≠ mark := by
  rintro rfl
  rw [hPlain] at hMark
  cases hMark

def classEscapes : List (Char × String) :=
  [('d', "digit"), ('D', "^digit"), ('w', "word"), ('W', "^word")]

/-- What an escape can be adapted to. -/
inductive AdaptedEscape (inside : Bool) (c : Char) : List Char → Prop where
  | named {name : String} (hName : (c, name) ∈ classEscapes) :
      AdaptedEscape inside c (namedClass inside name)
  | boundary (hLetter : c = 'b') :
      AdaptedEscape inside c (if inside then "\\x08" else "(?-u:\\b)").toList
  | letter (hMark : isMark c = false) : AdaptedEscape inside c [c]
  | escaped : AdaptedEscape inside c ['\\', c]

theorem adaptedEscape (inside : Bool) (c : Char) : AdaptedEscape inside c (adaptEscape inside c) := by
  unfold adaptEscape
  split
  case h_1 => exact .named (by decide)
  case h_2 => exact .named (by decide)
  case h_3 => exact .named (by decide)
  case h_4 => exact .named (by decide)
  case h_5 => exact .boundary rfl
  case h_6 =>
    split
    case isTrue hPlain =>
      rw [Bool.and_eq_true, Bool.not_eq_true'] at hPlain
      exact .letter hPlain.2
    case isFalse => exact .escaped

/-- A turn that reads from `text`, writes `written` and leaves `rest`; the flags say whether
brackets are open before it and after it. -/
inductive Turn : (inside : Bool) → (text written : List Char) → (inside' : Bool) →
    (rest : List Char) → Prop where
  | dangling (inside : Bool) : Turn inside ['\\'] ['\\'] inside []
  | escape (inside : Bool) (c : Char) (rest : List Char) :
      Turn inside ('\\' :: c :: rest) (adaptEscape inside c) inside rest
  | emptied (negated : Bool) (rest : List Char) :
      Turn false (opening negated ++ ']' :: rest) (emptyClass negated) false rest
  | opened (negated : Bool) {rest : List Char} (hClose : rest.head? ≠ some ']')
      (hCaret : negated = false → rest.head? ≠ some '^') :
      Turn false (opening negated ++ rest) (opening negated) true rest
  | guarded {c : Char} (hGuarded : isGuarded c = true) (rest : List Char) :
      Turn true (c :: rest) ['\\', c] true rest
  | closed (rest : List Char) : Turn true (']' :: rest) [']'] false rest
  | plain (inside : Bool) {c : Char} (hEscape : c ≠ '\\') (hOpen : c ≠ '[')
      (hInside : inside = true → c ≠ ']' ∧ isGuarded c = false) (rest : List Char) :
      Turn inside (c :: rest) [c] inside rest

namespace Adapting

variable (state : Adapting)

theorem truncate_opening (written : String) (negated : Bool) :
    Text.truncate (written ++ String.ofList (opening negated))
      ((written ++ String.ofList (opening negated)).utf8ByteSize - openingLength negated)
      (isValid_before_opening written negated) = written :=
  Text.truncate_append (length_before_opening written negated) _

theorem openBrackets_close (negated : Bool) (rest : List Char) :
    state.openBrackets negated (']' :: rest) =
      (write ⟨state.written, false⟩ (emptyClass negated), rest) := by
  unfold openBrackets
  dsimp only
  rw [truncate_opening]
  rfl

theorem openBrackets_open (negated : Bool) {rest : List Char} (hClose : rest.head? ≠ some ']') :
    state.openBrackets negated rest =
      (⟨state.written ++ String.ofList (opening negated), true⟩, rest) := by
  unfold openBrackets
  dsimp only
  split
  case h_1 => exact absurd rfl hClose
  case h_2 => rfl

theorem openBrackets_turn (hOutside : state.inside = false) (negated : Bool) {rest : List Char}
    (hCaret : negated = false → rest.head? ≠ some '^') :
    ∃ text, (state.openBrackets negated rest).1.written = state.written ++ String.ofList text ∧
      Turn state.inside (opening negated ++ rest) text (state.openBrackets negated rest).1.inside
        (state.openBrackets negated rest).2 := by
  rw [hOutside]
  by_cases hClose : rest.head? = some ']'
  · obtain ⟨rest, rfl⟩ := List.head?_eq_some_iff.mp hClose
    rw [openBrackets_close]
    exact ⟨_, rfl, .emptied negated rest⟩
  · rw [openBrackets_open _ _ hClose]
    exact ⟨_, rfl, .opened negated hClose hCaret⟩

theorem exists_opening (hOutside : state.inside = false) (rest : List Char) :
    ∃ negated tail, '[' :: rest = opening negated ++ tail ∧
      (negated = false → tail.head? ≠ some '^') ∧
      state.turn '[' rest = state.openBrackets negated tail := by
  have hInside : ¬state.inside = true := by
    rw [hOutside]
    decide
  by_cases hCaret : rest.head? = some '^'
  · obtain ⟨tail, rfl⟩ := List.head?_eq_some_iff.mp hCaret
    exact ⟨true, tail, rfl, nofun, if_neg hInside⟩
  · refine ⟨false, rest, rfl, fun _ => hCaret, (if_neg hInside).trans ?_⟩
    split
    case h_1 => exact absurd rfl hCaret
    case h_2 => rfl

theorem turn_plain {c : Char} (hEscape : c ≠ '\\') (hOpen : c ≠ '[') (hClose : c ≠ ']')
    (rest : List Char) : state.turn c rest =
      (state.write (if state.inside && isGuarded c then ['\\', c] else [c]), rest) := by
  have hGuarded : isGuarded c = (c == '&' || c == '~') := by
    rw [isGuarded, beq_eq_false_iff_ne.mpr hOpen, Bool.false_or]
  unfold turn
  split
  case h_5 =>
    rw [hGuarded]
    split <;> rfl
  all_goals contradiction

/-- What a turn of the adaptation does. -/
theorem exists_turn (c : Char) (rest : List Char) :
    ∃ text, (state.turn c rest).1.written = state.written ++ String.ofList text ∧
      Turn state.inside (c :: rest) text (state.turn c rest).1.inside (state.turn c rest).2 := by
  by_cases hEscape : c = '\\'
  · subst hEscape
    cases rest with
    | nil => exact ⟨_, rfl, .dangling _⟩
    | cons escaped rest => exact ⟨_, rfl, .escape _ escaped rest⟩
  by_cases hOpen : c = '['
  · subst hOpen
    cases hInside : state.inside with
    | true =>
      have hTurn : state.turn '[' rest = (state.write ['\\', '['], rest) := if_pos hInside
      rw [hTurn]
      refine ⟨_, rfl, ?_⟩
      rw [write, hInside]
      exact .guarded (by decide) rest
    | false =>
      obtain ⟨negated, tail, hText, hCaret, hTurn⟩ := state.exists_opening hInside rest
      rw [hTurn, hText, ← hInside]
      exact state.openBrackets_turn hInside negated hCaret
  by_cases hClose : c = ']'
  · subst hClose
    refine ⟨_, rfl, ?_⟩
    cases hInside : state.inside with
    | true => exact .closed rest
    | false => exact .plain false hEscape hOpen nofun rest
  rw [turn_plain state hEscape hOpen hClose]
  refine ⟨_, rfl, ?_⟩
  cases hGuarded : state.inside && isGuarded c with
  | true =>
    rw [Bool.and_eq_true] at hGuarded
    rw [write, hGuarded.1]
    exact .guarded hGuarded.2 rest
  | false =>
    refine .plain state.inside hEscape hOpen (fun hInside => ⟨hClose, ?_⟩) rest
    rwa [hInside, Bool.true_and] at hGuarded

end Adapting

def adaptFrom : Bool → List Char → List Char
  | _, [] => []
  | _, ['\\'] => ['\\']
  | inside, '\\' :: c :: rest => adaptEscape inside c ++ adaptFrom inside rest
  | false, '[' :: '^' :: ']' :: rest => "[\\s\\S]".toList ++ adaptFrom false rest
  | false, '[' :: ']' :: rest => "[^\\s\\S]".toList ++ adaptFrom false rest
  | false, '[' :: '^' :: rest => '[' :: '^' :: adaptFrom true rest
  | false, '[' :: rest => '[' :: adaptFrom true rest
  | true, '[' :: rest => '\\' :: '[' :: adaptFrom true rest
  | true, '&' :: rest => '\\' :: '&' :: adaptFrom true rest
  | true, '~' :: rest => '\\' :: '~' :: adaptFrom true rest
  | true, ']' :: rest => ']' :: adaptFrom false rest
  | inside, c :: rest => c :: adaptFrom inside rest

theorem adaptFrom_nil (inside : Bool) : adaptFrom inside [] = [] := by cases inside <;> rfl

namespace Turn

variable {inside inside' : Bool} {text written rest : List Char}

/-- Induction over the turns that a pattern is adapted in. -/
theorem induction {motive : Bool → List Char → Prop} (nil : ∀ inside, motive inside [])
    (turn : ∀ {inside text written inside' rest}, Turn inside text written inside' rest →
      motive inside' rest → motive inside text)
    (inside : Bool) (text : List Char) : motive inside text := by
  suffices h : ∀ state : Adapting, motive state.inside text from h ⟨"", inside⟩
  intro state
  induction state, text using Adapting.run.induct with
  | case1 state => exact nil state.inside
  | case2 state c rest ih =>
    obtain ⟨written, -, hTurn⟩ := state.exists_turn c rest
    exact turn hTurn ih

theorem adaptFrom_eq (hTurn : Turn inside text written inside' rest) :
    adaptFrom inside text = written ++ adaptFrom inside' rest := by
  cases hTurn with
  | dangling => cases inside <;> rfl
  | escape c rest => cases inside <;> rfl
  | emptied negated rest => cases negated <;> rfl
  | opened negated hClose hCaret =>
    cases negated with
    | true =>
      rw [adaptFrom.eq_def false (opening true ++ rest)]
      split <;> grind [opening]
    | false =>
      have hCaret := hCaret rfl
      rw [adaptFrom.eq_def false (opening false ++ rest)]
      split <;> grind [opening]
  | @guarded c hGuarded rest =>
    rw [adaptFrom.eq_def true (c :: rest)]
    split <;> grind [isGuarded]
  | closed rest => rfl
  | @plain _ c hEscape hOpen hInside rest =>
    cases inside with
    | true =>
      obtain ⟨hClose, hGuarded⟩ := hInside rfl
      rw [adaptFrom.eq_def true (c :: rest)]
      split <;> grind [isGuarded]
    | false =>
      rw [adaptFrom.eq_def false (c :: rest)]
      split <;> grind

end Turn

theorem written_run (state : Adapting) (text : List Char) :
    (state.run text).written = state.written ++ String.ofList (adaptFrom state.inside text) := by
  induction state, text using Adapting.run.induct with
  | case1 state =>
    rw [Adapting.run, adaptFrom_nil]
    exact String.append_empty.symm
  | case2 state c rest ih =>
    obtain ⟨written, hWritten, hTurn⟩ := state.exists_turn c rest
    rw [Adapting.run, ih, hWritten, hTurn.adaptFrom_eq, String.ofList_append, String.append_assoc]

theorem toList_adapt (source : String) : (adapt source).toList = adaptFrom false source.toList := by
  rw [adapt, written_run, String.empty_append, String.toList_ofList]

end ParamSchema.Pattern
