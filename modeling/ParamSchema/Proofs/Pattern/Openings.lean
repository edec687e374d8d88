import ParamSchema.Proofs.Pattern.Composition

/-!
# Brackets inside brackets

To the matcher a bracket inside brackets opens more of them. In an adapted text each such
bracket was written for an escape of the pattern that stands for a named class.
-/

set_option autoImplicit false

namespace ParamSchema.Pattern

/-- What a reader of an adapted text has behind it: a backslash that takes the next character
with it, an opening, the caret of one, or none of these. -/
inductive Behind where
  | backslash
  | bracket
  | caret
  | other
  deriving DecidableEq

structure Site where
  depth : Nat := 0
  behind : Behind := .other

namespace Site

/-- Reads a character as the matcher does, to which a closing bracket directly behind an opening
is a letter. -/
def next (site : Site) (c : Char) : Site :=
  match site.behind, c with
  | .backslash, _ => ⟨site.depth, .other⟩
  | _, '\\' => ⟨site.depth, .backslash⟩
  | _, '[' => ⟨site.depth + 1, .bracket⟩
  | .bracket, '^' => ⟨site.depth, .caret⟩
  | .bracket, ']' | .caret, ']' => ⟨site.depth, .other⟩
  | _, ']' => ⟨site.depth - 1, .other⟩
  | _, _ => ⟨site.depth, .other⟩

def after (site : Site) (text : List Char) : Site := text.foldl next site

theorem after_append (site : Site) (text rest : List Char) :
    site.after (text ++ rest) = (site.after text).after rest :=
  List.foldl_append

def IsInner (site : Site) : Prop := 0 < site.depth ∧ site.behind ≠ .backslash

section

variable {site : Site} (hBehind : site.behind ≠ .backslash)

include hBehind

theorem next_backslash : site.next '\\' = ⟨site.depth, .backslash⟩ := by
  obtain ⟨depth, behind⟩ := site
  cases behind with
  | backslash => exact absurd rfl hBehind
  | _ => rfl

theorem next_open : site.next '[' = ⟨site.depth + 1, .bracket⟩ := by
  obtain ⟨depth, behind⟩ := site
  cases behind with
  | backslash => exact absurd rfl hBehind
  | _ => rfl

theorem next_letter {c : Char}
    (hEscape : c ≠ '\\') (hOpen : c ≠ '[') (hClose : c ≠ ']')
    (hCaret : site.behind = .bracket → c ≠ '^') : site.next c = ⟨site.depth, .other⟩ := by
  obtain ⟨depth, behind⟩ := site
  cases behind with
  | backslash => exact absurd rfl hBehind
  | bracket =>
    have hCaret := hCaret rfl
    unfold next
    split <;> grind
  | caret | other =>
    unfold next
    split <;> grind

end

def Quiet (site : Site) (text : List Char) : Prop :=
  ∀ before after, text = before ++ '[' :: after → ¬(site.after before).IsInner

theorem quiet_of_notMem {text : List Char} (hText : '[' ∉ text) (site : Site) :
    site.Quiet text := by
  rintro before after rfl
  exact absurd (List.mem_append_right _ List.mem_cons_self) hText

theorem quiet_cons {site : Site} {c : Char} {text : List Char} (hFirst : c = '[' → ¬site.IsInner)
    (hText : (site.next c).Quiet text) : site.Quiet (c :: text) := by
  intro before after hSplit
  cases before with
  | nil => exact hFirst (List.cons.inj hSplit).1
  | cons c' before =>
    obtain ⟨rfl, hRest⟩ := List.cons.inj hSplit
    exact hText before after hRest

end Site

def namedClosing (inside : Bool) : List Char := if inside then [] else [']']

/-- The site at which a text is adapted: in the brackets that the pattern has open there. Behind
an opening the text does not begin with what the matcher would take as a part of it. -/
inductive Fits : Bool → List Char → Site → Prop where
  | outside (text : List Char) : Fits false text ⟨0, .other⟩
  | inside (text : List Char) : Fits true text ⟨1, .other⟩
  | opened {text : List Char} (hClose : text.head? ≠ some ']') (hCaret : text.head? ≠ some '^') :
      Fits true text ⟨1, .bracket⟩
  | negated {text : List Char} (hClose : text.head? ≠ some ']') : Fits true text ⟨1, .caret⟩
  | ended (inside : Bool) : Fits inside [] ⟨inside.toNat, .backslash⟩

section

variable {inside : Bool} {text : List Char} {site : Site}

theorem Fits.depth_eq (hFits : Fits inside text site) : site.depth = inside.toNat := by
  cases hFits <;> rfl

theorem Fits.behind_ne (hFits : Fits inside text site) (hText : text ≠ []) :
    site.behind ≠ .backslash := by
  cases hFits with
  | ended => exact absurd rfl hText
  | _ => exact nofun

theorem Fits.of_depth (text : List Char) : Fits inside text ⟨inside.toNat, .other⟩ := by
  cases inside with
  | true => exact .inside text
  | false => exact .outside text

end

theorem exists_namedClass {c : Char} {name : String} (hName : (c, name) ∈ classEscapes) :
    ∃ tail, '[' ∉ tail ∧ (∀ depth, Site.after ⟨depth + 1, .bracket⟩ tail = ⟨depth, .other⟩) ∧
      namedClass true name = '[' :: tail ∧ ∀ inside, namedClass inside name =
        (if inside then [] else ['[']) ++ '[' :: (tail ++ namedClosing inside) := by
  refine ⟨(namedClass true name).tail, ?_⟩
  simp only [classEscapes, List.mem_cons, Prod.mk.injEq, List.not_mem_nil, or_false] at hName
  obtain ⟨-, rfl⟩ | ⟨-, rfl⟩ | ⟨-, rfl⟩ | ⟨-, rfl⟩ := hName <;>
    exact ⟨by decide, fun depth => rfl, rfl, fun inside => by cases inside <;> rfl⟩

section

variable {site : Site} {inside inside' : Bool} {c : Char} {text written rest before after : List Char}

theorem Site.after_escape (hBehind : site.behind ≠ .backslash)
    (hAdapted : AdaptedEscape inside c written) : site.after written = ⟨site.depth, .other⟩ := by
  cases hAdapted with
  | @named name hName =>
    obtain ⟨tail, -, hTail, -, hClass⟩ := exists_namedClass hName
    rw [hClass]
    cases inside with
    | true =>
      change (site.next '[').after (tail ++ []) = _
      rw [next_open hBehind, List.append_nil, hTail]
    | false =>
      change ((site.next '[').next '[').after (tail ++ [']']) = _
      rw [next_open hBehind]
      change Site.after ⟨site.depth + 1 + 1, .bracket⟩ (tail ++ [']']) = _
      rw [after_append, hTail]
      rfl
  | boundary =>
    cases inside with
    | true =>
      change (site.next '\\').after ['x', '0', '8'] = _
      rw [next_backslash hBehind]
      rfl
    | false =>
      change (site.next '(').after "?-u:\\b)".toList = _
      rw [next_letter hBehind (by decide) (by decide) (by decide) fun _ => by decide]
      rfl
  | letter hMark =>
    exact next_letter hBehind (ne_mark hMark (by decide)) (ne_mark hMark (by decide))
      (ne_mark hMark (by decide)) fun _ => ne_mark hMark (by decide)
  | escaped =>
    change (site.next '\\').after [c] = _
    rw [next_backslash hBehind]
    rfl

theorem Site.quiet_escaped (hBehind : site.behind ≠ .backslash) (c : Char) :
    site.Quiet ['\\', c] := by
  refine quiet_cons nofun (quiet_cons ?_ (quiet_of_notMem List.not_mem_nil _))
  rw [next_backslash hBehind]
  exact fun _ hInner => hInner.2 rfl

theorem Site.quiet_outside (hDepth : site.depth = 0) (hText : '[' ∉ text) :
    site.Quiet ('[' :: text) :=
  quiet_cons (fun _ hInner => Nat.not_lt_of_le (Nat.le_of_eq hDepth) hInner.1)
    (quiet_of_notMem hText _)

theorem after_of_single (hText : '[' ∉ text) (hSplit : '[' :: text = before ++ '[' :: after) :
    after = text := by
  cases before with
  | nil => exact (List.cons.inj hSplit).2.symm
  | cons c before =>
    rw [(List.cons.inj hSplit).2] at hText
    exact absurd (List.mem_append_right _ List.mem_cons_self) hText

theorem AdaptedEscape.inner (hAdapted : AdaptedEscape inside c written)
    (hDepth : site.depth = inside.toNat) (hBehind : site.behind ≠ .backslash)
    (hWritten : written = before ++ '[' :: after) (hInner : (site.after before).IsInner) :
    ∃ name, (c, name) ∈ classEscapes ∧
      '[' :: after = namedClass true name ++ namedClosing inside := by
  have hLoud : ¬site.Quiet written := fun hQuiet => hQuiet before after hWritten hInner
  cases hAdapted with
  | @named name hName =>
    obtain ⟨tail, hTail, -, hBare, hClass⟩ := exists_namedClass hName
    have hText : '[' ∉ tail ++ namedClosing inside := by
      rw [List.mem_append, not_or]
      exact ⟨hTail, by cases inside <;> decide⟩
    refine ⟨name, hName, ?_⟩
    rw [hBare, List.cons_append]
    rw [hClass] at hWritten
    cases inside with
    | true => rw [after_of_single hText hWritten]
    | false =>
      cases before with
      | nil => exact absurd hInner.1 (Nat.not_lt_of_le (Nat.le_of_eq hDepth))
      | cons c before => rw [after_of_single hText (List.cons.inj hWritten).2]
  | boundary =>
    refine absurd (Site.quiet_of_notMem ?_ site) hLoud
    cases inside <;> decide
  | letter hMark =>
    refine absurd (Site.quiet_of_notMem ?_ site) hLoud
    intro hOpen
    rw [← List.mem_singleton.mp hOpen] at hMark
    exact absurd hMark (by decide)
  | escaped => exact absurd (Site.quiet_escaped hBehind c) hLoud

namespace Fits

theorem outside_eq (hFits : Fits false text site) (hText : text ≠ []) : site = ⟨0, .other⟩ := by
  cases hFits with
  | outside => rfl
  | ended => exact absurd rfl hText

theorem of_turn (hFits : Fits inside text site) (hTurn : Turn inside text written inside' rest) :
    Fits inside' rest (site.after written) := by
  have hDepth := hFits.depth_eq
  cases hTurn with
  | dangling =>
    change Fits inside [] (site.next '\\')
    rw [Site.next_backslash (hFits.behind_ne nofun), hDepth]
    exact .ended inside
  | escape _ c rest =>
    rw [Site.after_escape (hFits.behind_ne nofun) (adaptedEscape inside c), hDepth]
    exact .of_depth rest
  | emptied negated rest =>
    rw [hFits.outside_eq (List.append_ne_nil_of_right_ne_nil _ nofun)]
    cases negated <;> exact .outside rest
  | opened negated hClose hCaret =>
    rw [hFits.outside_eq (by cases negated <;> exact nofun)]
    cases negated with
    | true => exact .negated hClose
    | false => exact .opened hClose (hCaret rfl)
  | @guarded c hGuarded rest =>
    change Fits true rest ((site.next '\\').next c)
    rw [Site.next_backslash (hFits.behind_ne nofun), hDepth]
    exact .inside rest
  | closed rest =>
    -- Directly behind an opening the brackets would have been emptied.
    cases hFits with
    | inside => exact .outside rest
    | opened hClose => exact absurd rfl hClose
    | negated hClose => exact absurd rfl hClose
  | @plain _ c hEscape hOpen hInside rest =>
    change Fits inside rest (site.next c)
    cases inside with
    | true =>
      have hCaret : site.behind = .bracket → c ≠ '^' := by
        rintro hBehind rfl
        cases hFits with
        | opened _ hCaret => exact hCaret rfl
        | _ => cases hBehind
      rw [Site.next_letter (hFits.behind_ne nofun) hEscape hOpen (hInside rfl).1 hCaret, hDepth]
      exact .inside rest
    | false =>
      have hBehind : Behind.other ≠ .backslash := nofun
      rw [hFits.outside_eq nofun]
      by_cases hClose : c = ']'
      · subst hClose
        exact .outside rest
      · rw [Site.next_letter hBehind hEscape hOpen hClose fun hBracket => by cases hBracket]
        exact .outside rest

end Fits

theorem Turn.inner (hTurn : Turn inside text written inside' rest) (hFits : Fits inside text site)
    (hWritten : written = before ++ '[' :: after) (hInner : (site.after before).IsInner) :
    ∃ c name, (c, name) ∈ classEscapes ∧ text = '\\' :: c :: rest ∧ inside' = inside ∧
      '[' :: after = namedClass true name ++ namedClosing inside := by
  have hLoud : ¬site.Quiet written := fun hQuiet => hQuiet before after hWritten hInner
  cases hTurn with
  | escape _ c rest =>
    obtain ⟨name, hName, hClass⟩ := (adaptedEscape inside c).inner hFits.depth_eq
      (hFits.behind_ne nofun) hWritten hInner
    exact ⟨c, name, hName, rfl, rfl, hClass⟩
  | dangling | closed =>
    exact absurd (Site.quiet_of_notMem (by decide) site) hLoud
  | emptied negated rest =>
    have hDepth : site.depth = 0 := hFits.depth_eq
    cases negated <;> exact absurd (Site.quiet_outside hDepth (by decide)) hLoud
  | opened negated hClose hCaret =>
    have hDepth : site.depth = 0 := hFits.depth_eq
    cases negated <;> exact absurd (Site.quiet_outside hDepth (by decide)) hLoud
  | @guarded c hGuarded rest =>
    exact absurd (Site.quiet_escaped (hFits.behind_ne nofun) c) hLoud
  | @plain _ c hEscape hOpen hInside rest =>
    have hNone : '[' ∉ [c] := fun hMem => hOpen (List.mem_singleton.mp hMem).symm
    exact absurd (Site.quiet_of_notMem hNone site) hLoud

end

/-- Somewhere in the text an escape stands for a named class, and `after` is what follows the
bracket that opens this class in the adapted text. -/
def FollowsClass (inside : Bool) (text after : List Char) : Prop :=
  ∃ left right c name inside', text = left ++ '\\' :: c :: right ∧
    Place.after ⟨inside, false⟩ left = ⟨inside', false⟩ ∧ (c, name) ∈ classEscapes ∧
    '[' :: after = namedClass true name ++ (namedClosing inside' ++ adaptFrom inside' right)

theorem FollowsClass.of_rest {inside inside' : Bool} {token rest after : List Char}
    (hPlace : Place.after ⟨inside, false⟩ token = ⟨inside', false⟩)
    (hAfter : FollowsClass inside' rest after) : FollowsClass inside (token ++ rest) after := by
  obtain ⟨left, right, c, name, last, rfl, hLeft, hName, hClass⟩ := hAfter
  refine ⟨token ++ left, right, c, name, last, (List.append_assoc ..).symm, ?_, hName, hClass⟩
  rw [Place.after_append, hPlace, hLeft]

/-- Each bracket of an adapted text that opens brackets inside others was written for an escape
that stands for a named class. -/
theorem followsClass_of_inner (inside : Bool) (text : List Char) {site : Site}
    (hFits : Fits inside text site) {before after : List Char}
    (hSplit : adaptFrom inside text = before ++ '[' :: after)
    (hInner : (site.after before).IsInner) : FollowsClass inside text after := by
  induction inside, text using Turn.induction generalizing site before with
  | nil inside =>
    rw [adaptFrom_nil] at hSplit
    exact absurd hSplit.symm (List.append_ne_nil_of_right_ne_nil _ nofun)
  | @turn inside text written inside' rest hTurn ih =>
    have hText : text ≠ ['\\'] := by
      rintro rfl
      have hMem : '[' ∈ adaptFrom inside ['\\'] := by
        rw [hSplit]
        exact List.mem_append_right _ List.mem_cons_self
      cases inside <;> exact absurd hMem (by decide)
    obtain ⟨token, hToken, hPlace⟩ := hTurn.exists_token hText
    have hLater (middle : List Char) (hBefore : before = written ++ middle)
        (hRest : adaptFrom inside' rest = middle ++ '[' :: after) :
        FollowsClass inside text after := by
      rw [hBefore, Site.after_append] at hInner
      rw [hToken]
      exact .of_rest hPlace (ih (hFits.of_turn hTurn) hRest hInner)
    rw [hTurn.adaptFrom_eq] at hSplit
    -- the bracket is one of the text that the turn writes, or of what is written later
    obtain ⟨middle, hBefore, hRest⟩ | ⟨own, hWritten, hAfter⟩ := List.append_eq_append_iff.mp hSplit
    · exact hLater middle hBefore hRest
    · cases own with
      | nil => exact hLater [] (by rw [hWritten, List.append_nil, List.append_nil]) hAfter.symm
      | cons b own =>
        obtain ⟨rfl, rfl⟩ := List.cons.inj hAfter
        obtain ⟨c, name, hName, rfl, rfl, hClass⟩ := hTurn.inner hFits hWritten hInner
        refine ⟨[], rest, c, name, inside', rfl, rfl, hName, ?_⟩
        rw [← List.append_assoc, ← hClass]
        exact hAfter

theorem adaptEscape_class {c : Char} {name : String} (hName : (c, name) ∈ classEscapes)
    (inside : Bool) : adaptEscape inside c = namedClass inside name := by
  simp only [classEscapes, List.mem_cons, Prod.mk.injEq, List.not_mem_nil, or_false] at hName
  obtain ⟨rfl, rfl⟩ | ⟨rfl, rfl⟩ | ⟨rfl, rfl⟩ | ⟨rfl, rfl⟩ := hName <;> rfl

theorem before_class {left right before after : List Char} {c : Char} {name : String} {inside : Bool}
    (hPlace : Place.after ⟨false, false⟩ left = ⟨inside, false⟩)
    (hName : (c, name) ∈ classEscapes)
    (hSplit : adaptFrom false (left ++ '\\' :: c :: right) = before ++ '[' :: after)
    (hClass : '[' :: after =
      namedClass true name ++ (namedClosing inside ++ adaptFrom inside right)) :
    before = adaptFrom false left ++ if inside then [] else ['['] := by
  obtain ⟨tail, -, -, hBare, hOwn⟩ := exists_namedClass hName
  have hText : adaptFrom false (left ++ '\\' :: c :: right) =
      adaptFrom false left ++ (namedClass inside name ++ adaptFrom inside right) := by
    rw [adaptFrom_append false left (congrArg Place.escaped hPlace) fun _ => ⟨by simp, by simp⟩,
      hPlace, (Turn.escape inside c right).adaptFrom_eq, adaptEscape_class hName]
  have hBefore : before ++ '[' :: after =
      (adaptFrom false left ++ if inside then [] else ['[']) ++ '[' :: after := by
    rw [← hSplit, hText, hClass, hBare, hOwn]
    simp only [List.append_assoc, List.cons_append]
  exact List.append_cancel_right hBefore

/-- The adaptation goes part by part. Its flag is the one of a scan of the pattern; what ends
outside brackets is adapted on its own, and what has no marks is kept; inside brackets the letters
`[`, `&` and `~` are escaped, so that a bracket in there can only open a named class; and brackets
that are closed at once leave the text that was written before them. -/
theorem adapt_is_compositional :
    (∀ source : String,
      (Adapting.run {} source.toList).inside = (Place.after {} source.toList).inside) ∧
    (∀ left right : String, Place.after {} left.toList = {} →
      adapt (left ++ right) = adapt left ++ adapt right) ∧
    (∀ source : String, '\\' ∉ source.toList → '[' ∉ source.toList → adapt source = source) ∧
    (∀ (left right : String) (text : List Char) (c : Char),
      Place.after {} left.toList = ⟨true, false⟩ → c = '[' ∨ c = '&' ∨ c = '~' →
      text = [c] ∨ text = ['\\', c] →
      adapt (left ++ String.ofList text ++ right) =
        adapt left ++ String.ofList ['\\', c] ++ (Adapting.run ⟨"", true⟩ right.toList).written) ∧
    (∀ (source : String) (before after : List Char),
      (adapt source).toList = before ++ '[' :: after → (Site.after {} before).IsInner →
      ∃ left right c name inside, source.toList = left ++ '\\' :: c :: right ∧
        Place.after {} left = ⟨inside, false⟩ ∧ (c, name) ∈ classEscapes ∧
        before = (adapt (String.ofList left)).toList ++ (if inside then [] else ['[']) ∧
        '[' :: after = namedClass true name ++ (if inside then [] else [']']) ++
          (Adapting.run ⟨"", inside⟩ right).written.toList) ∧
    (∀ (written : String) (negated : Bool),
      Text.truncate (written ++ String.ofList (opening negated))
        ((written ++ String.ofList (opening negated)).utf8ByteSize - openingLength negated)
        (Adapting.isValid_before_opening written negated) = written) ∧
    ∀ (left : String) (right : List Char) (negated : Bool), Place.after {} left.toList = {} →
      Adapting.run {} (left.toList ++ (opening negated ++ ']' :: right)) =
        Adapting.run ((Adapting.mk (adapt left) false).write (emptyClass negated)) right := by
  refine ⟨fun source => inside_run {} source.toList, ?_, fun _ => adapt_of_notMem, ?_, ?_,
    Adapting.truncate_opening, ?_⟩
  · intro left right hLeft
    exact adapt_append left right hLeft nofun
  · intro left right text c hLeft hLetter hText
    exact adapt_guarded hLeft (isGuarded_iff.mpr hLetter) hText right
  · intro source before after hSplit hInner
    rw [toList_adapt] at hSplit
    obtain ⟨left, right, c, name, inside, hSource, hPlace, hName, hClass⟩ :=
      followsClass_of_inner false source.toList (.outside _) hSplit hInner
    refine ⟨left, right, c, name, inside, hSource, hPlace, hName, ?_, ?_⟩
    · rw [hSource] at hSplit
      rw [toList_adapt, String.toList_ofList]
      exact before_class hPlace hName hSplit hClass
    · rw [hClass, written_run_start, String.toList_ofList, ← List.append_assoc]
      rfl
  · intro left right negated hLeft
    exact run_emptied hLeft negated right

/-- Brackets that hold nothing, behind a letter of two bytes, before some that hold digits and a
bracket; ampersands; and a named class outside brackets. -/
theorem empty_brackets_before_class_are_adapted :
    adapt ("é[^]" ++ "[\\d[]") = "é[\\s\\S][[:digit:]\\[]" ∧
    adapt "é|]" = "é|]" ∧
    adapt ("é[x" ++ "&" ++ "&]") = "é[x\\&\\&]" ∧
    (∃ left right c name inside, "é\\w".toList = left ++ '\\' :: c :: right ∧
      Place.after {} left = ⟨inside, false⟩ ∧ (c, name) ∈ classEscapes ∧
      "é[".toList = (adapt (String.ofList left)).toList ++ if inside then [] else ['[']) ∧
    (Adapting.run {} "é[]x".toList).written = "é[^\\s\\S]x" := by
  obtain ⟨-, hAppend, hKept, hLetter, hInner, -, hEmptied⟩ := adapt_is_compositional
  refine ⟨?_, ?_, ?_, ?_, ?_⟩
  · rw [hAppend "é[^]" "[\\d[]" (by decide)]
    decide +kernel
  · exact hKept "é|]" (by decide) (by decide)
  · have hAmpersand := hLetter "é[x" "&]" ['&'] '&' (by decide) (by decide) (by decide)
    exact hAmpersand.trans (by decide +kernel)
  · obtain ⟨left, right, c, name, inside, hSource, hPlace, hName, hBefore, -⟩ :=
      hInner "é\\w" "é[".toList ":word:]]".toList (by decide +kernel) ⟨by decide, by decide⟩
    exact ⟨left, right, c, name, inside, hSource, hPlace, hName, hBefore⟩
  · have hEmpty := hEmptied "é" ['x'] false (by decide)
    exact (congrArg Adapting.written hEmpty).trans (by decide +kernel)

end ParamSchema.Pattern
