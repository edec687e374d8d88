import ParamSchema.Proofs.Pattern.Turn

/-!
# Patterns are adapted part by part

A pattern that ends outside brackets is adapted without regard to what follows it. Inside
brackets the matcher meets no bracket that the adaptation did not write there for a named class.
-/

set_option autoImplicit false

namespace ParamSchema.Pattern

/-- Where a scan of a pattern stands: inside brackets or not, and behind a backslash that takes
the next character with it or not. -/
@[ext]
structure Place where
  inside : Bool := false
  escaped : Bool := false
  deriving DecidableEq

attribute [ext] Adapting

namespace Place

def next (place : Place) (c : Char) : Place :=
  if place.escaped then { place with escaped := false }
  else if c = '\\' then { place with escaped := true }
  else if c = '[' then { place with inside := true }
  else if c = ']' then { place with inside := false }
  else place

def after (place : Place) (text : List Char) : Place := text.foldl next place

theorem after_append (place : Place) (text rest : List Char) :
    place.after (text ++ rest) = (place.after text).after rest :=
  List.foldl_append

end Place

namespace Turn

variable {inside inside' : Bool} {text written rest : List Char}

/-- Where brackets are open for the adaptation, they are for the scan. -/
theorem exists_token (hTurn : Turn inside text written inside' rest) (hText : text ≠ ['\\']) :
    ∃ token, text = token ++ rest ∧ Place.after ⟨inside, false⟩ token = ⟨inside', false⟩ := by
  cases hTurn with
  | dangling => exact absurd rfl hText
  | escape _ c rest => exact ⟨['\\', c], rfl, rfl⟩
  | emptied negated rest =>
    refine ⟨opening negated ++ [']'], ?_, ?_⟩
    · rw [List.append_assoc]
      rfl
    · cases negated <;> rfl
  | opened negated => exact ⟨opening negated, rfl, by cases negated <;> rfl⟩
  | @guarded c hGuarded rest =>
    refine ⟨[c], rfl, ?_⟩
    obtain rfl | rfl | rfl := isGuarded_iff.mp hGuarded <;> rfl
  | closed rest => exact ⟨[']'], rfl, rfl⟩
  | @plain _ c hEscape hOpen hInside rest =>
    refine ⟨[c], rfl, ?_⟩
    rw [Place.after, List.foldl_cons, List.foldl_nil, Place.next, if_neg nofun, if_neg hEscape,
      if_neg hOpen]
    split
    case isTrue hClose =>
      cases inside with
      | true => exact absurd hClose (hInside rfl).1
      | false => rfl
    case isFalse => rfl

theorem append (hTurn : Turn inside text written inside' rest) (hText : text ≠ ['\\'])
    {more : List Char} (hMore : inside' = true → rest = [] →
      more.head? ≠ some '^' ∧ more.head? ≠ some ']') :
    Turn inside (text ++ more) written inside' (rest ++ more) := by
  cases hTurn with
  | dangling => exact absurd rfl hText
  | escape _ c rest => exact .escape inside c (rest ++ more)
  | emptied negated rest =>
    rw [List.append_assoc]
    exact .emptied negated (rest ++ more)
  | opened negated hClose hCaret =>
    rw [List.append_assoc]
    cases rest with
    | nil =>
      obtain ⟨hMoreCaret, hMoreClose⟩ := hMore rfl rfl
      exact .opened negated hMoreClose fun _ => hMoreCaret
    | cons c rest => exact .opened negated hClose hCaret
  | guarded hGuarded rest => exact .guarded hGuarded (rest ++ more)
  | closed rest => exact .closed (rest ++ more)
  | plain _ hEscape hOpen hInside rest => exact .plain inside hEscape hOpen hInside (rest ++ more)

end Turn

/-- A text is adapted on its own, unless it ends where the next character decides what the last
one means: behind a backslash, or behind an opening. -/
theorem adaptFrom_append (inside : Bool) (text : List Char) {rest : List Char}
    (hEscaped : (Place.after ⟨inside, false⟩ text).escaped = false)
    (hRest : (Place.after ⟨inside, false⟩ text).inside = true →
      rest.head? ≠ some '^' ∧ rest.head? ≠ some ']') :
    adaptFrom inside (text ++ rest) =
      adaptFrom inside text ++ adaptFrom (Place.after ⟨inside, false⟩ text).inside rest := by
  induction inside, text using Turn.induction with
  | nil inside =>
    rw [adaptFrom_nil]
    rfl
  | @turn inside text written inside' left hTurn ih =>
    have hText : text ≠ ['\\'] := by
      rintro rfl
      cases hEscaped
    obtain ⟨token, hToken, hPlace⟩ := hTurn.exists_token hText
    have hAfter : Place.after ⟨inside, false⟩ text = Place.after ⟨inside', false⟩ left := by
      rw [hToken, Place.after_append, hPlace]
    rw [hAfter] at hEscaped hRest ⊢
    have hMore : inside' = true → left = [] → rest.head? ≠ some '^' ∧ rest.head? ≠ some ']' := by
      rintro hInside rfl
      exact hRest hInside
    rw [(hTurn.append hText hMore).adaptFrom_eq, ih hEscaped hRest, hTurn.adaptFrom_eq,
      List.append_assoc]

theorem inside_run (state : Adapting) (text : List Char) :
    (state.run text).inside = (Place.after ⟨state.inside, false⟩ text).inside := by
  induction state, text using Adapting.run.induct with
  | case1 state =>
    rw [Adapting.run]
    rfl
  | case2 state c rest ih =>
    rw [Adapting.run, ih]
    by_cases hText : c :: rest = ['\\']
    · cases hText
      rfl
    · obtain ⟨written, -, hTurn⟩ := state.exists_turn c rest
      obtain ⟨token, hToken, hPlace⟩ := hTurn.exists_token hText
      rw [hToken, Place.after_append, hPlace]

theorem written_run_start (inside : Bool) (text : List Char) :
    (Adapting.run ⟨"", inside⟩ text).written = String.ofList (adaptFrom inside text) := by
  rw [written_run, String.empty_append]

theorem run_append (state : Adapting) (text : List Char) {rest : List Char}
    (hEscaped : (Place.after ⟨state.inside, false⟩ text).escaped = false)
    (hRest : (Place.after ⟨state.inside, false⟩ text).inside = true →
      rest.head? ≠ some '^' ∧ rest.head? ≠ some ']') :
    state.run (text ++ rest) = (state.run text).run rest := by
  have hInside := inside_run state text
  have hPlace : Place.after ⟨state.inside, false⟩ text = ⟨(state.run text).inside, false⟩ :=
    Place.ext hInside.symm hEscaped
  ext1
  · rw [written_run, adaptFrom_append _ _ hEscaped hRest, ← hInside, written_run (state.run text),
      written_run state text, String.ofList_append, String.append_assoc]
  · rw [inside_run, inside_run, Place.after_append, hPlace]

theorem adapt_append (left right : String) {inside : Bool}
    (hPlace : Place.after {} left.toList = ⟨inside, false⟩)
    (hRight : inside = true → right.toList.head? ≠ some '^' ∧ right.toList.head? ≠ some ']') :
    adapt (left ++ right) = adapt left ++ (Adapting.run ⟨"", inside⟩ right.toList).written := by
  have hEscaped : (Place.after ⟨false, false⟩ left.toList).escaped = false :=
    congrArg Place.escaped hPlace
  have hInside : (Place.after ⟨false, false⟩ left.toList).inside = inside :=
    congrArg Place.inside hPlace
  rw [← String.toList_inj, String.toList_append, toList_adapt, toList_adapt, String.toList_append,
    adaptFrom_append _ _ hEscaped (hInside ▸ hRight), hInside, written_run_start,
    String.toList_ofList]

theorem adapt_of_notMem {source : String} (hEscape : '\\' ∉ source.toList)
    (hOpen : '[' ∉ source.toList) : adapt source = source := by
  rw [← String.toList_inj, toList_adapt]
  generalize source.toList = text at hEscape hOpen
  induction text with
  | nil => rfl
  | cons c text ih =>
    rw [List.mem_cons, not_or] at hEscape hOpen
    rw [(Turn.plain false (Ne.symm hEscape.1) (Ne.symm hOpen.1) nofun text).adaptFrom_eq,
      ih hEscape.2 hOpen.2]
    rfl

theorem adapt_guarded {left : String} (hLeft : Place.after {} left.toList = ⟨true, false⟩)
    {c : Char} (hGuarded : isGuarded c = true) {text : List Char}
    (hText : text = [c] ∨ text = ['\\', c]) (right : String) :
    adapt (left ++ String.ofList text ++ right) =
      adapt left ++ String.ofList ['\\', c] ++ (Adapting.run ⟨"", true⟩ right.toList).written := by
  have hMarks : c ≠ '^' ∧ c ≠ ']' ∧ adaptEscape true c = ['\\', c] := by
    obtain rfl | rfl | rfl := isGuarded_iff.mp hGuarded <;> decide
  have hTurn : Turn true (text ++ right.toList) ['\\', c] true right.toList := by
    obtain rfl | rfl := hText
    · exact .guarded hGuarded right.toList
    · have hEscape := Turn.escape true c right.toList
      rwa [hMarks.2.2] at hEscape
  have hHead : (text ++ right.toList).head? ≠ some '^' ∧ (text ++ right.toList).head? ≠ some ']' := by
    obtain rfl | rfl := hText
    · exact ⟨fun hCaret => hMarks.1 (Option.some.inj hCaret),
        fun hClose => hMarks.2.1 (Option.some.inj hClose)⟩
    · simp
  rw [String.append_assoc, adapt_append left _ hLeft, String.toList_append, String.toList_ofList,
    written_run_start, written_run_start, hTurn.adaptFrom_eq, String.ofList_append,
    String.append_assoc]
  rw [String.toList_append, String.toList_ofList]
  exact fun _ => hHead

/-- Brackets that are closed at once leave nothing of their opening in what is written. -/
theorem run_emptied {left : String} (hLeft : Place.after {} left.toList = {}) (negated : Bool)
    (right : List Char) :
    Adapting.run {} (left.toList ++ (opening negated ++ ']' :: right)) =
      Adapting.run ((Adapting.mk (adapt left) false).write (emptyClass negated)) right := by
  have hBefore : Adapting.run {} left.toList = ⟨adapt left, false⟩ :=
    Adapting.ext rfl ((inside_run {} left.toList).trans (congrArg Place.inside hLeft))
  have hTurn := Turn.emptied negated right
  obtain ⟨token, hToken, hPlace⟩ := hTurn.exists_token (by cases negated <;> simp [opening])
  rw [run_append, hBefore]
  · ext1
    · rw [written_run, written_run, hTurn.adaptFrom_eq, String.ofList_append, ← String.append_assoc]
      rfl
    · rw [inside_run, inside_run, hToken, Place.after_append, hPlace]
      rfl
  · exact congrArg Place.escaped hLeft
  · intro hInside
    cases (congrArg Place.inside hLeft).symm.trans hInside

end ParamSchema.Pattern
