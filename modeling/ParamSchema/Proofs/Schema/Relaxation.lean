import ParamSchema.Proofs.Schema.Comparison

/-!
# Relaxed settings

Settings that allow more levels and are strict about less read every schema that tighter
settings read, and read it alike. What they read in addition fails under the tighter
settings for the depth or for one of the two strict checks.
-/

set_option autoImplicit false

namespace ParamSchema

open Results

structure Settings.RelaxedBy (settings settings' : Settings) : Prop where
  depth : settings.maxDepth ≤ settings'.maxDepth
  combinators : settings'.strictCombinators = true → settings.strictCombinators = true
  required : settings'.strictRequired = true → settings.strictRequired = true

namespace Schema

/-- The flaws that only the settings are to blame for. -/
inductive TooTight (settings settings' : Settings) : Flaw → Prop
  | depth (steps : List Step) : TooTight settings settings'
      ⟨steps, .schema .depth, [("maxDepth", toString settings.maxDepth)]⟩
  | combinator {flaw : Flaw} (hCode : flaw.code = .schema .combinator)
      (hStrict : settings.strictCombinators ≠ settings'.strictCombinators) :
      TooTight settings settings' flaw
  | required {flaw : Flaw} (hCode : flaw.code = .schema .required)
      (hStrict : settings.strictRequired ≠ settings'.strictRequired) :
      TooTight settings settings' flaw

theorem TooTight.under {settings settings' : Settings} {flaw : Flaw} (step : Step)
    (h : TooTight settings settings' flaw) : TooTight settings settings' (flaw.under step) := by
  cases h with
  | depth steps => exact .depth (step :: steps)
  | combinator hCode hStrict => exact .combinator hCode hStrict
  | required hCode hStrict => exact .required hCode hStrict

structure Relaxed (settings settings' : Settings) {α : Type} (tight loose : Reading α) : Prop where
  ok : ∀ a, tight.result = .ok a → loose.result = .ok a
  error : ∀ flaw a, tight.result = .error flaw → loose.result = .ok a →
    TooTight settings settings' flaw

namespace Relaxed

variable {settings settings' : Settings} {α β : Type}

theorem bind {tight loose : Reading α} {next next' : α → Reading β}
    (hFirst : Relaxed settings settings' tight loose)
    (hNext : ∀ a, tight.result = .ok a → Relaxed settings settings' (next a) (next' a)) :
    Relaxed settings settings' (tight >>= next) (loose >>= next') := by
  constructor
  · intro b hOk
    rw [Traced.result_bind, bind_eq_ok] at hOk ⊢
    obtain ⟨a, hTight, hOk⟩ := hOk
    exact ⟨a, hFirst.ok a hTight, (hNext a hTight).ok b hOk⟩
  · intro flaw b hError hLoose
    rw [Traced.result_bind, bind_eq_ok] at hLoose
    obtain ⟨a, hLoose, hOk⟩ := hLoose
    rw [Traced.result_bind, bind_eq_error] at hError
    rcases hError with hError | ⟨a', hTight, hError⟩
    · exact hFirst.error flaw a hError hLoose
    · obtain rfl : a' = a := Except.ok.inj ((hFirst.ok a' hTight).symm.trans hLoose)
      exact (hNext a' hTight).error flaw b hError hOk

theorem inside {tight loose : Reading α} (step : Step) (h : Relaxed settings settings' tight loose) :
    Relaxed settings settings' (Reading.inside step tight) (Reading.inside step loose) := by
  constructor
  · intro a hOk
    rw [Reading.inside, Traced.result_mapBoth, mapError_eq_ok] at hOk ⊢
    exact h.ok a hOk
  · intro flaw a hError hOk
    rw [Reading.inside, Traced.result_mapBoth, mapError_eq_error] at hError
    rw [Reading.inside, Traced.result_mapBoth, mapError_eq_ok] at hOk
    obtain ⟨cause, hCause, rfl⟩ := hError
    exact (h.error cause a hCause hOk).under step

end Relaxed

def relaxation (settings settings' : Settings) : Comparison where
  Rel := Relaxed settings settings'
  lift _ := ⟨fun _ hOk => hOk, fun _ _ hError hOk => nomatch hError.symm.trans hOk⟩
  bind := Relaxed.bind
  inside := Relaxed.inside

section

variable {settings settings' : Settings}

theorem relaxed_checkIgnored (hRelaxed : settings.RelaxedBy settings') (combinator : Combinator)
    (ignored : List Combinator) : Relaxed settings settings'
      (checkIgnored settings combinator ignored) (checkIgnored settings' combinator ignored) := by
  constructor
  · intro _ hOk
    rw [checkIgnored_eq_ok_iff] at hOk ⊢
    exact fun hStrict => hOk (hRelaxed.combinators hStrict)
  · intro flaw _ hError hOk
    rw [checkIgnored_eq_ok_iff] at hOk
    cases ignored with
    | nil => cases hError
    | cons first rest =>
      rw [checkIgnored] at hError
      split at hError
      · rename_i hStrict
        cases hError
        refine .combinator rfl fun hEq => ?_
        cases hOk (hEq ▸ hStrict)
      · rw [Traced.result_report] at hError
        cases hError

theorem relaxed_checkRequired (hRelaxed : settings.RelaxedBy settings') (rules : ObjectRules)
    (declared : List String) : Relaxed settings settings'
      (liftM (checkRequired settings rules declared))
      (liftM (checkRequired settings' rules declared)) := by
  constructor
  · intro _ hOk
    rw [Traced.result_lift, checkRequired_eq_ok_iff] at hOk ⊢
    exact fun hStrict => hOk (hRelaxed.required hStrict)
  · intro flaw _ hError hOk
    rw [Traced.result_lift] at hError hOk
    have hStrict : settings.strictRequired ≠ settings'.strictRequired := by
      intro hEq
      rw [checkRequired, ← hEq, ← checkRequired, hError] at hOk
      cases hOk
    rw [checkRequired] at hError
    split at hError
    · cases hError
      exact .required rfl hStrict
    · cases hError

theorem relaxed_readLevels (hRelaxed : settings.RelaxedBy settings') {levels levels' : Nat}
    (hLevels : levels ≤ levels') (raw : Json) :
    Relaxed settings settings' (readLevels settings levels raw)
      (readLevels settings' levels' raw) := by
  induction levels generalizing levels' raw with
  | zero =>
    refine ⟨nofun, fun flaw _ hError _ => ?_⟩
    cases hError
    exact .depth []
  | succ levels ih =>
    obtain ⟨lower, rfl⟩ : ∃ lower, levels' = lower + 1 := ⟨levels' - 1, by omega⟩
    exact (relaxation settings settings').readLevels_self_succ (ih (by omega))
      (relaxed_checkRequired hRelaxed) (relaxed_checkIgnored hRelaxed) raw

end

section

variable {settings settings' : Settings} {read read' : Json → Reading Schema} {source : Source}

theorem readItems_imp {items : Schema}
    (hRead : ∀ raw, (read' raw).result = .ok items → (read raw).result = .ok items)
    (h : (readItems read' source).result = .ok items) :
    (readItems read source).result = .ok items := by
  obtain ⟨members, hMembers, hOk⟩ := readItems_ok h
  rw [readItems, Reading.inside, Traced.result_mapBoth, mapError_eq_ok, hMembers]
  exact hRead _ hOk

theorem readProperties_imp {found : Option (List (String × Schema))}
    (hRead : ∀ properties, found = some properties → ∀ property ∈ properties, ∀ raw,
      (read' raw).result = .ok property.2 → (read raw).result = .ok property.2)
    (h : (readProperties read' source).result = .ok found) :
    (readProperties read source).result = .ok found := by
  rw [readProperties_eq_ok_iff] at h ⊢
  rcases h with hNone | ⟨members, properties, hLookup, rfl, hMembers⟩
  · exact .inl hNone
  · refine .inr ⟨members, properties, hLookup, rfl, ?_⟩
    rw [members_result_eq_ok_iff] at hMembers ⊢
    exact forall₂_imp_of_mem hMembers fun member _ property hProperty hOk =>
      ⟨hOk.1, hRead properties rfl property hProperty _ hOk.2⟩

theorem readExtra_imp {extra : Extra Schema}
    (hRead : ∀ schema, extra = .matching schema → ∀ raw,
      (read' raw).result = .ok schema → (read raw).result = .ok schema)
    (h : (readExtra read' source).result = .ok extra) :
    (readExtra read source).result = .ok extra := by
  unfold readExtra at h ⊢
  cases hValue : source.lookup "additionalProperties" with
  | none =>
    rw [hValue] at h
    exact h
  | some value =>
    rw [hValue] at h
    simp only [Reading.inside, Traced.result_mapBoth, mapError_eq_ok] at h ⊢
    split at h
    · cases h
    · rename_i hProperties
      rw [if_neg hProperties]
      cases value with
      | object members =>
        simp only [Traced.result_bind, Traced.result_pure, bind_eq_ok] at h ⊢
        obtain ⟨schema, hOk, hExtra⟩ := h
        cases hExtra
        exact ⟨schema, hRead schema rfl _ hOk, rfl⟩
      | _ => exact h

theorem Reads.imp {schema : Schema} {property : Schema → Prop}
    (hCombinators : settings.strictCombinators = settings'.strictCombinators)
    (hRequired : settings.strictRequired = settings'.strictRequired)
    (hRead : ∀ raw nested, property nested → (read' raw).result = .ok nested →
      (read raw).result = .ok nested)
    (hNested : schema.EachNested property) (h : Reads settings' read' source schema) :
    Reads settings read source schema := by
  have hCheck {rules : ObjectRules} {declared : List String}
      (hOk : checkRequired settings' rules declared = .ok ()) :
      checkRequired settings rules declared = .ok () := by
    rw [checkRequired_eq_ok_iff] at hOk ⊢
    rwa [hRequired]
  cases h with
  | combined hSource hStrict hItems hNonempty hMembers =>
    rw [← hCombinators] at hStrict
    refine .combined hSource hStrict hItems hNonempty ?_
    rw [items_result_eq_ok_iff] at hMembers ⊢
    exact forall₂_imp_of_mem hMembers fun item _ member hMember =>
      hRead item member (hNested member hMember)
  | string hCommon hRules => exact .string hCommon hRules
  | number hCommon hRules => exact .number hCommon hRules
  | integer hCommon hRules hFormat => exact .integer hCommon hRules hFormat
  | boolean hCommon => exact .boolean hCommon
  | array hCommon hRules hItems =>
    exact .array hCommon hRules (readItems_imp (fun raw => hRead raw _ hNested) hItems)
  | object hCommon hRules hExtra hProperties hRequired =>
    refine .object hCommon hRules (readExtra_imp ?_ hExtra) (readProperties_imp nofun hProperties)
      (hCheck hRequired)
    rintro schema rfl
    rcases (readExtra_ok hExtra).1 with hAllowed | hDeclared
    · cases hAllowed
    · rcases readProperties_eq_ok_iff.mp hProperties with ⟨hNone, -⟩ | ⟨_, _, _, hSome, -⟩
      · simp [Members.contains, hNone] at hDeclared
      · cases hSome
  | record hCommon hRules hExtra hProperties hRequired =>
    refine .record hCommon hRules (readExtra_imp ?_ hExtra) (readProperties_imp ?_ hProperties)
      (hCheck hRequired)
    · exact fun schema hSchema raw => hRead raw schema (hNested.2 schema hSchema)
    · rintro _ ⟨⟩ entry hEntry raw
      exact hRead raw entry.2 (hNested.1 entry hEntry)

theorem result_readLevels_of_nesting_le
    (hCombinators : settings.strictCombinators = settings'.strictCombinators)
    (hRequired : settings.strictRequired = settings'.strictRequired) {levels levels' : Nat}
    {raw : Json} {schema : Schema} (hNesting : schema.nesting ≤ levels)
    (h : (readLevels settings' levels' raw).result = .ok schema) :
    (readLevels settings levels raw).result = .ok schema := by
  induction levels generalizing levels' raw schema with
  | zero => exact absurd hNesting (Nat.not_le.mpr schema.nesting_pos)
  | succ levels ih =>
    obtain ⟨lower, source, rfl, rfl, hReads⟩ := reads_of_readLevels h
    apply result_readLevels_of_reads
    exact hReads.imp hCombinators hRequired (fun raw nested hNested hOk => ih hNested hOk)
      (nesting_le_succ_iff.mp hNesting)

end

theorem readAt_under_relaxed_settings (place : Path) {settings settings' : Settings} (raw : Json)
    (hRelaxed : settings.RelaxedBy settings') :
    (∀ schema, (readAt place settings raw).result = .ok schema →
      (readAt place settings' raw).result = .ok schema) ∧
    ∀ schema, (readAt place settings' raw).result = .ok schema →
      (∀ violation, (readAt place settings raw).result = .error violation →
        violation.code = .schema .depth ∨ violation.code = .schema .combinator ∨
          violation.code = .schema .required) ∧
      (settings.strictCombinators = settings'.strictCombinators →
        settings.strictRequired = settings'.strictRequired →
        ((∃ violation, (readAt place settings raw).result = .error violation) ↔
          settings.maxDepth < schema.nesting) ∧
        ∀ violation, (readAt place settings raw).result = .error violation →
          violation.code = .schema .depth ∧
            violation.params = [("maxDepth", toString settings.maxDepth)]) := by
  have hReadings := relaxed_readLevels hRelaxed hRelaxed.depth raw
  have hTooTight {violation : Violation} {schema : Schema}
      (hError : (readAt place settings raw).result = .error violation)
      (hOk : (readAt place settings' raw).result = .ok schema) :
      ∃ flaw : Flaw, TooTight settings settings' flaw ∧ flaw.seenFrom place = violation := by
    rw [readAt, Traced.result_mapBoth, mapError_eq_error] at hError
    obtain ⟨flaw, hFlaw, hSeen⟩ := hError
    exact ⟨flaw, hReadings.error flaw schema hFlaw (readAt_eq_ok_iff.mp hOk), hSeen⟩
  refine ⟨?_, fun schema hOk => ⟨?_, fun hCombinators hRequired => ⟨?_, ?_⟩⟩⟩
  · intro schema hOk
    rw [readAt_eq_ok_iff] at hOk ⊢
    exact hReadings.ok schema hOk
  · intro violation hError
    obtain ⟨flaw, hFlaw, rfl⟩ := hTooTight hError hOk
    cases hFlaw with
    | depth steps => exact .inl rfl
    | combinator hCode _ => exact .inr (.inl hCode)
    | required hCode _ => exact .inr (.inr hCode)
  · constructor
    · rintro ⟨violation, hError⟩
      by_contra hNesting
      have hTight := result_readLevels_of_nesting_le hCombinators hRequired (Nat.not_lt.mp hNesting)
        (readAt_eq_ok_iff.mp hOk)
      rw [readAt_eq_ok_iff.mpr hTight] at hError
      cases hError
    · intro hNesting
      cases hTight : (readAt place settings raw).result with
      | error violation => exact ⟨violation, rfl⟩
      | ok schema' =>
        have hLoose : (readAt place settings' raw).result = .ok schema' :=
          readAt_eq_ok_iff.mpr (hReadings.ok schema' (readAt_eq_ok_iff.mp hTight))
        -- A success under the tight settings would be the one under the loose ones, too deep for them.
        obtain rfl : schema = schema' := Except.ok.inj (hOk.symm.trans hLoose)
        exact absurd (nesting_le_of_readAt hTight) (Nat.not_le.mpr hNesting)
  · intro violation hError
    obtain ⟨flaw, hFlaw, rfl⟩ := hTooTight hError hOk
    cases hFlaw with
    | depth steps => exact ⟨rfl, rfl⟩
    | combinator _ hStrict => exact absurd hCombinators hStrict
    | required _ hStrict => exact absurd hRequired hStrict

theorem readAt_needs_second_level :
    let raw : Json := .object [("type", .string "array"),
      ("items", .object [("type", .string "boolean")])]
    Settings.RelaxedBy { maxDepth := 1 } { maxDepth := 2 } ∧
      (readAt ⟨"", []⟩ { maxDepth := 2 } raw).result = .ok (.array {} {} (.boolean {})) ∧
      ∃ violation, (readAt ⟨"", []⟩ { maxDepth := 1 } raw).result = .error violation ∧
        violation.code = .schema .depth ∧ violation.params = [("maxDepth", "1")] := by
  intro raw
  have hRelaxed : Settings.RelaxedBy { maxDepth := 1 } { maxDepth := 2 } := ⟨by decide, nofun, nofun⟩
  have hOk : (readAt ⟨"", []⟩ { maxDepth := 2 } raw).result = .ok (.array {} {} (.boolean {})) := rfl
  obtain ⟨hFails, hCode⟩ :=
    ((readAt_under_relaxed_settings ⟨"", []⟩ raw hRelaxed).2 _ hOk).2 rfl rfl
  obtain ⟨violation, hError⟩ := hFails.mpr (by decide)
  exact ⟨hRelaxed, hOk, violation, hError, (hCode violation hError).1, (hCode violation hError).2⟩

end Schema

end ParamSchema
