import ParamSchema.Proofs.Schema.Comparison

/-!
# Independence of irrelevant keys

Two sources that agree on their relevant keys are read with the same result, whatever
else stands in them and in whatever order.
-/

set_option autoImplicit false

namespace ParamSchema.Schema

def sameResult : Comparison where
  Rel reading reading' := reading.result = reading'.result
  lift _ := rfl
  bind {α β first first' next next'} hFirst hNext := by
    rw [Traced.result_bind, Traced.result_bind, ← hFirst]
    cases hResult : first.result with
    | ok a => exact hNext a hResult
    | error flaw => rfl
  inside step h := by
    rw [Reading.inside, Reading.inside, Traced.result_mapBoth, Traced.result_mapBoth, h]

theorem result_checkIgnored_congr {settings : Settings} {combinator : Combinator}
    {ignored ignored' : List Combinator}
    (h : settings.strictCombinators = true → ignored = ignored') :
    (checkIgnored settings combinator ignored).result =
      (checkIgnored settings combinator ignored').result := by
  cases hStrict : settings.strictCombinators with
  | true => rw [h hStrict]
  | false =>
    have hOk (ignored : List Combinator) :
        (checkIgnored settings combinator ignored).result = .ok () :=
      checkIgnored_eq_ok_iff.mpr fun hTrue => nomatch hStrict.symm.trans hTrue
    rw [hOk, hOk]

theorem result_readLevels_congr {settings : Settings} {levels : Nat} {raw raw' : Json}
    (h : AgreeSchemas (AgreeSources settings levels) raw raw') :
    (readLevels settings levels raw).result = (readLevels settings levels raw').result := by
  induction levels generalizing raw raw' with
  | zero => rfl
  | succ levels ih =>
    cases h with
    | object hNested =>
      obtain ⟨hStrict, hAgree⟩ := hNested
      refine sameResult.readLevels_succ (AgreeSources.refl settings levels) ih (fun _ _ => rfl) ?_
        hAgree
      intro combinator ignored ignored' hCombinators hCombinators'
      apply result_checkIgnored_congr
      intro hTrue
      have hEq := hStrict hTrue
      rw [hCombinators, hCombinators'] at hEq
      exact (List.cons.inj hEq).2
    | other hFirst hSecond => exact sameResult.readLevels_other hFirst hSecond

theorem readAt_congr_of_agree (place : Path) {settings : Settings} {raw raw' : Json}
    (h : AgreeSchemas (AgreeSources settings settings.maxDepth) raw raw') :
    (readAt place settings raw).result = (readAt place settings raw').result := by
  rw [readAt, readAt, Traced.result_mapBoth, Traced.result_mapBoth, ofJson, ofJson,
    result_readLevels_congr h]

theorem readAt_congr_any_of :
    let number : Source := [("minimum", .ofCount 1), ("type", .string "number"), ("format", .null)]
    let number' : Source := [("exclusiveMaximum", .string "no"), ("type", .string "number"),
      ("minimum", .ofCount 1)]
    let source : Source := [("anyOf", .array [.object number]), ("allOf", .null)]
    let source' : Source := [("type", .string "other"), ("anyOf", .array [.object number'])]
    AgreeSchemas (AgreeSources {} 64) (.object source) (.object source') ∧
      (readAt ⟨"", []⟩ {} (.object source)).result =
        (readAt ⟨"", []⟩ {} (.object source')).result := by
  intro number number' source source'
  have hNumber : AgreeSources {} 63 number number' := by
    refine ⟨nofun, fun key hKey => .of_lookup_eq ?_⟩
    have hKeys : relevantKeys number ++ relevantKeys number' = ["type", "nullable", "enum",
      "default", "minimum", "exclusiveMinimum", "maximum", "multipleOf", "type", "nullable", "enum",
      "default", "minimum", "exclusiveMinimum", "maximum", "multipleOf"] := by decide
    rw [hKeys] at hKey
    revert key
    simp [number, number', Members.lookup_cons]
  have hSource : AgreeSources {} 64 source source' := by
    refine ⟨nofun, fun key hKey => ?_⟩
    have hKeys : relevantKeys source ++ relevantKeys source' = ["anyOf", "anyOf"] := by decide
    have hAnyOf : key = "anyOf" := by simpa [hKeys] using hKey
    subst hAnyOf
    exact .some (.members ⟨.anyOf, rfl⟩ (.cons (.object hNumber) .nil))
  exact ⟨.object hSource, readAt_congr_of_agree _ (.object hSource)⟩

end ParamSchema.Schema
