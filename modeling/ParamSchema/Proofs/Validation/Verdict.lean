import ParamSchema.Proofs.Validation.Acceptance

/-!
# Verdicts

What checking a value against a schema that was read comes to: the first of all
violations where there is one, and acceptance exactly where the schema is satisfied.
-/

set_option autoImplicit false

namespace ParamSchema.Schema

open Results

instance (schema : Schema) (value : Json) : Decidable (schema.Satisfies value) :=
  decidable_of_iff (schema.violations value = []) (violations_eq_nil_iff schema value)

theorem check_eq_ok_iff {schema : Schema} {depth : Nat} {value filled : Json} :
    Validation.check none depth schema value = .ok filled ↔
      schema.Satisfies value ∧ schema.Fills value filled := by
  constructor
  · intro h
    exact ⟨Validation.exists_unlimited_ok_iff.mp ⟨filled, h⟩, Validation.fills_of_check schema h⟩
  · rintro ⟨hSatisfies, hFills⟩
    obtain ⟨checked, hChecked⟩ :=
      (@Validation.exists_unlimited_ok_iff depth _ _).mpr hSatisfies
    rwa [schema.fills_unique hFills (Validation.fills_of_check schema hChecked)]

theorem failure?_checkAt {limit : Nat} {schema : Schema} (place : Path) (required : Bool)
    (value : Json) (hNesting : schema.nesting ≤ limit) :
    failure? (checkAt place (some limit) schema required (some value)).result =
      ((schema.violations value).map (Flaw.seenFrom place)).head? := by
  rw [checkAt_limit_eq_unlimited place required (some value) hNesting, result_checkAt, validate,
    failure?_mapError, failure?_map, Validation.failure?_check, List.head?_map]

/-- Checking a value against a schema that was read, with settings that let it nest at least as
deep, fails with the first of all violations, if there are any, and accepts the value if not. -/
theorem checkAt_reports_first_violation {settings settings' : Settings} {root : Path} {raw : Json}
    {schema : Schema} (hRead : (readAt root settings raw).result = .ok schema)
    (hDepth : settings.maxDepth ≤ settings'.maxDepth) (place : Path) (required : Bool)
    (value : Json) :
    (∀ violation, (checkAt place (some settings'.maxDepth) schema required (some value)).result =
      .error violation ↔
        ((schema.violations value).map (Flaw.seenFrom place)).head? = some violation) ∧
    ((∃ checked, (checkAt place (some settings'.maxDepth) schema required (some value)).result =
      .ok checked) ↔ schema.violations value = []) := by
  have hFirst := failure?_checkAt place required value
    (Nat.le_trans (nesting_le_of_readAt hRead) hDepth)
  constructor
  · intro violation
    rw [← hFirst, failure?_eq_some_iff]
  · rw [← failure?_eq_none_iff, hFirst, List.head?_eq_none_iff, List.map_eq_nil_iff]

theorem checkAt_reports_missing_name :
    let raw : Json := .object [("type", .string "object"), ("required", .array [.string "id"]),
      ("properties", .object [("on", .object [("type", .string "boolean")])])]
    let schema : Schema := .record {} { required := ["id"] } [("on", .boolean {})] .allowed
    (readAt ⟨"schema", []⟩ {} raw).result = .ok schema ∧
      (checkAt ⟨"p", []⟩ (some 64) schema true (some (.object [("on", .null)]))).result =
        .error ⟨⟨"p", []⟩, .value .missingProperty, [("missingPropertyName", "id")]⟩ := by
  intro raw schema
  have hRead : (readAt ⟨"schema", []⟩ {} raw).result = .ok schema := rfl
  exact ⟨hRead, ((@checkAt_reports_first_violation _ {} _ _ _ hRead (by decide) ⟨"p", []⟩ true
    (.object [("on", .null)])).1 _).mpr (by decide)⟩

end ParamSchema.Schema
