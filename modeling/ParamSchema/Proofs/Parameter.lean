import ParamSchema.Parameter
import ParamSchema.Proofs.Schema.RoundTrip

/-!
# Parameters written and read back

Writing a parameter that was read and reading it again gives an equal one with
the same canonical form, and reports nothing but that it was built.
-/

set_option autoImplicit false

namespace ParamSchema

namespace Schema

theorem readAt_toJson {place again : Path} {settings : Settings} {raw : Json} {schema : Schema}
    (hKeys : raw.KeysDistinct) (h : (readAt place settings raw).result = .ok schema) :
    readAt again settings schema.toJson = pure schema.canonical ∧
      schema.canonical.same schema = true := by
  obtain ⟨hRead, hSame⟩ := readLevels_toJson hKeys (readAt_eq_ok_iff.mp h)
  refine ⟨?_, hSame⟩
  rw [readAt, ofJson, hRead]
  rfl

end Schema

namespace Parameter

theorem readEnvelope_ok {members : List (String × Json)} {name : String} {required : Bool}
    (h : readEnvelope members = .ok (name, required)) : name.isEmpty = false := by
  unfold readEnvelope at h
  dsimp only at h
  generalize members.lookup "name" = named at h
  generalize members.lookup "required" = flagged at h
  split at h
  · rename_i found
    by_cases hEmpty : found.isEmpty
    · rw [if_pos hEmpty] at h
      cases h
    · rw [if_neg hEmpty] at h
      have hName : found = name := by
        rcases flagged with _ | _ | _ <;> cases h <;> rfl
      subst hName
      simpa using hEmpty
  · cases h

theorem ofJson_eq_ok {settings : Settings} {raw : Json} {parameter : Parameter}
    (h : (ofJson settings raw).result = .ok parameter) : ∃ members, raw = .object members ∧
      parameter.name.isEmpty = false ∧
      (Schema.readAt (root.member "schema") settings
        ((members.lookup "schema").getD .null)).result = .ok parameter.schema := by
  unfold ofJson at h
  split at h
  · rename_i members
    simp only [Traced.result_bind, Traced.result_lift, Traced.result_report, Traced.result_pure,
      Results.bind_eq_ok] at h
    obtain ⟨⟨name, required⟩, hEnvelope, schema, hSchema, _, _, hParameter⟩ := h
    cases hParameter
    exact ⟨members, rfl, readEnvelope_ok hEnvelope, hSchema⟩
  · cases h

theorem keysDistinct_schema {members : List (String × Json)}
    (hKeys : (Json.object members).KeysDistinct) :
    ((members.lookup "schema").getD .null).KeysDistinct := by
  cases hLookup : members.lookup "schema" with
  | none => trivial
  | some value => exact Schema.keysDistinct_of_lookup hKeys hLookup

theorem ofJson_toJson {settings : Settings} {parameter : Parameter} {again : Schema}
    (hName : parameter.name.isEmpty = false)
    (hSchema : Schema.readAt (root.member "schema") settings parameter.schema.toJson = pure again) :
    ofJson settings parameter.toJson =
      ⟨[.parameterBuilt parameter.name parameter.required],
        .ok { parameter with schema := again }⟩ := by
  have hEnvelope : readEnvelope [("name", .string parameter.name),
      ("required", .bool parameter.required), ("schema", parameter.schema.toJson)] =
      .ok (parameter.name, parameter.required) := by
    simp [readEnvelope, Members.lookup_cons, hName]
  have hLookup : ([("name", .string parameter.name), ("required", .bool parameter.required),
      ("schema", parameter.schema.toJson)] : List (String × Json)).lookup "schema" =
      some parameter.schema.toJson := by
    simp [Members.lookup_cons]
  rw [toJson, ofJson, hEnvelope, Traced.lift_ok, Traced.pure_bind]
  dsimp only
  rw [hLookup, Option.getD_some, hSchema]
  rfl

end Parameter

/-- A schema that was read, at any place, from a value that repeats no key is written as one that
is read back, at any place, without a report: as an equal schema that is written the same. So is a
parameter, and that it was built is then all that is reported. -/
theorem canonical_form_reads_back (settings : Settings) :
    (∀ (place again : Path) (raw : Json) (schema : Schema), raw.KeysDistinct →
      (Schema.readAt place settings raw).result = .ok schema →
      ∃ schema', Schema.readAt again settings schema.toJson = ⟨[], .ok schema'⟩ ∧
        schema'.same schema = true ∧ schema'.toJson = schema.toJson) ∧
    (∀ (raw : Json) (parameter : Parameter), raw.KeysDistinct →
      (Parameter.ofJson settings raw).result = .ok parameter →
      ∃ parameter', Parameter.ofJson settings parameter.toJson =
          ⟨[.parameterBuilt parameter.name parameter.required], .ok parameter'⟩ ∧
        parameter'.same parameter = true ∧ parameter'.toJson = parameter.toJson) := by
  constructor
  · intro place again raw schema hKeys hRead
    obtain ⟨hAgain, hSame⟩ := @Schema.readAt_toJson place again settings raw schema hKeys hRead
    exact ⟨schema.canonical, hAgain, hSame, schema.toJson_canonical⟩
  · intro raw parameter hKeys hRead
    obtain ⟨members, rfl, hName, hSchema⟩ := Parameter.ofJson_eq_ok hRead
    obtain ⟨hAgain, hSame⟩ := @Schema.readAt_toJson _ (Parameter.root.member "schema") settings _ _
      (Parameter.keysDistinct_schema hKeys) hSchema
    refine ⟨{ parameter with schema := parameter.schema.canonical },
      Parameter.ofJson_toJson hName hAgain, ?_, ?_⟩
    · simp [Parameter.same, hSame]
    · simp [Parameter.toJson, Schema.toJson_canonical]

/-- A second combinator and a note are dropped, and a bound of negative zero becomes zero. -/
theorem bound_of_negative_zero_reads_back :
    let minusZero : Binary64 := ⟨true, 0, Binary64.zero.representable⟩
    let raw : Json := .object [("name", .string "n"), ("schema", .object [("allOf", .array []),
      ("note", .null), ("anyOf", .array [.object [("type", .string "number"),
        ("minimum", .number (.double minusZero))]])])]
    let parameter : Parameter := ⟨"n", false,
      .combined .anyOf [.numeric {} .number ⟨some ⟨minusZero, false⟩, none, none⟩]⟩
    (Parameter.ofJson {} raw).result = .ok parameter ∧
      ∃ parameter', Parameter.ofJson {} parameter.toJson =
          ⟨[.parameterBuilt "n" false], .ok parameter'⟩ ∧
        parameter'.same parameter = true ∧ parameter'.toJson = parameter.toJson := by
  intro minusZero raw parameter
  have hRead : (Parameter.ofJson {} raw).result = .ok parameter := rfl
  refine ⟨hRead, (canonical_form_reads_back {}).2 _ _ ?_ hRead⟩
  simp [raw, Json.KeysDistinct, Json.KeysDistinctMembers, Json.KeysDistinctItems, Members.keys]

end ParamSchema
