import ParamSchema.Proofs.Binary64.Divisibility
import ParamSchema.Proofs.Schema.Nodes
import ParamSchema.Proofs.Validation.Location

/-!
# Listed values

A leaf compares a value with the values that it lists before it looks at the type. The
reader lets a leaf list values of its type only, and being the same preserves the type, so
the check of a leaf that lists values never gets as far as a wrong type. Null is apart
from all this: no type has it, and a leaf accepts it for being nullable and for nothing else.
-/

set_option autoImplicit false

namespace ParamSchema

open Results Validation

theorem ValueType.has_of_same {type : ValueType} {item value : Json}
    (hSame : item.same value = true) (hItem : type.Has item) : type.Has value := by
  rcases type with _ | (_ | _) | _ | _ | _
  case string =>
    obtain ⟨text, rfl⟩ := hItem
    cases value with
    | string other => exact ⟨other, rfl⟩
    | _ => cases hSame
  case numeric.number =>
    obtain ⟨number, rfl⟩ := hItem
    obtain ⟨other, rfl, -⟩ := Json.equalBy_number_iff.mp hSame
    exact ⟨other, rfl⟩
  case numeric.integer =>
    obtain ⟨number, rfl, hIntegral⟩ := hItem
    obtain ⟨other, rfl, hValue⟩ := Json.equalBy_number_iff.mp hSame
    have hUnits := Binary64.units_eq_of_signedUnits (Number.sameValue_iff.mp hValue)
    exact ⟨other, rfl, (Binary64.isIntegral_congr hUnits).symm.trans hIntegral⟩
  case boolean =>
    obtain ⟨flag, rfl⟩ := hItem
    cases value with
    | bool other => exact ⟨other, rfl⟩
    | _ => cases hSame
  case array =>
    obtain ⟨items, rfl⟩ := hItem
    obtain ⟨others, rfl, -⟩ := Json.equalBy_array_iff.mp hSame
    exact ⟨others, rfl⟩
  case object =>
    obtain ⟨members, rfl⟩ := hItem
    obtain ⟨others, rfl, -⟩ := Json.equalBy_object_iff.mp hSame
    exact ⟨others, rfl⟩

theorem Common.allows_null_iff {common : Common} {asTyped : Prop} (hTyped : ¬asTyped) :
    common.Allows .null asTyped ↔ common.nullable = true := by
  simp [Allows, hTyped]

namespace Schema

theorem isFlat_of_isScalar {schema : Schema} {type : ValueType} (hType : schema.type? = some type)
    (hScalar : type.isScalar = true) : schema.IsFlat := by
  cases schema with
  | combined combinator members => cases hType
  | array common rules items => cases hType; cases hScalar
  | record common rules properties extra => cases hType; cases hScalar
  | _ => trivial

theorem exists_violations_eq_leafFlaws {schema : Schema} (hFlat : schema.IsFlat) {type : ValueType}
    {common : Common} (hType : schema.type? = some type) (hCommon : schema.common? = some common)
    (value : Json) : ∃ rest, schema.violations value = leafFlaws common value rest ∧
      (type.Has value → ∀ f ∈ rest, OfRule f) := by
  cases schema with
  | string common rules =>
    cases hType
    cases hCommon
    refine ⟨_, Schema.violations.eq_def _ _, ?_⟩
    rintro ⟨text, rfl⟩ f hMem
    exact ofRule_of_mem_stringFlaws hMem
  | numeric common numericType rules =>
    cases hType
    cases hCommon
    refine ⟨_, Schema.violations.eq_def _ _, ?_⟩
    intro hHas f hMem
    have hFound : ((value.binary64?.filter fun x =>
        numericType.kind == .number || x.isIntegral).isSome) = true := by
      rw [Json.isSome_filter_binary64?_iff]
      cases numericType with
      | number =>
        obtain ⟨number, rfl⟩ := hHas
        exact ⟨number, rfl, rfl⟩
      | integer format => exact hHas
    obtain ⟨x, hx⟩ := Option.isSome_iff_exists.mp hFound
    simp only [hx] at hMem
    exact ofRule_of_mem_numberFlaws hMem
  | boolean common =>
    cases hType
    cases hCommon
    refine ⟨_, Schema.violations.eq_def _ _, ?_⟩
    rintro ⟨flag, rfl⟩ f hMem
    cases hMem
  | object common rules =>
    cases hType
    cases hCommon
    refine ⟨_, Schema.violations.eq_def _ _, ?_⟩
    rintro ⟨members, rfl⟩ f hMem
    exact ofRule_of_mem_objectFlaws hMem
  | _ => cases hFlat

theorem satisfies_null_iff {schema : Schema} {common : Common}
    (hCommon : schema.common? = some common) :
    schema.Satisfies .null ↔ common.nullable = true := by
  cases schema with
  | combined combinator members => cases hCommon
  | _ =>
    cases hCommon
    rw [Schema.Satisfies]
    exact Common.allows_null_iff (by simp)

end Schema

namespace Validation

def Typed (flaw : Flaw) : Prop := ∀ type : ValueType, flaw.code ≠ .value type.typeFault

theorem typed_of_checkDepth (limit : Option Nat) (depth : Nat) :
    FailsWith Typed (checkDepth limit depth) := by
  intro flaw hFailed type hCode
  unfold checkDepth obey at hFailed
  split at hFailed
  · cases hFailed
  · split at hFailed
    · cases hFailed
    · cases hFailed
      cases type <;> cases hCode

/-- The check of a leaf that has all that it lists of its type does not come to a wrong type. -/
theorem typed_of_check {limit : Option Nat} {depth : Nat} {schema : Schema} (hFlat : schema.IsFlat)
    {type : ValueType} {common : Common} (hType : schema.type? = some type)
    (hCommon : schema.common? = some common) {value : Json}
    (hListed : (∀ choices ∈ common.choices, ∃ choice ∈ choices, choice.same value = true) →
      type.Has value) : FailsWith Typed (check limit depth schema value) := by
  rw [check_eq_of_isFlat hFlat]
  apply (typed_of_checkDepth limit depth).bind
  intro _ _ flaw hFailed
  obtain ⟨rest, hFlaws, hRest⟩ := schema.exists_violations_eq_leafFlaws hFlat hType hCommon value
  have hFirst : (leafFlaws common value rest).head? = some flaw := by
    rw [← hFlaws, ← failure?_check schema depth, failure?_eq_some_iff]
    exact hFailed
  unfold leafFlaws at hFirst
  split at hFirst
  · cases hFirst
  -- The type is looked at only after the value was found among those listed.
  cases hChoices : choiceFlaws common value with
  | nil =>
    have hAmong := broken_eq_nil_iff.mp hChoices
    simp only [List.any_eq_true] at hAmong
    rw [hChoices] at hFirst
    exact (hRest (hListed hAmong) flaw (List.mem_of_head? hFirst)).code_ne_typeFault
  | cons first others =>
    rw [hChoices] at hFirst
    obtain rfl : first = flaw := Option.some.inj hFirst
    exact (ofRule_of_mem_choiceFlaws (hChoices ▸ List.mem_cons_self)).code_ne_typeFault

theorem accepts_null_iff {limit : Option Nat} {depth : Nat} {schema : Schema} {common : Common}
    (hCommon : schema.common? = some common) : Accepts limit depth schema .null ↔
      checkDepth limit depth = .ok () ∧ common.nullable = true := by
  by_cases hFlat : schema.IsFlat
  · rw [accepts_flat_iff hFlat, Schema.satisfies_null_iff hCommon]
  · cases schema with
    | combined combinator members => cases hCommon
    | array common rules items =>
      cases hCommon
      rw [accepts_array_iff, Common.allows_null_iff nofun]
    | record common rules properties extra =>
      cases hCommon
      rw [accepts_record_iff, Common.allows_null_iff nofun]
    | _ => exact absurd trivial hFlat

theorem Makes.nests {call next : Call} (h : Makes call next) :
    Schema.Nests call.schema next.schema ∧ next.depth = call.depth + 1 := by
  cases h with
  | member hMember => exact ⟨.member hMember, rfl⟩
  | item hItem => exact ⟨.inner .items, rfl⟩
  | property hProperty hValue => exact ⟨.inner (.property hProperty), rfl⟩
  | extra hMember => exact ⟨.inner .extra, rfl⟩

theorem Run.nodeAt {schema : Schema} {value : Json} {call : Call}
    (hRun : Run ⟨1, schema, value⟩ call) : schema.NodeAt call.depth call.schema := by
  induction hRun with
  | refl => exact .top
  | tail _ hMakes ih =>
    obtain ⟨hNests, hDepth⟩ := hMakes.nests
    rw [hDepth]
    exact .nested ih hNests

theorem Enters.makes {limit : Option Nat} {call next : Call} {step : Step}
    (h : Enters limit call step next) : Makes call next := by
  cases h with
  | item hBefore => exact .item (List.mem_append_right _ List.mem_cons_self)
  | property hValue hBefore =>
    exact Makes.property (List.mem_append_right _ List.mem_cons_self) hValue
  | extra hOthers hProperties hBefore =>
    exact Makes.extra (hOthers ▸ List.mem_append_right _ List.mem_cons_self)

theorem Leads.run {limit : Option Nat} {call last : Call} {steps : List Step}
    (h : Leads limit call steps last) : Run call last := by
  induction h with
  | here => exact .refl
  | step hEnters _ ih => exact .head hEnters.makes ih

end Validation

namespace Schema

theorem nodeWellFormed_of_nodeAt {settings : Settings} {place : Path} {raw : Json} {schema : Schema}
    (hRead : (readAt place settings raw).result = .ok schema) {depth : Nat} {node : Schema}
    (hNode : NodeAt schema depth node) : node.NodeWellFormed settings := by
  obtain ⟨left, inside, -, hInside⟩ := exists_read_of_nodeAt (readAt_eq_ok_iff.mp hRead) hNode
  obtain ⟨lower, source, rfl, rfl, hReads⟩ := reads_of_readLevels hInside
  exact hReads.nodeWellFormed

theorem NodeWellFormed.listed_has {settings : Settings} {node : Schema}
    (h : node.NodeWellFormed settings) {type : ValueType} (hType : node.type? = some type)
    {common : Common} (hCommon : node.common? = some common) {choices : List Json}
    (hChoices : common.choices = some choices) : type.isScalar = true ∧
      ∀ value, (∃ choice ∈ choices, choice.same value = true) → type.Has value := by
  obtain ⟨hScalar, items, hItems, -, -, hHas⟩ := h.choices type hType common hCommon choices hChoices
  obtain rfl : choices = items := Json.array.inj hItems
  refine ⟨hScalar, ?_⟩
  rintro value ⟨choice, hMem, hSame⟩
  exact ValueType.has_of_same hSame (hHas choice hMem)

theorem exists_type_of_common {schema : Schema} {common : Common}
    (hCommon : schema.common? = some common) : ∃ type, schema.type? = some type := by
  cases schema with
  | combined combinator members => cases hCommon
  | _ => exact ⟨_, rfl⟩

/-- What a leaf makes of listed values and of null. -/
structure ListsOwnType (node : Schema) (type : ValueType) (common : Common) : Prop where
  admits : ∀ choices ∈ common.choices, ∀ value,
    (∃ choice ∈ choices, choice.same value = true) → type.admits value = true
  typed : common.choices.isSome = true → ∀ limit level value,
    FailsWith Typed (check limit level node value)
  null : ∀ limit level, (∀ most ∈ limit, level ≤ most) →
    (Accepts limit level node .null ↔ common.nullable = true)

theorem NodeWellFormed.listsOwnType {settings : Settings} {node : Schema}
    (h : node.NodeWellFormed settings) {type : ValueType} (hType : node.type? = some type)
    {common : Common} (hCommon : node.common? = some common) :
    node.ListsOwnType type common where
  admits choices hChoices value hAmong :=
    ValueType.admits_iff.mpr ((h.listed_has hType hCommon hChoices).2 value hAmong)
  typed hSome limit level value := by
    obtain ⟨choices, hChoices⟩ := Option.isSome_iff_exists.mp hSome
    obtain ⟨hScalar, hListed⟩ := h.listed_has hType hCommon hChoices
    refine typed_of_check (isFlat_of_isScalar hType hScalar) hType hCommon fun hAmong => ?_
    exact hListed value (hAmong choices hChoices)
  null limit level hLevel := by
    have hDepth : checkDepth limit level = .ok () := by
      cases limit with
      | none => rfl
      | some most => exact checkDepth_some (hLevel most rfl)
    rw [accepts_null_iff hCommon, hDepth]
    exact and_iff_right rfl

/-- Every leaf of a schema that was read lists values of its own type only. So no call of a run
finds a wrong type at a leaf that lists values, and a wrong type that is reported was found where
none are listed. -/
theorem choices_rule_out_type_faults {settings : Settings} {root : Path} {raw : Json}
    {schema : Schema} (hRead : (readAt root settings raw).result = .ok schema) :
    (∀ depth node, NodeAt schema depth node → ∀ type ∈ node.type?, ∀ common ∈ node.common?,
      node.ListsOwnType type common) ∧
    (∀ limit value call, Run ⟨1, schema, value⟩ call → ∀ common ∈ call.schema.common?,
      common.choices.isSome = true → FailsWith Typed (call.run limit)) ∧
    ∀ place limit required value violation,
      (checkAt place limit schema required value).result = .error violation →
      ∀ type : ValueType, violation.code = .value type.typeFault →
        ∃ present, value = some present ∧ ∃ steps last,
          Validation.Leads limit ⟨1, schema, present⟩ steps last ∧
          violation.path = { place with steps := place.steps ++ steps } ∧
          last.run limit = .error ⟨[], violation.code, violation.params⟩ ∧
          ∀ common ∈ last.schema.common?, common.choices = none := by
  have hLeaf (depth : Nat) (node : Schema) (hNode : NodeAt schema depth node) (type : ValueType)
      (hType : node.type? = some type) (common : Common) (hCommon : node.common? = some common) :
      node.ListsOwnType type common :=
    (nodeWellFormed_of_nodeAt hRead hNode).listsOwnType hType hCommon
  have hCalls (limit : Option Nat) (value : Json) (call : Call) (hRun : Run ⟨1, schema, value⟩ call)
      (common : Common) (hCommon : call.schema.common? = some common)
      (hSome : common.choices.isSome = true) : FailsWith Typed (call.run limit) := by
    obtain ⟨type, hType⟩ := exists_type_of_common hCommon
    exact (hLeaf _ _ hRun.nodeAt type hType common hCommon).typed hSome limit call.depth call.value
  refine ⟨hLeaf, hCalls, ?_⟩
  intro place limit required value violation hFailed type hCode
  rw [result_checkAt] at hFailed
  obtain ⟨flaw, hFlaw, rfl⟩ := mapError_eq_error.mp hFailed
  cases value with
  | none =>
    cases required with
    | false => cases hFlaw
    | true =>
      cases hFlaw
      cases type <;> cases hCode
  | some present =>
    have hRun : Call.run limit ⟨1, schema, present⟩ = .error flaw := map_eq_error.mp hFlaw
    obtain ⟨-, last, hLeads, hLast⟩ := exists_leads_of_run_error hRun
    refine ⟨present, rfl, flaw.steps, last, hLeads, rfl, hLast, ?_⟩
    intro common hCommon
    rw [← Option.not_isSome_iff_eq_none]
    intro hSome
    exact hCalls limit present last hLeads.run common hCommon hSome _ hLast type hCode

/-- A nullable number below a combinator, with a double listed that the integer two is the same as,
and which text is not. -/
theorem choices_rule_out_type_faults_below_any_of :
    let two : Binary64 := .ofSmall 2 (by decide +kernel)
    let leaf : Schema :=
      .numeric { nullable := true, choices := some [.number (.double two)] } .number {}
    let raw : Json := .object [("anyOf", .array [.object [("nullable", .bool true),
      ("enum", .array [.number (.double two)]), ("type", .string "number")]])]
    (readAt ⟨"schema", []⟩ {} raw).result = .ok (.combined .anyOf [leaf]) ∧
      (ValueType.numeric .number).admits (.number (.integer 2 (by decide))) = true ∧
      FailsWith Typed (check (some 64) 2 leaf (.string "2")) ∧ Accepts (some 2) 2 leaf .null := by
  intro two leaf raw
  have hRead : (readAt ⟨"schema", []⟩ {} raw).result = .ok (.combined .anyOf [leaf]) := rfl
  obtain ⟨hLeaf, hCalls, -⟩ := choices_rule_out_type_faults hRead
  have hNode : NodeAt (.combined .anyOf [leaf]) 2 leaf := .nested .top (.member List.mem_cons_self)
  have hOwn := hLeaf 2 leaf hNode _ rfl _ rfl
  refine ⟨hRead, hOwn.admits _ rfl _ ⟨_, List.mem_cons_self, by decide +kernel⟩, ?_, ?_⟩
  · exact hCalls (some 64) (.string "2") ⟨2, leaf, .string "2"⟩
      (.single (.member List.mem_cons_self)) _ rfl rfl
  · exact (hOwn.null (some 2) 2 (by simp)).mpr rfl

end Schema

end ParamSchema
