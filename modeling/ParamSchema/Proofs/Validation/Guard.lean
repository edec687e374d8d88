import Mathlib.Logic.Relation
import ParamSchema.Proofs.Schema.Reading
import ParamSchema.Proofs.Validation.Violations

/-!
# The guards on nesting

Reading a schema and checking a value each refuse to nest too deep. The calls that a
check can make go down the schema level by level, so the depth of a call and the
levels left in its schema never exceed the levels of the whole schema. A schema that
was read within a limit is therefore checked within it, and the limit changes nothing.
-/

set_option autoImplicit false

namespace ParamSchema

open Results

namespace Validation

structure Call where
  depth : Nat
  schema : Schema
  value : Json

/-- The calls that a call can make. -/
inductive Makes : Call → Call → Prop
  | member {depth : Nat} {combinator : Combinator} {members : List Schema} {member : Schema}
      {value : Json} (hMember : member ∈ members) :
      Makes ⟨depth, .combined combinator members, value⟩ ⟨depth + 1, member, value⟩
  | item {depth : Nat} {common : Common} {rules : ArrayRules} {items : Schema} {list : List Json}
      {item : Json} (hItem : item ∈ list) :
      Makes ⟨depth, .array common rules items, .array list⟩ ⟨depth + 1, items, item⟩
  | property {depth : Nat} {common : Common} {rules : ObjectRules}
      {properties : List (String × Schema)} {extra : Extra Schema} {members : List (String × Json)}
      {property : String × Schema} {value : Json} (hProperty : property ∈ properties)
      (hValue : members.lookup property.1 = some value) :
      Makes ⟨depth, .record common rules properties extra, .object members⟩
        ⟨depth + 1, property.2, value⟩
  | extra {depth : Nat} {common : Common} {rules : ObjectRules}
      {properties : List (String × Schema)} {schema : Schema} {members : List (String × Json)}
      {member : String × Json} (hMember : member ∈ undeclared properties members) :
      Makes ⟨depth, .record common rules properties (.matching schema), .object members⟩
        ⟨depth + 1, schema, member.2⟩

abbrev Run := Relation.ReflTransGen Makes

def Call.reach (call : Call) : Nat := call.depth + call.schema.nesting

theorem Makes.reach_le {call next : Call} (h : Makes call next) : next.reach ≤ call.reach := by
  have hNesting (schema : Schema) : schema.EachNested (·.nesting ≤ schema.nesting - 1) := by
    have hPos := schema.nesting_pos
    exact Schema.nesting_le_succ_iff.mp (by omega)
  have hBound (depth : Nat) {schema nested : Schema} (hLe : nested.nesting ≤ schema.nesting - 1) :
      depth + 1 + nested.nesting ≤ depth + schema.nesting := by
    have hPos := schema.nesting_pos
    omega
  cases h with
  | member hMember => exact hBound _ (hNesting (.combined _ _) _ hMember)
  | item hItem => exact hBound _ (hNesting (.array _ _ _))
  | property hProperty hValue => exact hBound _ ((hNesting (.record _ _ _ _)).1 _ hProperty)
  | extra hMember => exact hBound _ ((hNesting (.record _ _ _ _)).2 _ rfl)

theorem Run.reach_le {call last : Call} (hRun : Run call last) : last.reach ≤ call.reach := by
  induction hRun with
  | refl => exact Nat.le_refl _
  | tail _ hMakes ih => exact Nat.le_trans hMakes.reach_le ih

theorem checkDepth_some {limit depth : Nat} (h : depth ≤ limit) :
    checkDepth (some limit) depth = .ok () := by
  simp [checkDepth, obey, h]

/-- A guard that lets a schema of few enough levels pass lets every call of its run pass. -/
theorem Run.checkDepth {limit depth : Nat} {schema : Schema} {value : Json} {last : Call}
    (hRun : Run ⟨depth, schema, value⟩ last) (hLimit : depth + schema.nesting ≤ limit + 1) :
    checkDepth (some limit) last.depth = .ok () := by
  apply checkDepth_some
  have hReach : last.depth + last.schema.nesting ≤ depth + schema.nesting := hRun.reach_le
  have hPos := last.schema.nesting_pos
  omega

section

variable {limit limit' : Option Nat}

theorem checkItems_congr {check check' : Json → Except Flaw Json} {items : List Json}
    (h : ∀ item ∈ items, check item = check' item) (index : Nat) :
    checkItems check index items = checkItems check' index items := by
  induction items generalizing index with
  | nil => rfl
  | cons item rest ih =>
    rw [checkItems, checkItems, h item List.mem_cons_self,
      ih (fun other hOther => h other (List.mem_cons_of_mem _ hOther))]

theorem checkMembers_congr {check check' : Json → Except Flaw Json}
    {members : List (String × Json)} (h : ∀ member ∈ members, check member.2 = check' member.2) :
    checkMembers check members = checkMembers check' members := by
  induction members with
  | nil => rfl
  | cons member rest ih =>
    obtain ⟨key, value⟩ := member
    rw [checkMembers, checkMembers, h _ List.mem_cons_self,
      ih (fun other hOther => h other (List.mem_cons_of_mem _ hOther))]

theorem countPassing_congr {depth : Nat} {members : List Schema} {value : Json}
    (h : ∀ member ∈ members, check limit depth member value = check limit' depth member value) :
    countPassing limit depth members value = countPassing limit' depth members value := by
  induction members with
  | nil => rfl
  | cons member rest ih =>
    rw [countPassing, countPassing, h member List.mem_cons_self,
      ih (fun other hOther => h other (List.mem_cons_of_mem _ hOther))]

theorem checkProperties_congr {depth : Nat} {properties : List (String × Schema)}
    {members : List (String × Json)}
    (h : ∀ property ∈ properties, ∀ value, members.lookup property.1 = some value →
      check limit depth property.2 value = check limit' depth property.2 value) :
    checkProperties limit depth properties members =
      checkProperties limit' depth properties members := by
  induction properties with
  | nil => rfl
  | cons property rest ih =>
    obtain ⟨name, schema⟩ := property
    have hRest := ih fun other hOther => h other (List.mem_cons_of_mem _ hOther)
    rw [checkProperties, checkProperties, hRest]
    cases hValue : members.lookup name with
    | none => rfl
    | some value =>
      have hFirst : check limit depth schema value = check limit' depth schema value :=
        h (name, schema) List.mem_cons_self value hValue
      dsimp only
      rw [hFirst]

/-- Two limits whose guards agree on every call of a run give the run the same result. -/
theorem check_congr (schema : Schema) (depth : Nat) (value : Json)
    (h : ∀ last, Run ⟨depth, schema, value⟩ last →
      checkDepth limit last.depth = checkDepth limit' last.depth) :
    check limit depth schema value = check limit' depth schema value := by
  have hGuard := h _ .refl
  -- The hypothesis for a call holds for the calls that it makes.
  have hNext (next : Call) (hMakes : Makes ⟨depth, schema, value⟩ next) (last : Call)
      (hRun : Run next last) : checkDepth limit last.depth = checkDepth limit' last.depth :=
    h last (.head hMakes hRun)
  clear h
  induction schema generalizing depth value with
  | combined combinator members ih =>
    have hMembers : countPassing limit (depth + 1) members value =
        countPassing limit' (depth + 1) members value := by
      apply countPassing_congr
      intro member hMember
      have hCalls := hNext _ (.member hMember)
      exact ih member hMember (depth + 1) value (hCalls _ .refl) fun next hMakes last hRun =>
        hCalls last (.head hMakes hRun)
    rw [check, check, hGuard, hMembers]
  | string common rules =>
    rw [check.eq_def, check.eq_def limit']
    dsimp only at hGuard ⊢
    rw [hGuard]
  | numeric common type rules => rw [check, check, hGuard]
  | boolean common =>
    rw [check.eq_def, check.eq_def limit']
    dsimp only at hGuard ⊢
    rw [hGuard]
  | array common rules items ih =>
    rw [check.eq_def, check.eq_def limit']
    dsimp only at hGuard ⊢
    rw [hGuard]
    cases value with
    | array list =>
      have hItems : checkItems (check limit (depth + 1) items) 0 list =
          checkItems (check limit' (depth + 1) items) 0 list := by
        apply checkItems_congr
        intro item hItem
        have hCalls := hNext _ (.item hItem)
        exact ih (depth + 1) item (hCalls _ .refl) fun next hMakes last hRun =>
          hCalls last (.head hMakes hRun)
      dsimp only
      rw [hItems]
    | _ => rfl
  | object common rules =>
    rw [check.eq_def, check.eq_def limit']
    dsimp only at hGuard ⊢
    rw [hGuard]
  | record common rules properties extra ihProperties ihExtra =>
    rw [check.eq_def, check.eq_def limit']
    dsimp only at hGuard ⊢
    rw [hGuard]
    cases value with
    | object members =>
      have hProperties : checkProperties limit (depth + 1) properties members =
          checkProperties limit' (depth + 1) properties members := by
        apply checkProperties_congr
        intro property hProperty value hValue
        have hCalls := hNext _ (.property hProperty hValue)
        exact ihProperties property hProperty (depth + 1) value (hCalls _ .refl)
          fun next hMakes last hRun => hCalls last (.head hMakes hRun)
      have hExtra : checkExtra limit (depth + 1) extra (undeclared properties members) =
          checkExtra limit' (depth + 1) extra (undeclared properties members) := by
        cases extra with
        | matching schema =>
          apply checkMembers_congr
          intro member hMember
          have hCalls := hNext _ (.extra hMember)
          exact ihExtra schema rfl (depth + 1) member.2 (hCalls _ .refl)
            fun next hMakes last hRun => hCalls last (.head hMakes hRun)
        | allowed => rfl
        | refused => rfl
      dsimp only
      rw [hProperties, hExtra]
    | _ => rfl

end

theorem check_limit_eq_unlimited {limit depth : Nat} {schema : Schema} (value : Json)
    (hLimit : depth + schema.nesting ≤ limit + 1) :
    check (some limit) depth schema value = check none depth schema value :=
  check_congr schema depth value fun _ hRun => hRun.checkDepth hLimit

end Validation

open Validation

namespace Schema

theorem code_ne_depth_of_checkAt {place : Path} {schema : Schema} {required : Bool}
    {value : Option Json} {violation : Violation}
    (h : (checkAt place none schema required value).result = .error violation) :
    violation.code ≠ .value .depth := by
  unfold checkAt at h
  split at h
  · cases h
  · rename_i flaw hFlaw
    cases h
    cases value with
    | none =>
      rw [validate] at hFlaw
      split at hFlaw
      · cases hFlaw
        intro hEq
        cases hEq
      · cases hFlaw
    | some given =>
      rw [validate, ← failure?_eq_some_iff, failure?_map, failure?_check] at hFlaw
      obtain ⟨fault, hCode, -, hDepth⟩ :=
        ofValue_of_mem_violations schema given flaw (List.mem_of_head? hFlaw)
      intro hEq
      have hFault : Code.value fault = .value .depth := hCode.symm.trans hEq
      exact hDepth (Code.value.inj hFault)

theorem checkAt_limit_eq_unlimited {limit : Nat} {schema : Schema} (place : Path) (required : Bool)
    (value : Option Json) (hLimit : schema.nesting ≤ limit) :
    checkAt place (some limit) schema required value = checkAt place none schema required value := by
  have hValidate : schema.validate (some limit) required value =
      schema.validate none required value := by
    cases value with
    | none => rfl
    | some given =>
      rw [validate, validate, check_limit_eq_unlimited given (by omega)]
  rw [checkAt, checkAt, hValidate]

/-- A schema that was read with some settings is checked, with settings that let it nest at least
as deep, without the guard ever refusing a call: not in a run for a value that is there, and so
with the outcome of a check without a guard, which is never for depth. -/
theorem guard_never_refuses {settings settings' : Settings} {root : Path} {raw : Json}
    {schema : Schema} (hRead : (readAt root settings raw).result = .ok schema)
    (hDepth : settings.maxDepth ≤ settings'.maxDepth) (place : Path) (required : Bool)
    (value : Option Json) :
    (∀ given ∈ value, ∀ call, Run ⟨1, schema, given⟩ call →
      checkDepth (some settings'.maxDepth) call.depth = .ok ()) ∧
    checkAt place (some settings'.maxDepth) schema required value =
      checkAt place none schema required value ∧
    ∀ violation, (checkAt place (some settings'.maxDepth) schema required value).result =
      .error violation → violation.code ≠ .value .depth := by
  have hNesting : schema.nesting ≤ settings'.maxDepth :=
    Nat.le_trans (nesting_le_of_readAt hRead) hDepth
  have hSame := checkAt_limit_eq_unlimited place required value hNesting
  refine ⟨fun given _ call hRun => hRun.checkDepth (by omega), hSame, ?_⟩
  intro violation hViolation
  rw [hSame] at hViolation
  exact code_ne_depth_of_checkAt hViolation

theorem guard_never_refuses_three_levels :
    let raw : Json := .object [("anyOf", .array [.object [("type", .string "array"),
      ("items", .object [("type", .string "boolean")])]])]
    let schema : Schema := .combined .anyOf [.array {} {} (.boolean {})]
    let value : Json := .array [.bool true, .array [.null]]
    (readAt ⟨"schema", []⟩ { maxDepth := 3 } raw).result = .ok schema ∧
      checkAt ⟨"p", []⟩ (some 4) schema true (some value) =
        checkAt ⟨"p", []⟩ none schema true (some value) := by
  intro raw schema value
  have hRead : (readAt ⟨"schema", []⟩ { maxDepth := 3 } raw).result = .ok schema := rfl
  exact ⟨hRead, (@guard_never_refuses _ { maxDepth := 4 } _ _ _ hRead (by decide) _ _ _).2.1⟩

end Schema

end ParamSchema
