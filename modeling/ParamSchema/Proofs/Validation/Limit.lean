import ParamSchema.Proofs.Validation.Acceptance

/-!
# Smaller and larger limits

A larger limit on nesting lets through what a smaller one lets through, except below
`oneOf`: a member that is refused for its depth is not counted, and one that accepts
may then be the only one that is counted. Where every `oneOf` fits into the smaller
limit, the larger one changes nothing. What is given back never depends on the limit.
-/

set_option autoImplicit false

namespace ParamSchema

open Results

namespace Validation

theorem le_of_checkDepth {limit depth : Nat} (h : checkDepth (some limit) depth = .ok ()) :
    depth ≤ limit := by
  rw [checkDepth, obey] at h
  split at h
  · rename_i hLe
    exact of_decide_eq_true hLe
  · cases h

theorem countPassing_le_length {limit : Option Nat} {depth : Nat} (members : List Schema)
    (value : Json) : countPassing limit depth members value ≤ members.length := by
  induction members with
  | nil => exact Nat.le_refl 0
  | cons member rest ih =>
    rw [countPassing, List.length_cons]
    split <;> omega

theorem isSatisfied_of_le {combinator : Combinator} {passed passed' total : Nat}
    (hCombinator : combinator ≠ .oneOf) (hLe : passed ≤ passed') (hTotal : passed' ≤ total)
    (h : combinator.isSatisfied passed total = true) :
    combinator.isSatisfied passed' total = true := by
  cases combinator with
  | oneOf => exact absurd rfl hCombinator
  | anyOf =>
    simp only [Combinator.isSatisfied, decide_eq_true_eq] at h ⊢
    omega
  | allOf =>
    simp only [Combinator.isSatisfied, beq_iff_eq] at h ⊢
    omega

/-- Every `oneOf` that is reached within the limit fits into it with all that is inside. -/
def OneOfsFit (limit : Nat) (call : Call) : Prop :=
  ∀ depth members value, Run call ⟨depth, .combined .oneOf members, value⟩ → depth ≤ limit →
    depth + (Schema.combined .oneOf members).nesting ≤ limit + 1

theorem OneOfsFit.next {limit : Nat} {call next : Call} (h : OneOfsFit limit call)
    (hMakes : Makes call next) : OneOfsFit limit next :=
  fun depth members value hRun => h depth members value (.head hMakes hRun)

theorem OneOfsFit.of_nesting_le {limit depth : Nat} {schema : Schema} {value : Json}
    (h : depth + schema.nesting ≤ limit + 1) : OneOfsFit limit ⟨depth, schema, value⟩ :=
  fun _ _ _ hRun _ => Nat.le_trans hRun.reach_le h

theorem OneOfsFit.combined {limit depth : Nat} {combinator : Combinator} {members : List Schema}
    {value : Json} (hCombinator : combinator ≠ .oneOf)
    (hMembers : ∀ member ∈ members, OneOfsFit limit ⟨depth + 1, member, value⟩) :
    OneOfsFit limit ⟨depth, .combined combinator members, value⟩ := by
  intro depth' members' value' hRun hDepth
  rcases hRun.cases_head with hEq | ⟨next, hMakes, hRun⟩
  · cases hEq
    exact absurd rfl hCombinator
  · cases hMakes with
    | member hMember => exact hMembers _ hMember depth' members' value' hRun hDepth

section

variable {limit limit' : Nat}

theorem checkItems_of_le {check check' : Json → Except Flaw Json} {index : Nat}
    {items results : List Json}
    (hItems : ∀ item ∈ items, ∀ result, check item = .ok result → check' item = .ok result)
    (h : checkItems check index items = .ok results) :
    checkItems check' index items = .ok results := by
  rw [checkItems_eq_ok_iff] at h ⊢
  exact Schema.forall₂_imp_of_mem h fun item hItem result _ hResult => hItems item hItem result hResult

theorem checkMembers_of_le {check check' : Json → Except Flaw Json}
    {members results : List (String × Json)}
    (hMembers : ∀ member ∈ members, ∀ result, check member.2 = .ok result →
      check' member.2 = .ok result)
    (h : checkMembers check members = .ok results) : checkMembers check' members = .ok results := by
  rw [checkMembers_eq_ok_iff] at h ⊢
  refine Schema.forall₂_imp_of_mem h fun member hMember result _ hResult => ?_
  exact ⟨hResult.1, hMembers member hMember result.2 hResult.2⟩

theorem checkProperties_of_le {limit limit' : Option Nat} {depth : Nat}
    {properties : List (String × Schema)} {members declared : List (String × Json)}
    (hProperties : ∀ property ∈ properties, ∀ value, members.lookup property.1 = some value →
      ∀ filled, check limit depth property.2 value = .ok filled →
        check limit' depth property.2 value = .ok filled)
    (h : checkProperties limit depth properties members = .ok declared) :
    checkProperties limit' depth properties members = .ok declared := by
  induction properties generalizing declared with
  | nil => exact h
  | cons property rest ih =>
    obtain ⟨name, schema⟩ := property
    rw [List.forall_mem_cons] at hProperties
    have hRest {others : List (String × Json)} := @ih others hProperties.2
    rw [checkProperties] at h ⊢
    cases hValue : members.lookup name with
    | none =>
      simp only [hValue, bind_eq_ok] at h ⊢
      obtain ⟨first, hFirst, others, hOthers, hDeclared⟩ := h
      exact ⟨first, hFirst, others, hRest hOthers, hDeclared⟩
    | some value =>
      simp only [hValue, bind_eq_ok, map_eq_ok, inside, mapError_eq_ok] at h ⊢
      obtain ⟨first, ⟨filled, hFilled, hFirst⟩, others, hOthers, hDeclared⟩ := h
      have hFilled' := hProperties.1 value hValue filled hFilled
      exact ⟨first, ⟨filled, hFilled', hFirst⟩, others, hRest hOthers, hDeclared⟩

theorem guarded_of_le (hLe : limit ≤ limit') {depth : Nat} {common : Common} {value filled : Json}
    {rest rest' : Except Flaw Json} (hRest : rest = .ok filled → rest' = .ok filled)
    (h : (do checkDepth (some limit) depth; unlessNull common value rest) = .ok filled) :
    (do checkDepth (some limit') depth; unlessNull common value rest') = .ok filled := by
  obtain ⟨_, hGuard, h⟩ := bind_eq_ok.mp h
  rw [checkDepth_some (Nat.le_trans (le_of_checkDepth hGuard) hLe)]
  change unlessNull common value rest' = .ok filled
  unfold unlessNull at h ⊢
  split at h
  · rename_i hNull
    rw [if_pos hNull]
    exact h
  · rename_i hNull
    rw [if_neg hNull]
    obtain ⟨_, hChoices, h⟩ := bind_eq_ok.mp h
    exact bind_eq_ok.mpr ⟨_, hChoices, hRest h⟩

/-- What a smaller limit accepts where every `oneOf` fits into it, a larger one accepts alike. -/
theorem check_of_le (hLe : limit ≤ limit') (schema : Schema) {depth : Nat} {value filled : Json}
    (hFit : OneOfsFit limit ⟨depth, schema, value⟩)
    (h : check (some limit) depth schema value = .ok filled) :
    check (some limit') depth schema value = .ok filled := by
  induction schema generalizing depth value filled with
  | combined combinator members ih =>
    have hGuard : checkDepth (some limit) depth = .ok () := by
      rw [check] at h
      obtain ⟨_, hGuard, -⟩ := bind_eq_ok.mp h
      exact hGuard
    have hDepth : depth ≤ limit := le_of_checkDepth hGuard
    by_cases hOneOf : combinator = .oneOf
    · -- What fits into the smaller limit is checked as without any limit.
      subst hOneOf
      have hNesting := hFit depth members value .refl hDepth
      rw [check_limit_eq_unlimited value (by omega),
        ← check_limit_eq_unlimited value hNesting]
      exact h
    · -- The members that accept still do, and more of them cannot hurt.
      have hCount : countPassing (some limit) (depth + 1) members value ≤
          countPassing (some limit') (depth + 1) members value := by
        apply countPassing_le
        rintro member hMember ⟨filled, hFilled⟩
        exact ⟨filled, ih member hMember (hFit.next (.member hMember)) hFilled⟩
      rw [check, hGuard] at h
      rw [check, checkDepth_some (Nat.le_trans hDepth hLe)]
      change (if _ then _ else _) = _ at h
      change (if _ then _ else _) = _
      split at h
      · rename_i hSatisfied
        rw [if_pos (isSatisfied_of_le hOneOf hCount (countPassing_le_length members value)
          hSatisfied)]
        exact h
      · cases h
  | string common rules =>
    rw [check.eq_def] at h ⊢
    exact guarded_of_le hLe id h
  | numeric common type rules =>
    rw [check] at h ⊢
    exact guarded_of_le hLe id h
  | boolean common =>
    rw [check.eq_def] at h ⊢
    exact guarded_of_le hLe id h
  | array common rules items ih =>
    rw [check.eq_def] at h ⊢
    refine guarded_of_le hLe ?_ h
    cases value with
    | array list =>
      simp only [bind_eq_ok, pure_eq_ok]
      rintro ⟨_, hRules, filledList, hList, rfl⟩
      refine ⟨_, hRules, filledList, checkItems_of_le ?_ hList, rfl⟩
      exact fun item hItem _ hFilled => ih (hFit.next (.item hItem)) hFilled
    | _ => exact id
  | object common rules =>
    rw [check.eq_def] at h ⊢
    exact guarded_of_le hLe id h
  | record common rules properties extra ihProperties ihExtra =>
    rw [check.eq_def] at h ⊢
    refine guarded_of_le hLe ?_ h
    cases value with
    | object members =>
      simp only [bind_eq_ok, pure_eq_ok]
      rintro ⟨_, hRules, _, hRefused, declared, hDeclared, others, hOthers, rfl⟩
      have hDeclared' : checkProperties (some limit') (depth + 1) properties members =
          .ok declared := by
        refine checkProperties_of_le ?_ hDeclared
        intro property hProperty value hValue filled hFilled
        exact ihProperties property hProperty (hFit.next (.property hProperty hValue)) hFilled
      have hOthers' : checkExtra (some limit') (depth + 1) extra (undeclared properties members) =
          .ok others := by
        cases extra with
        | matching schema =>
          refine checkMembers_of_le ?_ hOthers
          intro member hMember filled hFilled
          exact ihExtra schema rfl (hFit.next (.extra hMember)) hFilled
        | allowed => exact hOthers
        | refused => exact hOthers
      exact ⟨_, hRules, _, hRefused, declared, hDeclared', others, hOthers', rfl⟩
    | _ => exact id

end

end Validation

open Validation

namespace Schema

/-- A value that is accepted with a limit is accepted with a larger one if every `oneOf` that its
check reaches within the smaller limit fits into it. In any case what a larger limit gives back is
what the smaller one does. -/
theorem larger_limit_accepts_alike {limit limit' : Nat} (hLe : limit ≤ limit') {place : Path}
    {schema : Schema} {required : Bool} {value filled : Json}
    (h : (checkAt place (some limit) schema required (some value)).result = .ok (some filled)) :
    (OneOfsFit limit ⟨1, schema, value⟩ →
      (checkAt place (some limit') schema required (some value)).result = .ok (some filled)) ∧
    ∀ other, (checkAt place (some limit') schema required (some value)).result = .ok (some other) →
      other = filled := by
  rw [checkAt_eq_ok_iff] at h
  constructor
  · intro hFit
    rw [checkAt_eq_ok_iff]
    exact check_of_le hLe schema hFit h
  · intro other hOther
    rw [checkAt_eq_ok_iff] at hOther
    exact schema.fills_unique (fills_of_check schema hOther) (fills_of_check schema h)

theorem larger_limit_accepts_any_of :
    let schema : Schema := .combined .anyOf [.combined .oneOf [.boolean {}, .string {} {}],
      .combined .allOf [.combined .anyOf [.boolean {}]]]
    (checkAt ⟨"p", []⟩ (some 3) schema true (some (.bool true))).result =
      .ok (some (.bool true)) ∧
    OneOfsFit 3 ⟨1, schema, .bool true⟩ ∧
    (checkAt ⟨"p", []⟩ (some 64) schema true (some (.bool true))).result =
      .ok (some (.bool true)) := by
  intro schema
  have hFit : OneOfsFit 3 ⟨1, schema, .bool true⟩ := by
    apply OneOfsFit.combined (by decide)
    intro member hMember
    rcases List.mem_pair.mp hMember with rfl | rfl
    · exact .of_nesting_le (by decide)
    · apply OneOfsFit.combined (by decide)
      intro member hMember
      rw [List.mem_singleton.mp hMember]
      apply OneOfsFit.combined (by decide)
      intro member hMember
      rw [List.mem_singleton.mp hMember]
      intro depth members value hRun hDepth
      rcases hRun.cases_head with hEq | ⟨next, hMakes, -⟩
      · cases hEq
      · cases hMakes
  have h : (checkAt ⟨"p", []⟩ (some 3) schema true (some (.bool true))).result =
      .ok (some (.bool true)) := rfl
  exact ⟨h, hFit, (larger_limit_accepts_alike (by decide) h).1 hFit⟩

/-- With a limit of two the second member is refused for its depth, so one member accepts; with a
larger limit both do. -/
theorem smaller_limit_accepts_one_of :
    let schema : Schema := .combined .oneOf [.boolean {}, .combined .anyOf [.boolean {}]]
    (readAt ⟨"schema", []⟩ {} (.object [("oneOf", .array [.object [("type", .string "boolean")],
      .object [("anyOf", .array [.object [("type", .string "boolean")]])]])])).result =
        .ok schema ∧
      (checkAt ⟨"p", []⟩ (some 2) schema false (some (.bool true))).result =
        .ok (some (.bool true)) ∧
      (checkAt ⟨"p", []⟩ (some 64) schema false (some (.bool true))).result =
        .error ⟨⟨"p", []⟩, .value .oneOf, []⟩ :=
  ⟨rfl, rfl, rfl⟩

end Schema

end ParamSchema
