import Mathlib.Logic.Relation
import ParamSchema.Schema.Basic

/-!
# Nesting of schemas

Induction over a schema from the schemas inside it, the number of levels that a schema
takes, and the schemas that it reaches without passing through a combinator.
-/

set_option autoImplicit false

namespace ParamSchema.Schema

@[elab_as_elim, induction_eliminator]
theorem nestedInduction {motive : Schema → Prop}
    (combined : ∀ combinator members, (∀ member ∈ members, motive member) →
      motive (.combined combinator members))
    (string : ∀ common rules, motive (.string common rules))
    (numeric : ∀ common type rules, motive (.numeric common type rules))
    (boolean : ∀ common, motive (.boolean common))
    (array : ∀ common rules items, motive items → motive (.array common rules items))
    (object : ∀ common rules, motive (.object common rules))
    (record : ∀ common rules properties extra, (∀ property ∈ properties, motive property.2) →
      (∀ schema, extra = .matching schema → motive schema) →
      motive (.record common rules properties extra))
    (schema : Schema) : motive schema := by
  have nested (other : Schema) (hSize : sizeOf other < sizeOf schema) : motive other :=
    nestedInduction combined string numeric boolean array object record other
  cases schema with
  | combined combinator members =>
    apply combined
    intro member hMember
    apply nested
    have hSize := List.sizeOf_lt_of_mem hMember
    simp only [Schema.combined.sizeOf_spec]
    omega
  | string common rules => exact string common rules
  | numeric common type rules => exact numeric common type rules
  | boolean common => exact boolean common
  | array common rules items =>
    apply array
    apply nested
    simp only [Schema.array.sizeOf_spec]
    omega
  | object common rules => exact object common rules
  | record common rules properties extra =>
    apply record
    · intro property hProperty
      apply nested
      have hSize := List.sizeOf_lt_of_mem hProperty
      obtain ⟨name, inner⟩ := property
      simp only [Prod.mk.sizeOf_spec] at hSize
      simp only [Schema.record.sizeOf_spec]
      omega
    · intro inner hExtra
      apply nested
      subst hExtra
      simp only [Schema.record.sizeOf_spec, Extra.matching.sizeOf_spec]
      omega
termination_by sizeOf schema

mutual

/-- The number of levels: one for a schema without nested ones, else one more than the deepest of
them takes. -/
def nesting : Schema → Nat
  | .combined _ members => nestingOfMembers members + 1
  | .array _ _ items => nesting items + 1
  | .record _ _ properties extra => max (nestingOfProperties properties) (nestingOfExtra extra) + 1
  | .string _ _ | .numeric _ _ _ | .boolean _ | .object _ _ => 1

def nestingOfMembers : List Schema → Nat
  | [] => 0
  | member :: rest => max (nesting member) (nestingOfMembers rest)

def nestingOfProperties : List (String × Schema) → Nat
  | [] => 0
  | (_, property) :: rest => max (nesting property) (nestingOfProperties rest)

def nestingOfExtra : Extra Schema → Nat
  | .matching schema => nesting schema
  | .allowed | .refused => 0

end

theorem nesting_pos (schema : Schema) : 0 < schema.nesting := by
  cases schema <;> simp [nesting]

theorem nestingOfMembers_le_iff {members : List Schema} {levels : Nat} :
    nestingOfMembers members ≤ levels ↔ ∀ member ∈ members, member.nesting ≤ levels := by
  induction members with
  | nil => simp [nestingOfMembers]
  | cons member rest ih => rw [nestingOfMembers, Nat.max_le, ih, List.forall_mem_cons]

theorem nestingOfProperties_le_iff {properties : List (String × Schema)} {levels : Nat} :
    nestingOfProperties properties ≤ levels ↔
      ∀ property ∈ properties, property.2.nesting ≤ levels := by
  induction properties with
  | nil => simp [nestingOfProperties]
  | cons property rest ih =>
    obtain ⟨name, schema⟩ := property
    rw [nestingOfProperties, Nat.max_le, ih, List.forall_mem_cons]

theorem nestingOfExtra_le_iff {extra : Extra Schema} {levels : Nat} :
    nestingOfExtra extra ≤ levels ↔ ∀ schema, extra = .matching schema → schema.nesting ≤ levels := by
  cases extra <;> simp [nestingOfExtra]

def EachNested (property : Schema → Prop) : Schema → Prop
  | .combined _ members => ∀ member ∈ members, property member
  | .array _ _ items => property items
  | .record _ _ properties extra =>
    (∀ entry ∈ properties, property entry.2) ∧ ∀ schema, extra = .matching schema → property schema
  | .string _ _ | .numeric _ _ _ | .boolean _ | .object _ _ => True

theorem nesting_le_succ_iff {schema : Schema} {levels : Nat} :
    schema.nesting ≤ levels + 1 ↔ schema.EachNested (·.nesting ≤ levels) := by
  cases schema with
  | combined combinator members =>
    rw [nesting, Nat.add_le_add_iff_right, nestingOfMembers_le_iff, EachNested]
  | array common rules items => rw [nesting, Nat.add_le_add_iff_right, EachNested]
  | record common rules properties extra =>
    rw [nesting, Nat.add_le_add_iff_right, Nat.max_le, nestingOfProperties_le_iff,
      nestingOfExtra_le_iff, EachNested]
  | string common rules => simp [nesting, EachNested]
  | numeric common type rules => simp [nesting, EachNested]
  | boolean common => simp [nesting, EachNested]
  | object common rules => simp [nesting, EachNested]

/-- A schema stands directly inside one that is no combinator. -/
inductive Inner : Schema → Schema → Prop
  | items {common : Common} {rules : ArrayRules} {items : Schema} :
      Inner (.array common rules items) items
  | property {common : Common} {rules : ObjectRules} {properties : List (String × Schema)}
      {extra : Extra Schema} {property : String × Schema} (hProperty : property ∈ properties) :
      Inner (.record common rules properties extra) property.2
  | extra {common : Common} {rules : ObjectRules} {properties : List (String × Schema)}
      {schema : Schema} : Inner (.record common rules properties (.matching schema)) schema

/-- A schema is reached from another without passing through a combinator. -/
abbrev Reaches : Schema → Schema → Prop := Relation.ReflTransGen Inner

def Everywhere (property : Schema → Prop) (schema : Schema) : Prop :=
  ∀ reached, Reaches schema reached → property reached

namespace Everywhere

variable {property : Schema → Prop} {schema : Schema}

theorem top (h : schema.Everywhere property) : property schema := h schema .refl

theorem inner (h : schema.Everywhere property) {nested : Schema} (hInner : Inner schema nested) :
    nested.Everywhere property :=
  fun reached hReaches => h reached (.head hInner hReaches)

theorem of_inner (hTop : property schema)
    (hInner : ∀ nested, Inner schema nested → nested.Everywhere property) :
    schema.Everywhere property := by
  intro reached hReaches
  rcases hReaches.cases_head with rfl | ⟨nested, hFirst, hRest⟩
  · exact hTop
  · exact hInner nested hFirst reached hRest

end Everywhere

theorem EachNested.of_inner {property : Schema → Prop} {schema inner : Schema}
    (h : schema.EachNested property) (hInner : Inner schema inner) : property inner := by
  cases hInner with
  | items => exact h
  | property hProperty => exact h.1 _ hProperty
  | extra => exact h.2 _ rfl

theorem Inner.nesting_lt {schema inner : Schema} (h : Inner schema inner) :
    inner.nesting < schema.nesting := by
  have hPos := schema.nesting_pos
  have hNested : schema.EachNested (·.nesting ≤ schema.nesting - 1) :=
    nesting_le_succ_iff.mp (by omega)
  have hLe : inner.nesting ≤ schema.nesting - 1 := hNested.of_inner h
  omega

theorem Reaches.nesting_le {schema reached : Schema} (h : Reaches schema reached) :
    reached.nesting ≤ schema.nesting := by
  induction h with
  | refl => exact Nat.le_refl _
  | tail _ hInner ih => exact Nat.le_trans (Nat.le_of_lt hInner.nesting_lt) ih

end ParamSchema.Schema
