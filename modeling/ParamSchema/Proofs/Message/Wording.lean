import ParamSchema.Parameter
import ParamSchema.Proofs.Message.Bindings
import ParamSchema.Proofs.Schema.Location
import ParamSchema.Proofs.Validation.Filling

/-!
# Violations in words

Whatever reading a definition or checking a value fails with belongs to the class of what was
done, and binds the keys that its code comes with. So the bundled messages say all of it.
-/

set_option autoImplicit false

namespace ParamSchema

open Results

/-- A code of a class, with the parameters that it comes with. -/
def Flaw.Wordable (category : String) (flaw : Flaw) : Prop :=
  flaw.code.category = category ∧ Members.keys flaw.params = flaw.code.bindings

def Violation.Wordable (category : String) (violation : Violation) : Prop :=
  violation.code.category = category ∧ violation.InWords

theorem Flaw.Wordable.seenFrom {category : String} {flaw : Flaw} (h : flaw.Wordable category)
    (root : Path) : (flaw.seenFrom root).Wordable category :=
  ⟨h.1, Violation.inWords_of_bindings h.2⟩

namespace Schema

/-- Only nesting binds a key, and nesting is found at no keyword. -/
theorem bindings_of_mem_keywords {key : String} {fault : SchemaFault} (h : key ∈ fault.keywords) :
    (Code.schema fault).bindings = [] := by
  cases fault with
  | depth => cases h
  | _ => rfl

theorem wordable_of_blamed {settings : Settings} {levels : Nat} {raw : Json} {flaw : Flaw}
    (h : Blamed settings levels raw flaw) : flaw.Wordable "Schema" := by
  cases h with
  | depth => exact ⟨rfl, rfl⟩
  | notObject => exact ⟨rfl, rfl⟩
  | keyword hOwn =>
    obtain ⟨key, ⟨-, fault, hKey, rfl⟩, -⟩ := hOwn
    exact ⟨rfl, (bindings_of_mem_keywords hKey).symm⟩

theorem wordable_of_ofJson (settings : Settings) (raw : Json) :
    FailsWith (Flaw.Wordable "Schema") (ofJson settings raw).result := by
  intro flaw h
  obtain ⟨places, lower, last, tail, -, hBlamed, -, rfl⟩ := exists_leads_of_readLevels_error h
  have hTail : tail.Wordable "Schema" := wordable_of_blamed hBlamed
  exact hTail

end Schema

namespace Validation

theorem wordable_of_reject {α : Type} {fault : ValueFault} {params : List (String × String)}
    (hKeys : Members.keys params = (Code.value fault).bindings) :
    FailsWith (Flaw.Wordable "Value") (reject fault params : Except Flaw α) := by
  rintro flaw ⟨⟩
  exact ⟨rfl, hKeys⟩

theorem wordable_of_obey {α : Type} {rule : Option α} {holds : α → Bool} {fault : ValueFault}
    {key : String} {text : α → String} (hKey : [key] = (Code.value fault).bindings) :
    FailsWith (Flaw.Wordable "Value") (obey rule holds fault key text) := by
  unfold obey
  split
  · exact .ok ()
  · split
    · exact .ok ()
    · exact wordable_of_reject hKey

theorem wordable_of_checkString (rules : StringRules) (text : String) :
    FailsWith (Flaw.Wordable "Value") (checkString rules text) := by
  refine .bind (wordable_of_obey rfl) fun _ _ => ?_
  refine .bind (wordable_of_obey rfl) fun _ _ => ?_
  refine .bind (wordable_of_obey rfl) fun _ _ => ?_
  exact wordable_of_obey rfl

theorem wordable_of_checkNumber (type : NumericType) (rules : NumberRules) (x : Binary64) :
    FailsWith (Flaw.Wordable "Value") (checkNumber type rules x) := by
  refine .bind (wordable_of_obey rfl) fun _ _ => ?_
  refine .bind (wordable_of_obey rfl) fun _ _ => ?_
  refine .bind (wordable_of_obey rfl) fun _ _ => ?_
  refine .bind (wordable_of_obey rfl) fun _ _ => ?_
  refine .bind (wordable_of_obey rfl) fun _ _ => ?_
  exact wordable_of_obey rfl

theorem wordable_of_checkArray (rules : ArrayRules) (items : List Json) :
    FailsWith (Flaw.Wordable "Value") (checkArray rules items) := by
  refine .bind (wordable_of_obey rfl) fun _ _ => ?_
  refine .bind (wordable_of_obey rfl) fun _ _ => ?_
  split
  · exact wordable_of_reject rfl
  · exact .ok ()

theorem wordable_of_checkObject (rules : ObjectRules) (members : List (String × Json)) :
    FailsWith (Flaw.Wordable "Value") (checkObject rules members) := by
  refine .bind (wordable_of_obey rfl) fun _ _ => ?_
  refine .bind (wordable_of_obey rfl) fun _ _ => ?_
  exact wordable_of_obey rfl

theorem wordable_of_checkRefused (extra : Extra Schema) (others : List (String × Json)) :
    FailsWith (Flaw.Wordable "Value") (checkRefused extra others) := by
  unfold checkRefused
  split
  · exact wordable_of_reject rfl
  · exact .ok ()

theorem wordable_of_guarded {limit : Option Nat} {depth : Nat} {common : Common} {value : Json}
    {rest : Except Flaw Json} (hRest : FailsWith (Flaw.Wordable "Value") rest) :
    FailsWith (Flaw.Wordable "Value") (do checkDepth limit depth; unlessNull common value rest) := by
  refine .bind (wordable_of_obey rfl) fun _ _ => ?_
  unfold unlessNull
  split
  · exact .ok _
  · exact .bind (wordable_of_obey rfl) fun _ _ => hRest

/-- What is wrong inside a member or an item is worded alike from further out. -/
theorem wordable_of_inside {α : Type} {step : Step} {result : Except Flaw α}
    (h : FailsWith (Flaw.Wordable "Value") result) :
    FailsWith (Flaw.Wordable "Value") (inside step result) :=
  .mapError h

theorem wordable_of_checkItems {check : Json → Except Flaw Json}
    (hCheck : ∀ value, FailsWith (Flaw.Wordable "Value") (check value)) (index : Nat)
    (items : List Json) : FailsWith (Flaw.Wordable "Value") (checkItems check index items) := by
  induction items generalizing index with
  | nil => exact .ok []
  | cons item rest ih =>
    refine .bind (wordable_of_inside (hCheck item)) fun _ _ => ?_
    exact .bind (ih (index + 1)) fun _ _ => .ok _

theorem wordable_of_checkMembers {check : Json → Except Flaw Json}
    (hCheck : ∀ value, FailsWith (Flaw.Wordable "Value") (check value))
    (members : List (String × Json)) :
    FailsWith (Flaw.Wordable "Value") (checkMembers check members) := by
  induction members with
  | nil => exact .ok []
  | cons member rest ih =>
    refine .bind (wordable_of_inside (hCheck member.2)) fun _ _ => ?_
    exact .bind ih fun _ _ => .ok _

theorem wordable_of_checkProperties {limit : Option Nat} {depth : Nat}
    {properties : List (String × Schema)} (members : List (String × Json))
    (hProperties : ∀ property ∈ properties, ∀ value,
      FailsWith (Flaw.Wordable "Value") (check limit depth property.2 value)) :
    FailsWith (Flaw.Wordable "Value") (checkProperties limit depth properties members) := by
  induction properties with
  | nil => exact .ok []
  | cons property rest ih =>
    obtain ⟨hFirst, hRest⟩ := List.forall_mem_cons.mp hProperties
    rw [checkProperties]
    split
    · refine .bind ?_ fun _ _ => .bind (ih hRest) fun _ _ => .ok _
      intro flaw h
      exact wordable_of_inside (hFirst _) flaw (map_eq_error.mp h)
    · exact .bind (.ok _) fun _ _ => .bind (ih hRest) fun _ _ => .ok _

theorem wordable_of_check (limit : Option Nat) (depth : Nat) (schema : Schema) (value : Json) :
    FailsWith (Flaw.Wordable "Value") (check limit depth schema value) := by
  induction schema generalizing depth value with
  | combined combinator members =>
    rw [check]
    refine .bind (wordable_of_obey rfl) fun _ _ => ?_
    split
    · exact .ok value
    · exact wordable_of_reject (by cases combinator <;> rfl)
  | string common rules =>
    rw [check.eq_def]
    refine wordable_of_guarded ?_
    cases value with
    | string text => exact .bind (wordable_of_checkString rules text) fun _ _ => .ok _
    | _ => exact wordable_of_reject rfl
  | numeric common type rules =>
    rw [check]
    refine wordable_of_guarded ?_
    split
    · rename_i x hx
      exact .bind (wordable_of_checkNumber type rules x) fun _ _ => .ok _
    · exact wordable_of_reject rfl
  | boolean common =>
    rw [check.eq_def]
    refine wordable_of_guarded ?_
    cases value with
    | bool flag => exact .ok _
    | _ => exact wordable_of_reject rfl
  | array common rules items ih =>
    rw [check.eq_def]
    refine wordable_of_guarded ?_
    cases value with
    | array list =>
      refine .bind (wordable_of_checkArray rules list) fun _ _ => ?_
      exact .bind (wordable_of_checkItems (ih (depth + 1)) 0 list) fun _ _ => .ok _
    | _ => exact wordable_of_reject rfl
  | object common rules =>
    rw [check.eq_def]
    refine wordable_of_guarded ?_
    cases value with
    | object members => exact .bind (wordable_of_checkObject rules members) fun _ _ => .ok _
    | _ => exact wordable_of_reject rfl
  | record common rules properties extra ihProperties ihExtra =>
    rw [check.eq_def]
    refine wordable_of_guarded ?_
    cases value with
    | object members =>
      refine .bind (wordable_of_checkObject rules members) fun _ _ => ?_
      refine .bind (wordable_of_checkRefused extra _) fun _ _ => ?_
      refine .bind (wordable_of_checkProperties members fun property hProperty =>
        ihProperties property hProperty (depth + 1)) fun _ _ => .bind ?_ fun _ _ => .ok _
      cases extra with
      | allowed => exact .ok _
      | refused => exact .ok _
      | matching schema => exact wordable_of_checkMembers (ihExtra schema rfl (depth + 1)) _
    | _ => exact wordable_of_reject rfl

end Validation

namespace Schema

theorem wordable_of_validate (limit : Option Nat) (schema : Schema) (required : Bool)
    (value : Option Json) :
    FailsWith (Flaw.Wordable "Value") (schema.validate limit required value) := by
  cases value with
  | some value =>
    intro flaw h
    exact Validation.wordable_of_check limit 1 schema value flaw (map_eq_error.mp h)
  | none =>
    cases required with
    | true => exact Validation.wordable_of_reject rfl
    | false => exact .ok _

end Schema

namespace Parameter

theorem wordable_of_reject {α : Type} {steps : List Step} {fault : ParameterFault} :
    FailsWith (Violation.Wordable "Param")
      (reject steps fault : Except Violation α) := by
  rintro violation ⟨⟩
  have hFlaw : Flaw.Wordable "Param" ⟨steps, .parameter fault, []⟩ := ⟨rfl, rfl⟩
  exact hFlaw.seenFrom root

theorem wordable_of_readEnvelope (members : List (String × Json)) :
    FailsWith (Violation.Wordable "Param")
      (readEnvelope members) := by
  intro violation h
  unfold readEnvelope at h
  dsimp only at h
  have hNoName : FailsWith (Violation.Wordable "Param")
      (reject [.member "name"] .missingName : Except Violation (String × Bool)) := wordable_of_reject
  split at h
  · rename_i name _
    by_cases hEmpty : name.isEmpty
    · rw [if_pos hEmpty] at h
      exact hNoName violation h
    · rw [if_neg hEmpty] at h
      -- the name is fine, so the flag is what was refused
      simp only [bind, Except.bind] at h
      split at h
      · cases h
      · cases h
      · exact wordable_of_reject violation h
  · exact hNoName violation h

end Parameter

theorem Schema.wordable_of_readAt {place : Path} {settings : Settings} {raw : Json}
    {violation : Violation} (h : (readAt place settings raw).result = .error violation) :
    violation.Wordable "Schema" := by
  rw [readAt, Traced.result_mapBoth] at h
  obtain ⟨flaw, hFlaw, rfl⟩ := mapError_eq_error.mp h
  exact (wordable_of_ofJson settings raw flaw hFlaw).seenFrom place

theorem Schema.wordable_of_checkAt {place : Path} {limit : Option Nat} {schema : Schema}
    {required : Bool} {value : Option Json} {violation : Violation}
    (h : (checkAt place limit schema required value).result = .error violation) :
    violation.Wordable "Value" := by
  rw [result_checkAt] at h
  obtain ⟨flaw, hFlaw, rfl⟩ := mapError_eq_error.mp h
  exact (wordable_of_validate limit schema required value flaw hFlaw).seenFrom place

/-- Whatever a definition, a schema or a value is refused for belongs to the class of what was
refused, and the bundled messages can say it. -/
theorem every_violation_is_wordable :
    (∀ (settings : Settings) (raw : Json) (violation : Violation),
      (Parameter.ofJson settings raw).result = .error violation →
      violation.Wordable "Param" ∨ violation.Wordable "Schema") ∧
    (∀ (place : Path) (settings : Settings) (raw : Json) (violation : Violation),
      (Schema.readAt place settings raw).result = .error violation →
      violation.Wordable "Schema") ∧
    (∀ (place : Path) (limit : Option Nat) (schema : Schema) (required : Bool)
      (value : Option Json) (violation : Violation),
      (Schema.checkAt place limit schema required value).result = .error violation →
      violation.Wordable "Value") := by
  refine ⟨?_, fun _ _ _ _ => Schema.wordable_of_readAt,
    fun _ _ _ _ _ _ => Schema.wordable_of_checkAt⟩
  intro settings raw violation h
  unfold Parameter.ofJson at h
  split at h
  · rename_i members
    simp only [Traced.result_bind, Traced.result_lift, Traced.result_report, Traced.result_pure,
      bind_eq_error] at h
    rcases h with h | ⟨⟨name, required⟩, -, h | ⟨schema, -, h | ⟨_, -, h⟩⟩⟩
    · exact .inl (Parameter.wordable_of_readEnvelope members violation h)
    · exact .inr (Schema.wordable_of_readAt h)
    · cases h
    · cases h
  · exact .inl (Parameter.wordable_of_reject violation h)

theorem too_deep_value_is_wordable :
    let violation : Violation := ⟨⟨"p", []⟩, .value .depth, [("maxDepth", "0")]⟩
    (Schema.checkAt ⟨"p", []⟩ (some 0) (.boolean {}) true (some .null)).result = .error violation ∧
      violation.Wordable "Value" :=
  ⟨rfl, every_violation_is_wordable.2.2 ⟨"p", []⟩ (some 0) (.boolean {}) true (some .null) _ rfl⟩

end ParamSchema
