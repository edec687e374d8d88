import ParamSchema.Proofs.Validation.Acceptance

/-!
# Where a value is wrong

A check that fails points at the part of the value that is wrong: steps through arrays and
objects, never into a combinator, lead from the whole value to a part that fails at its own
root, and every part that is passed on the way was accepted.
-/

set_option autoImplicit false

namespace ParamSchema

open Results

namespace Validation

/-- A flaw found at the very place where the search began. An absent value is not among them. -/
def AtRoot (flaw : Flaw) : Prop := flaw.steps = [] ∧ flaw.code ≠ .value .required

theorem atRoot_of_reject {α : Type} {fault : ValueFault} {params : List (String × String)}
    (hFault : fault ≠ .required) : FailsWith AtRoot (reject fault params : Except Flaw α) := by
  rintro flaw ⟨⟩
  refine ⟨rfl, ?_⟩
  rintro ⟨⟩
  exact hFault rfl

theorem atRoot_of_obey {α : Type} {rule : Option α} {holds : α → Bool} {fault : ValueFault}
    {key : String} {text : α → String} (hFault : fault ≠ .required) :
    FailsWith AtRoot (obey rule holds fault key text) := by
  unfold obey
  split
  · exact .ok ()
  · split
    · exact .ok ()
    · exact atRoot_of_reject hFault

theorem atRoot_of_checkString (rules : StringRules) (text : String) :
    FailsWith AtRoot (checkString rules text) := by
  refine .bind (atRoot_of_obey nofun) fun _ _ => ?_
  refine .bind (atRoot_of_obey nofun) fun _ _ => ?_
  refine .bind (atRoot_of_obey nofun) fun _ _ => ?_
  exact atRoot_of_obey nofun

theorem atRoot_of_checkNumber (type : NumericType) (rules : NumberRules) (x : Binary64) :
    FailsWith AtRoot (checkNumber type rules x) := by
  refine .bind (atRoot_of_obey nofun) fun _ _ => ?_
  refine .bind (atRoot_of_obey nofun) fun _ _ => ?_
  refine .bind (atRoot_of_obey nofun) fun _ _ => ?_
  refine .bind (atRoot_of_obey nofun) fun _ _ => ?_
  refine .bind (atRoot_of_obey nofun) fun _ _ => ?_
  exact atRoot_of_obey nofun

theorem atRoot_of_checkArray (rules : ArrayRules) (items : List Json) :
    FailsWith AtRoot (checkArray rules items) := by
  refine .bind (atRoot_of_obey nofun) fun _ _ => ?_
  refine .bind (atRoot_of_obey nofun) fun _ _ => ?_
  split
  · exact atRoot_of_reject nofun
  · exact .ok ()

theorem atRoot_of_checkObject (rules : ObjectRules) (members : List (String × Json)) :
    FailsWith AtRoot (checkObject rules members) := by
  refine .bind (atRoot_of_obey nofun) fun _ _ => ?_
  refine .bind (atRoot_of_obey nofun) fun _ _ => ?_
  exact atRoot_of_obey nofun

theorem atRoot_of_checkRefused (extra : Extra Schema) (others : List (String × Json)) :
    FailsWith AtRoot (checkRefused extra others) := by
  unfold checkRefused
  split
  · exact atRoot_of_reject nofun
  · exact .ok ()

theorem guarded_eq_error {limit : Option Nat} {depth : Nat} {common : Common} {value : Json}
    {rest : Except Flaw Json} {flaw : Flaw}
    (h : (do checkDepth limit depth; unlessNull common value rest) = .error flaw) :
    AtRoot flaw ∨ rest = .error flaw := by
  rcases bind_eq_error.mp h with h | ⟨_, -, h⟩
  · exact .inl (atRoot_of_obey (by nofun) flaw h)
  · unfold unlessNull at h
    split at h
    · cases h
    · rcases bind_eq_error.mp h with h | ⟨_, -, h⟩
      · exact .inl (atRoot_of_obey (by nofun) flaw h)
      · exact .inr h

/-- A call goes on to one for a part of its value, after all parts that come before it have been
accepted. No member of a combinator is such a part. -/
inductive Enters (limit : Option Nat) : Call → Step → Call → Prop
  | item {depth : Nat} {common : Common} {rules : ArrayRules} {items : Schema}
      {before after : List Json} {item : Json}
      (hBefore : ∀ earlier ∈ before, Accepts limit (depth + 1) items earlier) :
      Enters limit ⟨depth, .array common rules items, .array (before ++ item :: after)⟩
        (.item before.length) ⟨depth + 1, items, item⟩
  | property {depth : Nat} {common : Common} {rules : ObjectRules}
      {before after : List (String × Schema)} {name : String} {property : Schema}
      {extra : Extra Schema} {members : List (String × Json)} {value : Json}
      (hValue : members.lookup name = some value)
      (hBefore : PropertiesAccepted limit (depth + 1) before members) :
      Enters limit
        ⟨depth, .record common rules (before ++ (name, property) :: after) extra, .object members⟩
        (.member name) ⟨depth + 1, property, value⟩
  | extra {depth : Nat} {common : Common} {rules : ObjectRules}
      {properties : List (String × Schema)} {schema : Schema} {members : List (String × Json)}
      {before after : List (String × Json)} {key : String} {value : Json}
      (hOthers : undeclared properties members = before ++ (key, value) :: after)
      (hProperties : PropertiesAccepted limit (depth + 1) properties members)
      (hBefore : ∀ earlier ∈ before, Accepts limit (depth + 1) schema earlier.2) :
      Enters limit ⟨depth, .record common rules properties (.matching schema), .object members⟩
        (.member key) ⟨depth + 1, schema, value⟩

inductive Leads (limit : Option Nat) : Call → List Step → Call → Prop
  | here {call : Call} : Leads limit call [] call
  | step {call next last : Call} {step : Step} {steps : List Step}
      (hEnters : Enters limit call step next) (hLeads : Leads limit next steps last) :
      Leads limit call (step :: steps) last

theorem Leads.depth_eq {limit : Option Nat} {call last : Call} {steps : List Step}
    (h : Leads limit call steps last) : last.depth = call.depth + steps.length := by
  induction h with
  | here => rfl
  | step hEnters hLeads ih =>
    rw [ih, List.length_cons]
    cases hEnters <;> exact Nat.add_right_comm _ 1 _

def Call.run (limit : Option Nat) (call : Call) : Except Flaw Json :=
  check limit call.depth call.schema call.value

theorem checkItems_eq_error {check : Json → Except Flaw Json} {index : Nat} {items : List Json}
    {flaw : Flaw} (h : checkItems check index items = .error flaw) :
    ∃ before item after inner, items = before ++ item :: after ∧
      (∀ earlier ∈ before, ∃ result, check earlier = .ok result) ∧
      check item = .error inner ∧ flaw = inner.under (.item (index + before.length)) := by
  induction items generalizing index with
  | nil => cases h
  | cons item rest ih =>
    rw [checkItems] at h
    rcases collect_eq_error.mp h with hFirst | ⟨⟨result, hFirst⟩, hRest⟩
    · obtain ⟨inner, hInner, rfl⟩ := mapError_eq_error.mp hFirst
      exact ⟨[], item, rest, inner, rfl, List.forall_mem_nil _, hInner, rfl⟩
    · obtain ⟨before, found, after, inner, rfl, hBefore, hInner, rfl⟩ := ih hRest
      refine ⟨item :: before, found, after, inner, rfl, ?_, hInner, ?_⟩
      · exact List.forall_mem_cons.mpr ⟨⟨result, mapError_eq_ok.mp hFirst⟩, hBefore⟩
      · rw [List.length_cons, Nat.add_assoc, Nat.add_comm 1]

theorem checkMembers_eq_error {check : Json → Except Flaw Json} {members : List (String × Json)}
    {flaw : Flaw} (h : checkMembers check members = .error flaw) :
    ∃ before key value after inner, members = before ++ (key, value) :: after ∧
      (∀ earlier ∈ before, ∃ result, check earlier.2 = .ok result) ∧
      check value = .error inner ∧ flaw = inner.under (.member key) := by
  induction members with
  | nil => cases h
  | cons member rest ih =>
    obtain ⟨key, value⟩ := member
    rw [checkMembers] at h
    rcases collect_eq_error.mp h with hFirst | ⟨⟨result, hFirst⟩, hRest⟩
    · obtain ⟨inner, hInner, rfl⟩ := mapError_eq_error.mp hFirst
      exact ⟨[], key, value, rest, inner, rfl, List.forall_mem_nil _, hInner, rfl⟩
    · obtain ⟨before, name, found, after, inner, rfl, hBefore, hInner, rfl⟩ := ih hRest
      refine ⟨(key, value) :: before, name, found, after, inner, rfl, ?_, hInner, rfl⟩
      exact List.forall_mem_cons.mpr ⟨⟨result, mapError_eq_ok.mp hFirst⟩, hBefore⟩

section

variable {limit : Option Nat} {depth : Nat}

theorem checkProperties_eq_error {properties : List (String × Schema)}
    {members : List (String × Json)} {flaw : Flaw}
    (h : checkProperties limit depth properties members = .error flaw) :
    ∃ before name property after value inner, properties = before ++ (name, property) :: after ∧
      PropertiesAccepted limit depth before members ∧ members.lookup name = some value ∧
      check limit depth property value = .error inner ∧ flaw = inner.under (.member name) := by
  induction properties with
  | nil => cases h
  | cons entry rest ih =>
    obtain ⟨name, property⟩ := entry
    have hLater (hRest : checkProperties limit depth rest members = .error flaw)
        (hFirst : ∀ value, members.lookup name = some value → Accepts limit depth property value) :
        ∃ before name' property' after value inner,
          (name, property) :: rest = before ++ (name', property') :: after ∧
          PropertiesAccepted limit depth before members ∧ members.lookup name' = some value ∧
          check limit depth property' value = .error inner ∧
          flaw = inner.under (.member name') := by
      obtain ⟨before, name', property', after, value, inner, rfl, hBefore, hFound⟩ := ih hRest
      exact ⟨(name, property) :: before, name', property', after, value, inner, rfl,
        List.forall_mem_cons.mpr ⟨hFirst, hBefore⟩, hFound⟩
    rw [checkProperties] at h
    cases hValue : members.lookup name with
    | none =>
      simp only [hValue] at h
      rcases collect_eq_error.mp h with hFirst | ⟨-, hRest⟩
      · cases hFirst
      · refine hLater hRest fun _ hFound => ?_
        cases hValue.symm.trans hFound
    | some value =>
      simp only [hValue] at h
      rcases collect_eq_error.mp h with hFirst | ⟨⟨_, hFirst⟩, hRest⟩
      · obtain ⟨inner, hInner, rfl⟩ := mapError_eq_error.mp (map_eq_error.mp hFirst)
        exact ⟨[], name, property, rest, value, inner, rfl, List.forall_mem_nil _, hValue, hInner, rfl⟩
      · obtain ⟨filled, hFilled, -⟩ := map_eq_ok.mp hFirst
        refine hLater hRest fun found hFound => ?_
        cases hValue.symm.trans hFound
        exact ⟨filled, mapError_eq_ok.mp hFilled⟩

theorem exists_enters_of_check_error {schema : Schema} {value : Json} {flaw : Flaw}
    (h : check limit depth schema value = .error flaw) : AtRoot flaw ∨
      ∃ step next inner, Enters limit ⟨depth, schema, value⟩ step next ∧
        next.run limit = .error inner ∧ flaw = inner.under step := by
  cases schema with
  | combined combinator members =>
    -- No failure of a member comes out of a combinator.
    rw [check] at h
    rcases bind_eq_error.mp h with h | ⟨_, -, h⟩
    · exact .inl (atRoot_of_obey (by simp) flaw h)
    · split at h
      · cases h
      · exact .inl (atRoot_of_reject (by cases combinator <;> decide) flaw h)
  | string common rules =>
    rw [check.eq_def] at h
    refine .inl ((guarded_eq_error h).elim id fun h => ?_)
    cases value with
    | string text => exact (atRoot_of_checkString rules text).bind (fun _ _ => .ok _) flaw h
    | _ => exact atRoot_of_reject (by simp) flaw h
  | numeric common type rules =>
    rw [check] at h
    refine .inl ((guarded_eq_error h).elim id fun h => ?_)
    split at h
    · rename_i x hx
      exact (atRoot_of_checkNumber type rules x).bind (fun _ _ => .ok _) flaw h
    · exact atRoot_of_reject (by simp) flaw h
  | boolean common =>
    rw [check.eq_def] at h
    refine .inl ((guarded_eq_error h).elim id fun h => ?_)
    cases value with
    | bool set => cases h
    | _ => exact atRoot_of_reject (by simp) flaw h
  | array common rules items =>
    rw [check.eq_def] at h
    rcases guarded_eq_error h with h | h
    · exact .inl h
    cases value with
    | array list =>
      simp only [bind_eq_error] at h
      rcases h with h | ⟨_, -, h | ⟨_, -, h⟩⟩
      · exact .inl (atRoot_of_checkArray rules list flaw h)
      · obtain ⟨before, item, after, inner, rfl, hBefore, hInner, rfl⟩ := checkItems_eq_error h
        rw [Nat.zero_add]
        exact .inr ⟨_, _, inner, .item hBefore, hInner, rfl⟩
      · cases h
    | _ => exact .inl (atRoot_of_reject (by simp) flaw h)
  | object common rules =>
    rw [check.eq_def] at h
    refine .inl ((guarded_eq_error h).elim id fun h => ?_)
    cases value with
    | object members => exact (atRoot_of_checkObject rules members).bind (fun _ _ => .ok _) flaw h
    | _ => exact atRoot_of_reject (by simp) flaw h
  | record common rules properties extra =>
    rw [check.eq_def] at h
    rcases guarded_eq_error h with h | h
    · exact .inl h
    cases value with
    | object members =>
      simp only [bind_eq_error] at h
      rcases h with h | ⟨_, -, h | ⟨_, -, h | ⟨declared, hDeclared, h | ⟨_, -, h⟩⟩⟩⟩
      · exact .inl (atRoot_of_checkObject rules members flaw h)
      · exact .inl (atRoot_of_checkRefused extra _ flaw h)
      · obtain ⟨before, name, property, after, found, inner, rfl, hBefore, hValue, hInner, rfl⟩ :=
          checkProperties_eq_error h
        exact .inr ⟨_, _, inner, .property hValue hBefore, hInner, rfl⟩
      · cases extra with
        | matching schema =>
          obtain ⟨before, key, found, after, inner, hOthers, hBefore, hInner, rfl⟩ :=
            checkMembers_eq_error h
          have hProperties := exists_checkProperties_ok_iff.mp ⟨declared, hDeclared⟩
          exact .inr ⟨_, _, inner, .extra hOthers hProperties hBefore, hInner, rfl⟩
        | allowed => cases h
        | refused => cases h
      · cases h
    | _ => exact .inl (atRoot_of_reject (by simp) flaw h)

/-- The steps of a flaw lead to a call that fails at its root for the same reason. -/
theorem exists_leads_of_run_error {call : Call} {flaw : Flaw} (h : call.run limit = .error flaw) :
    flaw.code ≠ .value .required ∧ ∃ last, Leads limit call flaw.steps last ∧
      last.run limit = .error { flaw with steps := [] } := by
  obtain ⟨steps, code, params⟩ := flaw
  induction steps generalizing call with
  | nil =>
    rcases exists_enters_of_check_error h with hRoot | ⟨step, next, inner, -, -, hFlaw⟩
    · exact ⟨hRoot.2, call, .here, h⟩
    · cases hFlaw
  | cons step steps ih =>
    rcases exists_enters_of_check_error h with hRoot | ⟨step, next, inner, hEnters, hInner, hFlaw⟩
    · cases hRoot.1
    · cases hFlaw
      obtain ⟨hCode, last, hLeads, hLast⟩ := ih hInner
      exact ⟨hCode, last, .step hEnters hLeads, hLast⟩

end

end Validation

namespace Schema

end Schema

end ParamSchema
