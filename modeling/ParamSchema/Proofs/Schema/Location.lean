import ParamSchema.Proofs.Schema.Acceptance

/-!
# Where a schema is wrong

A reading that fails points at a keyword that is wrong: steps lead from the whole source to
a nested one that cannot be read by itself, and everything that is read before it can be.
-/

set_option autoImplicit false

namespace ParamSchema

open Results

/-- The keywords at which a fault can stand. The faults of a value as a whole stand at none. -/
def SchemaFault.keywords : SchemaFault → List String
  | .notObject | .depth => []
  | .type => ["type"]
  | .nullable => ["nullable"]
  | .enum => ["enum"]
  | .oneOf => ["oneOf"]
  | .anyOf => ["anyOf"]
  | .allOf => ["allOf"]
  | .combinator => ["anyOf", "allOf"]
  | .minLength => ["minLength"]
  | .maxLength => ["maxLength"]
  | .pattern => ["pattern"]
  | .stringFormat | .integerFormat => ["format"]
  | .minimum => ["minimum"]
  | .exclusiveMinimum => ["exclusiveMinimum"]
  | .maximum => ["maximum"]
  | .exclusiveMaximum => ["exclusiveMaximum"]
  | .multipleOf => ["multipleOf"]
  | .minItems => ["minItems"]
  | .maxItems => ["maxItems"]
  | .uniqueItems => ["uniqueItems"]
  | .items => ["items"]
  | .minProperties => ["minProperties"]
  | .maxProperties => ["maxProperties"]
  | .required => ["required"]
  | .properties => ["properties"]
  | .additionalProperties => ["additionalProperties"]
  | .defaultString | .defaultInteger | .defaultNumber | .defaultBoolean | .defaultArray
  | .defaultObject => ["default"]

def Flaw.below (steps : List Step) (flaw : Flaw) : Flaw := { flaw with steps := steps ++ flaw.steps }

theorem Flaw.below_below (outer inner : List Step) (flaw : Flaw) :
    (flaw.below inner).below outer = flaw.below (outer ++ inner) := by
  simp only [below, List.append_assoc]

namespace Schema

def objectAt (source : Source) (key : String) : List (List Step × Json) :=
  match source.lookup key with
  | some (.object members) => [([.member key], .object members)]
  | _ => []

def propertiesAt (source : Source) : List (List Step × Json) :=
  match source.lookup "properties" with
  | some (.object members) =>
    members.map fun member => ([.member "properties", .member member.1], member.2)
  | _ => []

def itemsAt (source : Source) (key : String) : List (List Step × Json) :=
  match source.lookup key with
  | some (.array items) => items.mapIdx fun index item => ([.member key, .item index], item)
  | _ => []

/-- The sources that a source nests, with the steps to them, in the order in which they are read:
members by index, and the rule for other members before the properties, which go by key. -/
def nestedSources (source : Source) : List (List Step × Json) :=
  match combinators source with
  | combinator :: _ => itemsAt source combinator.keyword
  | [] =>
    match (source.lookup "type").bind fun value => value.string?.bind ValueType.ofName? with
    | some .array => objectAt source "items"
    | some .object => objectAt source "additionalProperties" ++ propertiesAt source
    | _ => []

/-- A keyword that is looked at after all nested sources have been read. Required names are looked
at twice: as a list of names before them, and against the properties after them. -/
def FollowsNested (source : Source) (key : String) : Prop :=
  key ∈ ["properties", "default"] ∨ key = "required" ∧ ∃ name, RequiresName source name

def AtKeyword (source : Source) (key : String) (flaw : Flaw) : Prop :=
  (key ∈ Members.keys source ∨ key ∈ ["type", "items"]) ∧
    ∃ fault : SchemaFault, key ∈ fault.keywords ∧ flaw = ⟨[.member key], .schema fault, []⟩

def Early (source : Source) (flaw : Flaw) : Prop :=
  ∃ key, ¬ FollowsNested source key ∧ AtKeyword source key flaw

section

variable {source : Source} {key : String} {fault : SchemaFault}

theorem not_followsNested (h : key ∉ ["properties", "default", "required"]) :
    ¬ FollowsNested source key := by
  rintro (hKey | ⟨rfl, -⟩)
  · exact h (List.mem_append_left ["required"] hKey)
  · exact h (by decide)

theorem atKeyword_of_keyword? {α : Type} {read : Json → Option α} (hKey : key ∈ fault.keywords) :
    FailsWith (AtKeyword source key) (keyword? source key fault read) := by
  unfold keyword?
  split
  · exact .ok none
  · rename_i value hValue
    split
    · exact .ok _
    · rintro _ ⟨⟩
      have hPresent := Members.mem_keys_of_mem (Members.mem_of_lookup hValue)
      exact ⟨.inl hPresent, fault, hKey, rfl⟩

theorem early_of_keyword? {α : Type} {read : Json → Option α} (hKey : key ∈ fault.keywords)
    (hEarly : key ∉ ["properties", "default", "required"]) :
    FailsWith (Early source) (keyword? source key fault read) :=
  fun flaw h => ⟨key, not_followsNested hEarly, atKeyword_of_keyword? hKey flaw h⟩

theorem early_of_flag (hKey : key ∈ fault.keywords)
    (hEarly : key ∉ ["properties", "default", "required"]) :
    FailsWith (Early source) (flag source key fault) :=
  (early_of_keyword? hKey hEarly).bind fun _ _ => .ok _

theorem early_of_stringRules : FailsWith (Early source) (stringRules source) := by
  refine .bind (early_of_keyword? (by decide) (by decide)) fun _ _ => ?_
  refine .bind (early_of_keyword? (by decide) (by decide)) fun _ _ => ?_
  refine .bind (early_of_keyword? (by decide) (by decide)) fun _ _ => ?_
  exact .bind (early_of_keyword? (by decide) (by decide)) fun _ _ => .ok _

theorem early_of_bound {flagKey : String} {flagFault : SchemaFault} (hKey : key ∈ fault.keywords)
    (hEarly : key ∉ ["properties", "default", "required"]) (hFlagKey : flagKey ∈ flagFault.keywords)
    (hFlagEarly : flagKey ∉ ["properties", "default", "required"]) :
    FailsWith (Early source) (bound source key flagKey fault flagFault) := by
  refine .bind (early_of_keyword? hKey hEarly) fun found _ => ?_
  cases found with
  | none => exact .ok none
  | some value => exact .bind (early_of_flag hFlagKey hFlagEarly) fun _ _ => .ok _

theorem early_of_numberRules : FailsWith (Early source) (numberRules source) := by
  refine .bind (early_of_bound (by decide) (by decide) (by decide) (by decide)) fun _ _ => ?_
  refine .bind (early_of_bound (by decide) (by decide) (by decide) (by decide)) fun _ _ => ?_
  exact .bind (early_of_keyword? (by decide) (by decide)) fun _ _ => .ok _

theorem early_of_arrayRules : FailsWith (Early source) (arrayRules source) := by
  refine .bind (early_of_keyword? (by decide) (by decide)) fun _ _ => ?_
  refine .bind (early_of_keyword? (by decide) (by decide)) fun _ _ => ?_
  exact .bind (early_of_flag (by decide) (by decide)) fun _ _ => .ok _

theorem early_of_names? : FailsWith (Early source) (keyword? source "required" .required names?) := by
  intro flaw h
  refine ⟨"required", ?_, atKeyword_of_keyword? (by decide) flaw h⟩
  rintro (hKey | ⟨-, name, names, hNames, hName⟩)
  · exact absurd hKey (by decide)
  · have hNonempty : names ≠ [] := List.ne_nil_of_mem hName
    simp [keyword?, hNames, names?_strings hNonempty] at h

theorem early_of_objectRules : FailsWith (Early source) (objectRules source) := by
  refine .bind (early_of_keyword? (by decide) (by decide)) fun _ _ => ?_
  refine .bind (early_of_keyword? (by decide) (by decide)) fun _ _ => ?_
  exact .bind early_of_names? fun _ _ => .ok _

theorem atKeyword_of_checkRequired {settings : Settings} {rules : ObjectRules}
    {declared : List String} (hRules : objectRules source = .ok rules) :
    FailsWith (AtKeyword source "required") (checkRequired settings rules declared) := by
  unfold checkRequired
  split
  · rename_i hStrict
    rintro _ ⟨⟩
    refine ⟨.inl ?_, .required, by decide, rfl⟩
    cases hRequired : rules.required with
    | nil => simp [hRequired] at hStrict
    | cons name rest =>
      have hName : name ∈ rules.required := hRequired ▸ List.mem_cons_self
      obtain ⟨names, hNames, -⟩ := (mem_required_iff hRules).mp hName
      exact Members.mem_keys_of_mem (Members.mem_of_lookup hNames)
  · exact .ok ()

theorem atKeyword_of_defaultValue {type : ValueType} :
    FailsWith (AtKeyword source "default") (defaultValue source type) :=
  atKeyword_of_keyword? (by rcases type with _ | (_ | _) | _ | _ | _ <;> decide)

end

def OwnFlaw (read : Json → Reading Schema) (source : Source) (flaw : Flaw) : Prop :=
  ∃ key, AtKeyword source key flaw ∧
    (FollowsNested source key → ∀ nested ∈ nestedSources source, Readable read nested.2)

/-- From a source the reading goes on to one that it nests, and those before it can be read. -/
def Enters (read : Json → Reading Schema) (source : Source) (steps : List Step) (next : Json) :
    Prop :=
  ∃ before after, nestedSources source = before ++ (steps, next) :: after ∧
    ∀ earlier ∈ before, Readable read earlier.2

def Located (read : Json → Reading Schema) (source : Source) (flaw : Flaw) : Prop :=
  OwnFlaw read source flaw ∨ ∃ steps next inner, Enters read source steps next ∧
    (read next).result = .error inner ∧ flaw = inner.below steps

section

variable {settings : Settings} {read : Json → Reading Schema} {source : Source}

theorem located_of_early {α : Type} {result : Except Flaw α}
    (h : FailsWith (Early source) result) : FailsWith (Located read source) result := by
  intro flaw hFlaw
  obtain ⟨key, hEarly, hKeyword⟩ := h flaw hFlaw
  exact .inl ⟨key, hKeyword, fun hLate => absurd hLate hEarly⟩

theorem located_of_late {α : Type} {key : String} {result : Except Flaw α}
    (hNested : ∀ nested ∈ nestedSources source, Readable read nested.2)
    (h : FailsWith (AtKeyword source key) result) : FailsWith (Located read source) result :=
  fun flaw hFlaw => .inl ⟨key, h flaw hFlaw, fun _ => hNested⟩

theorem located_of_reject {α : Type} {key : String} {fault : SchemaFault}
    (hPresent : key ∈ Members.keys source ∨ key ∈ ["type", "items"])
    (hKey : key ∈ fault.keywords) (hEarly : key ∉ ["properties", "default", "required"]) :
    FailsWith (fun inner => Located read source (inner.under (.member key)))
      (Reading.reject fault : Reading α).result := by
  rintro _ ⟨⟩
  exact .inl ⟨key, ⟨hPresent, fault, hKey, rfl⟩,
    fun hLate => absurd hLate (not_followsNested hEarly)⟩

theorem items_result_eq_error {index : Nat} {items : List Json} {flaw : Flaw}
    (h : (Reading.items read index items).result = .error flaw) :
    ∃ before item after inner, items = before ++ item :: after ∧
      (∀ earlier ∈ before, Readable read earlier) ∧ (read item).result = .error inner ∧
      flaw = inner.under (.item (index + before.length)) := by
  induction items generalizing index with
  | nil => cases h
  | cons item rest ih =>
    simp only [Reading.items, Traced.result_bind, Traced.result_pure] at h
    rcases collect_eq_error.mp h with hFirst | ⟨⟨first, hFirst⟩, hRest⟩
    · obtain ⟨inner, hInner, rfl⟩ := mapError_eq_error.mp hFirst
      exact ⟨[], item, rest, inner, rfl, List.forall_mem_nil _, hInner, rfl⟩
    · obtain ⟨before, found, after, inner, rfl, hBefore, hInner, rfl⟩ := ih hRest
      refine ⟨item :: before, found, after, inner, rfl, ?_, hInner, ?_⟩
      · exact List.forall_mem_cons.mpr ⟨⟨first, mapError_eq_ok.mp hFirst⟩, hBefore⟩
      · rw [List.length_cons, Nat.add_assoc, Nat.add_comm 1]

theorem members_result_eq_error {members : Source} {flaw : Flaw}
    (h : (Reading.members read members).result = .error flaw) :
    ∃ before key value after inner, members = before ++ (key, value) :: after ∧
      (∀ earlier ∈ before, Readable read earlier.2) ∧ (read value).result = .error inner ∧
      flaw = inner.under (.member key) := by
  induction members with
  | nil => cases h
  | cons member rest ih =>
    obtain ⟨key, value⟩ := member
    simp only [Reading.members, Traced.result_bind, Traced.result_pure] at h
    rcases collect_eq_error.mp h with hFirst | ⟨⟨first, hFirst⟩, hRest⟩
    · obtain ⟨inner, hInner, rfl⟩ := mapError_eq_error.mp hFirst
      exact ⟨[], key, value, rest, inner, rfl, List.forall_mem_nil _, hInner, rfl⟩
    · obtain ⟨before, name, found, after, inner, rfl, hBefore, hInner, rfl⟩ := ih hRest
      refine ⟨(key, value) :: before, name, found, after, inner, rfl, ?_, hInner, rfl⟩
      exact List.forall_mem_cons.mpr ⟨⟨first, mapError_eq_ok.mp hFirst⟩, hBefore⟩

theorem located_of_readMembers {combinator : Combinator} {ignored : List Combinator}
    (hCombinators : combinators source = combinator :: ignored) :
    FailsWith (Located read source) (readMembers read source combinator).result := by
  have hNested : nestedSources source = itemsAt source combinator.keyword := by
    rw [nestedSources, hCombinators]
  have hKey : combinator.keyword ∈ combinator.schemaFault.keywords ∧
      combinator.keyword ∉ ["properties", "default", "required"] := by
    cases combinator <;> decide
  unfold readMembers Reading.inside
  rw [Traced.result_mapBoth]
  refine .mapError ?_
  split
  · rename_i first rest hItems
    rw [Traced.result_bind]
    refine .bind ?_ fun _ _ => .ok _
    intro flaw h
    obtain ⟨before, item, after, inner, hSplit, hBefore, hInner, rfl⟩ := items_result_eq_error h
    let place (index : Nat) (item : Json) : List Step × Json :=
      ([.member combinator.keyword, .item index], item)
    refine .inr ⟨[.member combinator.keyword, .item (0 + before.length)], item, inner,
      ⟨before.mapIdx place, after.mapIdx fun index => place (index + 1 + before.length), ?_, ?_⟩,
        hInner, rfl⟩
    · rw [hNested, itemsAt, hItems, hSplit]
      simp only [place, List.mapIdx_append, List.mapIdx_cons]
    · intro earlier hEarlier
      obtain ⟨index, hIndex, rfl⟩ := List.mem_mapIdx.mp hEarlier
      exact hBefore _ (List.getElem_mem hIndex)
  · exact located_of_reject (.inl (mem_keys_of_combinators hCombinators)) hKey.1 hKey.2

theorem located_of_readItems (hNested : nestedSources source = objectAt source "items") :
    FailsWith (Located read source) (readItems read source).result := by
  unfold readItems Reading.inside
  rw [Traced.result_mapBoth]
  refine .mapError ?_
  split
  · rename_i members hItems
    intro inner hInner
    refine .inr ⟨[.member "items"], _, inner, ⟨[], [], ?_, nofun⟩, hInner, rfl⟩
    rw [hNested, objectAt, hItems]
    rfl
  · exact located_of_reject (.inr (by decide)) (by decide) (by decide)

theorem located_of_readExtra (hNested : nestedSources source =
      objectAt source "additionalProperties" ++ propertiesAt source) :
    FailsWith (Located read source) (readExtra read source).result := by
  unfold readExtra
  split
  · exact .ok _
  rename_i value hValue
  have hReject : FailsWith
      (fun inner => Located read source (inner.under (.member "additionalProperties")))
      (Reading.reject .additionalProperties : Reading (Extra Schema)).result := by
    have hPresent := Members.mem_keys_of_mem (Members.mem_of_lookup hValue)
    exact located_of_reject (.inl hPresent) (by decide) (by decide)
  rw [Reading.inside, Traced.result_mapBoth]
  refine .mapError ?_
  split
  · exact hReject
  · split
    · exact .ok _
    · rename_i members
      rw [Traced.result_bind]
      refine .bind ?_ fun _ _ => .ok _
      intro inner hInner
      refine .inr ⟨[.member "additionalProperties"], _, inner,
        ⟨[], propertiesAt source, ?_, List.forall_mem_nil _⟩, hInner, rfl⟩
      rw [hNested, objectAt, hValue]
      rfl
    · exact hReject

theorem located_of_readProperties (hNested : nestedSources source =
      objectAt source "additionalProperties" ++ propertiesAt source)
    (hExtra : ∀ nested ∈ objectAt source "additionalProperties", Readable read nested.2) :
    FailsWith (Located read source) (readProperties read source).result := by
  unfold readProperties
  split
  · exact .ok _
  rename_i value hValue
  rw [Reading.inside, Traced.result_mapBoth]
  refine .mapError ?_
  split
  · rename_i members
    rw [Traced.result_bind]
    refine .bind ?_ fun _ _ => .ok _
    intro flaw h
    obtain ⟨before, key, raw, after, inner, rfl, hBefore, hInner, rfl⟩ := members_result_eq_error h
    let place (member : String × Json) : List Step × Json :=
      ([.member "properties", .member member.1], member.2)
    refine .inr ⟨[.member "properties", .member key], raw, inner,
      ⟨objectAt source "additionalProperties" ++ before.map place, after.map place, ?_, ?_⟩,
        hInner, rfl⟩
    · rw [hNested, propertiesAt, hValue, List.append_assoc]
      simp only [place, List.map_append, List.map_cons]
    · rw [List.forall_mem_append, List.forall_mem_map]
      exact ⟨hExtra, hBefore⟩
  · rename_i hNoObject
    rintro _ ⟨⟩
    have hPresent := Members.mem_keys_of_mem (Members.mem_of_lookup hValue)
    refine .inl ⟨"properties", ⟨.inl hPresent, .properties, by decide, rfl⟩, fun _ => ?_⟩
    have hNone : propertiesAt source = [] := by
      rw [propertiesAt, hValue]
      cases value with
      | object members => exact absurd rfl (hNoObject members)
      | _ => rfl
    rwa [hNested, hNone, List.append_nil]

theorem readable_of_mem_objectAt {key : String} {members : Source} {nested : List Step × Json}
    (hMembers : source.lookup key = some (.object members)) (h : Readable read (.object members))
    (hNested : nested ∈ objectAt source key) : Readable read nested.2 := by
  rw [objectAt, hMembers, List.mem_singleton] at hNested
  subst hNested
  exact h

theorem readable_of_extra (h : Keyword source "additionalProperties" fun value =>
      "properties" ∈ Members.keys source ∧
        (ValueType.boolean.Has value ∨ ValueType.object.Has value ∧ Readable read value)) :
    ∀ nested ∈ objectAt source "additionalProperties", Readable read nested.2 := by
  intro nested hNested
  cases hLookup : source.lookup "additionalProperties" with
  | none => simp [objectAt, hLookup] at hNested
  | some value =>
    rcases h value hLookup with ⟨-, ⟨flag, rfl⟩ | ⟨⟨members, rfl⟩, hReadable⟩⟩
    · simp [objectAt, hLookup] at hNested
    · exact readable_of_mem_objectAt hLookup hReadable hNested

theorem readable_of_properties (h : Keyword source "properties" fun value =>
      ∃ members, value = .object members ∧ ∀ member ∈ members, Readable read member.2) :
    ∀ nested ∈ propertiesAt source, Readable read nested.2 := by
  unfold propertiesAt
  split
  · rename_i members hMembers
    obtain ⟨_, hFound, hReadable⟩ := h _ hMembers
    cases hFound
    exact List.forall_mem_map.mpr hReadable
  · exact nofun

section

variable (hCombinators : combinators source = [])

include hCombinators

theorem nestedSources_leaf {type : ValueType}
    (hType : source.lookup "type" = some (.string type.name)) :
    nestedSources source = match type with
      | .array => objectAt source "items"
      | .object => objectAt source "additionalProperties" ++ propertiesAt source
      | _ => [] := by
  rw [nestedSources, hCombinators]
  simp only [hType, Option.bind_some, Json.string?, ValueType.ofName?_name]
  cases type <;> rfl

theorem located_of_readKind {type : ValueType}
    (hType : source.lookup "type" = some (.string type.name)) :
    FailsWith (Located read source) (readKind settings read source type).result := by
  have hNested := nestedSources_leaf hCombinators hType
  cases type with
  | string =>
    rw [readKind, Traced.result_bind]
    exact .bind (located_of_early early_of_stringRules) fun _ _ => .ok _
  | numeric kind =>
    cases kind with
    | number =>
      rw [readKind, Traced.result_bind]
      exact .bind (located_of_early early_of_numberRules) fun _ _ => .ok _
    | integer =>
      rw [readKind, Traced.result_bind]
      refine .bind (located_of_early early_of_numberRules) fun _ _ => ?_
      rw [Traced.result_bind]
      have hFormat : FailsWith (Early source) (integerFormat source) :=
        early_of_keyword? (by decide) (by decide)
      exact .bind (located_of_early hFormat) fun _ _ => .ok _
  | boolean => exact .ok _
  | array =>
    rw [readKind, Traced.result_bind]
    refine .bind (located_of_early early_of_arrayRules) fun _ _ => ?_
    rw [Traced.result_bind]
    exact .bind (located_of_readItems hNested) fun _ _ => .ok _
  | object =>
    rw [readKind, Traced.result_bind]
    refine .bind (located_of_early early_of_objectRules) fun rules hRules => ?_
    rw [Traced.result_bind]
    refine .bind (located_of_readExtra hNested) fun extra hExtra => ?_
    have hExtraReadable := readable_of_extra (exists_readExtra_ok_iff.mp ⟨extra, hExtra⟩)
    rw [Traced.result_bind]
    refine .bind (located_of_readProperties hNested hExtraReadable) fun found hFound => ?_
    have hReadable : ∀ nested ∈ nestedSources source, Readable read nested.2 := by
      rw [hNested, List.forall_mem_append]
      exact ⟨hExtraReadable,
        readable_of_properties (exists_readProperties_ok_iff.mp ⟨found, hFound⟩)⟩
    cases found <;>
    · rw [Traced.result_bind]
      refine .bind ?_ fun _ _ => .ok _
      exact located_of_late hReadable (atKeyword_of_checkRequired hRules)

theorem readable_nested_of_readKind {type : ValueType} {leaf : Common → Schema}
    (hType : source.lookup "type" = some (.string type.name))
    (h : (readKind settings read source type).result = .ok leaf) :
    ∀ nested ∈ nestedSources source, Readable read nested.2 := by
  have hKind : KindForm settings (Readable read) source type := exists_readKind_ok_iff.mp ⟨leaf, h⟩
  rw [nestedSources_leaf hCombinators hType]
  cases type with
  | array =>
    obtain ⟨members, hMembers, hReadable⟩ := hKind.items
    exact fun nested => readable_of_mem_objectAt hMembers hReadable
  | object =>
    rw [List.forall_mem_append]
    exact ⟨readable_of_extra hKind.additionalProperties, readable_of_properties hKind.properties⟩
  | _ => exact nofun

theorem located_of_readLeaf :
    FailsWith (Located read source) (readLeaf settings read source).result := by
  rw [readLeaf, Traced.result_bind]
  refine .bind (located_of_early (early_of_keyword? (by decide) (by decide))) fun found hType => ?_
  cases found with
  | none => exact .mapError (located_of_reject (.inr (by decide)) (by decide) (by decide))
  | some type =>
    have hType := typeKeyword_eq_ok_iff.mp hType
    have hNullable : FailsWith (Early source) (flag source "nullable" .nullable) :=
      early_of_flag (by decide) (by decide)
    have hChoices : FailsWith (Early source) (keyword? source "enum" .enum (choices? type)) :=
      early_of_keyword? (by decide) (by decide)
    simp only [Traced.result_bind]
    refine .bind (located_of_early hNullable) fun _ _ => ?_
    refine .bind (located_of_early hChoices) fun _ _ => ?_
    refine .bind (located_of_readKind hCombinators hType) fun leaf hLeaf => ?_
    have hReadable := readable_nested_of_readKind hCombinators hType hLeaf
    exact .bind (located_of_late hReadable atKeyword_of_defaultValue) fun _ _ => .ok _

end

theorem located_of_checkIgnored {combinator : Combinator} {ignored : List Combinator}
    (hCombinators : combinators source = combinator :: ignored) :
    FailsWith (Located read source) (checkIgnored settings combinator ignored).result := by
  cases ignored with
  | nil => exact .ok ()
  | cons first rest =>
    rw [checkIgnored]
    cases settings.strictCombinators with
    | false => exact .ok ()
    | true =>
      have hPresent : first.keyword ∈ Members.keys source := by
        rw [← mem_combinators_iff, hCombinators]
        exact List.mem_cons_of_mem _ List.mem_cons_self
      -- What is ignored has a greater rank than what is honoured, so it is not the first of all.
      have hRank := @pairwise_rank_combinators source
      rw [hCombinators, List.pairwise_cons] at hRank
      have hLess : combinator.rank < first.rank := hRank.1 first List.mem_cons_self
      have hKey : first.keyword ∈ SchemaFault.combinator.keywords ∧
          first.keyword ∉ ["properties", "default", "required"] := by
        cases first with
        | oneOf => exact absurd hLess (Nat.not_lt_zero _)
        | anyOf => decide
        | allOf => decide
      exact .mapError (located_of_reject (.inl hPresent) hKey.1 hKey.2)

theorem located_of_readLevels {levels : Nat} : FailsWith (Located (readLevels settings levels) source)
    (readLevels settings (levels + 1) (.object source)).result := by
  rw [readLevels]
  split
  · rename_i hCombinators
    exact located_of_readLeaf hCombinators
  · rename_i combinator ignored hCombinators
    rw [Traced.result_bind]
    refine .bind (located_of_checkIgnored hCombinators) fun _ _ => ?_
    exact located_of_readMembers hCombinators

end

inductive Leads (settings : Settings) : Nat → Json → List (List Step) → Nat → Json → Prop
  | here {levels : Nat} {raw : Json} : Leads settings levels raw [] levels raw
  | step {levels lower : Nat} {source : Source} {steps : List Step} {places : List (List Step)}
      {next last : Json} (hEnters : Enters (readLevels settings levels) source steps next)
      (hLeads : Leads settings levels next places lower last) :
      Leads settings (levels + 1) (.object source) (steps :: places) lower last

theorem Leads.levels_eq {settings : Settings} {levels lower : Nat} {raw last : Json}
    {places : List (List Step)} (h : Leads settings levels raw places lower last) :
    levels = lower + places.length := by
  induction h with
  | here => rfl
  | step hEnters hLeads ih => rw [ih, List.length_cons, Nat.add_assoc]

inductive Blamed (settings : Settings) : Nat → Json → Flaw → Prop
  | depth {raw : Json} :
      Blamed settings 0 raw ⟨[], .schema .depth, [("maxDepth", toString settings.maxDepth)]⟩
  | notObject {levels : Nat} {raw : Json} (hRaw : ∀ source, raw ≠ .object source) :
      Blamed settings (levels + 1) raw ⟨[], .schema .notObject, []⟩
  | keyword {levels : Nat} {source : Source} {flaw : Flaw}
      (hOwn : OwnFlaw (readLevels settings levels) source flaw) :
      Blamed settings (levels + 1) (.object source) flaw

/-- The steps of a flaw lead to a value that is read with the same flaw by itself. -/
theorem exists_leads_of_readLevels_error {settings : Settings} {levels : Nat} {raw : Json}
    {flaw : Flaw} (h : (readLevels settings levels raw).result = .error flaw) :
    ∃ places lower last tail, Leads settings levels raw places lower last ∧
      Blamed settings lower last tail ∧ (readLevels settings lower last).result = .error tail ∧
      flaw = tail.below places.flatten := by
  induction levels generalizing raw flaw with
  | zero =>
    cases h
    exact ⟨[], 0, raw, _, .here, .depth, rfl, rfl⟩
  | succ levels ih =>
    have hItself (hBlamed : Blamed settings (levels + 1) raw flaw) :
        ∃ places lower last tail, Leads settings (levels + 1) raw places lower last ∧
          Blamed settings lower last tail ∧ (readLevels settings lower last).result = .error tail ∧
          flaw = tail.below places.flatten :=
      ⟨[], levels + 1, raw, flaw, .here, hBlamed, h, rfl⟩
    cases raw with
    | object source =>
      rcases located_of_readLevels flaw h with hOwn | ⟨steps, next, inner, hEnters, hInner, rfl⟩
      · exact hItself (.keyword hOwn)
      · obtain ⟨places, lower, last, tail, hLeads, hBlamed, hTail, rfl⟩ := ih hInner
        refine ⟨steps :: places, lower, last, tail, .step hEnters hLeads, hBlamed, hTail, ?_⟩
        rw [Flaw.below_below, List.flatten_cons]
    | _ =>
      cases h
      exact hItself (.notObject nofun)

/-- The path of a violation continues the place of the value that was read, with steps that lead to
a nested value and from there to a keyword of it, or to no keyword if the value is nested too deep
or no object. Read by itself at its own place, that value gives the same violation. Another place
changes nothing else. -/
theorem readAt_points_at_faulty_keyword {settings : Settings} {raw : Json} {place : Path}
    {violation : Violation} (hFailed : (readAt place settings raw).result = .error violation) :
    ∃ places lower last tail, ∃ here : Path,
      Leads settings settings.maxDepth raw places lower last ∧
      settings.maxDepth = lower + places.length ∧
      here = { place with steps := place.steps ++ places.flatten } ∧
      Blamed settings lower last tail ∧ violation = tail.seenFrom here ∧
      violation.path.text = place.text ++ String.join (places.flatten.map Step.text) ++
        String.join (tail.steps.map Step.text) ∧
      ((readLevels settings lower last).mapBoth (Ambiguity.seenFrom here)
        (Flaw.seenFrom here)).result = .error violation ∧
      ∀ other : Path, (readAt other settings raw).result = .error
        { violation with
          path := { other with steps := other.steps ++ places.flatten ++ tail.steps } } := by
  rw [readAt, Traced.result_mapBoth] at hFailed
  obtain ⟨flaw, hFlaw, rfl⟩ := mapError_eq_error.mp hFailed
  obtain ⟨places, lower, last, tail, hLeads, hBlamed, hTail, rfl⟩ :=
    exists_leads_of_readLevels_error hFlaw
  have hSeen (root : Path) : (tail.below places.flatten).seenFrom root =
      tail.seenFrom { root with steps := root.steps ++ places.flatten } := by
    simp only [Flaw.seenFrom, Flaw.below, List.append_assoc]
  refine ⟨places, lower, last, tail, _, hLeads, hLeads.levels_eq, rfl, hBlamed, hSeen place, ?_, ?_,
    ?_⟩
  · rw [hSeen, ← Path.text_append, ← Path.text_append]
    rfl
  · rw [Traced.result_mapBoth, hTail, hSeen]
    rfl
  · intro other
    rw [readAt, Traced.result_mapBoth, hFlaw, hSeen]
    exact congrArg Except.error (hSeen other)

theorem readAt_points_into_second_member :
    let raw : Json := .object [("type", .string "object"), ("properties", .object
      [("on", .object [("type", .string "boolean")]), ("id", .object [("anyOf", .array
        [.object [("type", .string "boolean")],
          .object [("type", .string "string"), ("format", .null)]])])])]
    let steps : List Step :=
      [.member "properties", .member "id", .member "anyOf", .item 1, .member "format"]
    (readAt ⟨"p", []⟩ {} raw).result = .error ⟨⟨"p", steps⟩, .schema .stringFormat, []⟩ ∧
      ∃ places lower last tail, Leads {} 64 raw places lower last ∧ Blamed {} lower last tail ∧
        places.flatten ++ tail.steps = steps := by
  intro raw steps
  have hFailed : (readAt ⟨"p", []⟩ {} raw).result =
      .error ⟨⟨"p", steps⟩, .schema .stringFormat, []⟩ := rfl
  obtain ⟨places, lower, last, tail, here, hLeads, -, rfl, hBlamed, hSeen, -⟩ :=
    readAt_points_at_faulty_keyword hFailed
  have hSteps := congrArg (fun violation : Violation => violation.path.steps) hSeen
  exact ⟨hFailed, places, lower, last, tail, hLeads, hBlamed, hSteps.symm⟩

end Schema

end ParamSchema
