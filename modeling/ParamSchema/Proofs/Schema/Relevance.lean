import ParamSchema.Proofs.Schema.Acceptance

/-!
# Relevant keywords

Which keys of a source its reading depends on: the combinator that is honoured, or
for a leaf the shared keywords and those of its type. Two sources agree if these keys
have the same values, up to agreement of the sources that stand in them.
-/

set_option autoImplicit false

namespace ParamSchema

def ValueType.keywords : ValueType → List String
  | .string => ["minLength", "maxLength", "pattern", "format"]
  | .numeric .number =>
    ["minimum", "exclusiveMinimum", "maximum", "exclusiveMaximum", "multipleOf"]
  | .numeric .integer =>
    ["minimum", "exclusiveMinimum", "maximum", "exclusiveMaximum", "multipleOf", "format"]
  | .boolean => []
  | .array => ["minItems", "maxItems", "uniqueItems", "items"]
  | .object => ["minProperties", "maxProperties", "required", "properties", "additionalProperties"]

theorem Combinator.rank_injective {combinator other : Combinator}
    (h : combinator.rank = other.rank) : combinator = other := by
  cases combinator <;> cases other <;> first | rfl | cases h

namespace Schema

def declaredType? (source : Source) : Option ValueType :=
  (source.lookup "type").bind fun value => value.string?.bind ValueType.ofName?

/-- A flag that excludes a bound counts only together with the bound. -/
def counts (source : Source) (key : String) : Bool :=
  (key != "exclusiveMinimum" || Members.contains source "minimum") &&
    (key != "exclusiveMaximum" || Members.contains source "maximum")

def sharedKeywords : List String := ["type", "nullable", "enum", "default"]

def relevantKeys (source : Source) : List String :=
  match combinators source with
  | combinator :: _ => [combinator.keyword]
  | [] => sharedKeywords ++
      ((declaredType? source).elim [] ValueType.keywords).filter (counts source)

/-- Two forms of a schema: related objects, or no objects at all. -/
inductive AgreeSchemas (nested : Source → Source → Prop) : Json → Json → Prop
  | object {source source' : Source} (hNested : nested source source') :
      AgreeSchemas nested (.object source) (.object source')
  | other {raw raw' : Json} (hFirst : raw.members? = none) (hSecond : raw'.members? = none) :
      AgreeSchemas nested raw raw'

/-- Two values of a key: equal, or with related schemas where schemas stand in them. -/
inductive AgreeUnder (nested : Source → Source → Prop) (key : String) : Json → Json → Prop
  | same (value : Json) : AgreeUnder nested key value value
  | schema {source source' : Source} (hKey : key = "items" ∨ key = "additionalProperties")
      (hNested : nested source source') : AgreeUnder nested key (.object source) (.object source')
  | properties {members members' : Source} (hKey : key = "properties")
      (hMembers : List.Forall₂ (fun member member' =>
        member.1 = member'.1 ∧ AgreeSchemas nested member.2 member'.2) members members') :
      AgreeUnder nested key (.object members) (.object members')
  | members {items items' : List Json} (hKey : ∃ combinator : Combinator, key = combinator.keyword)
      (hItems : List.Forall₂ (AgreeSchemas nested) items items') :
      AgreeUnder nested key (.array items) (.array items')

def AgreeAt (nested : Source → Source → Prop) (source source' : Source) (key : String) : Prop :=
  Option.Rel (AgreeUnder nested key) (source.lookup key) (source'.lookup key)

def Agree (nested : Source → Source → Prop) (source source' : Source) : Prop :=
  ∀ key ∈ relevantKeys source ++ relevantKeys source', AgreeAt nested source source' key

/-- Agreement of two sources and of those inside them, down to some level. A strict reader
also looks at which combinators there are. -/
def AgreeSources (settings : Settings) : Nat → Source → Source → Prop
  | 0, _, _ => True
  | levels + 1, source, source' =>
    (settings.strictCombinators = true → combinators source = combinators source') ∧
      Agree (AgreeSources settings levels) source source'

def nestingKeys : List String :=
  ["items", "additionalProperties", "properties", "oneOf", "anyOf", "allOf"]

section

variable {nested : Source → Source → Prop} {source source' : Source} {key : String}

theorem AgreeSchemas.refl (hRefl : ∀ source, nested source source) (raw : Json) :
    AgreeSchemas nested raw raw := by
  cases raw with
  | object source => exact .object (hRefl source)
  | _ => exact .other rfl rfl

theorem AgreeAt.of_lookup_eq (h : source.lookup key = source'.lookup key) :
    AgreeAt nested source source' key := by
  unfold AgreeAt
  rw [h]
  cases source'.lookup key with
  | none => exact .none
  | some value => exact .some (.same value)

theorem Agree.refl (source : Source) : Agree nested source source :=
  fun _ _ => .of_lookup_eq rfl

theorem AgreeSources.refl (settings : Settings) (levels : Nat) (source : Source) :
    AgreeSources settings levels source source := by
  cases levels with
  | zero => trivial
  | succ levels => exact ⟨fun _ => rfl, Agree.refl source⟩

theorem AgreeAt.cases (h : AgreeAt nested source source' key) :
    source.lookup key = none ∧ source'.lookup key = none ∨
      ∃ value value', source.lookup key = some value ∧ source'.lookup key = some value' ∧
        AgreeUnder nested key value value' := by
  unfold AgreeAt at h
  generalize source.lookup key = found, source'.lookup key = found' at h
  cases h with
  | none => exact .inl ⟨rfl, rfl⟩
  | some hValues => exact .inr ⟨_, _, rfl, rfl, hValues⟩

theorem AgreeAt.lookup_eq (h : AgreeAt nested source source' key) (hKey : key ∉ nestingKeys) :
    source.lookup key = source'.lookup key := by
  rcases h.cases with ⟨hNone, hNone'⟩ | ⟨value, value', hValue, hValue', hAgree⟩
  · rw [hNone, hNone']
  · rw [hValue, hValue']
    cases hAgree with
    | same => rfl
    | schema hName => rcases hName with rfl | rfl <;> exact absurd (by decide) hKey
    | properties hName =>
      subst hName
      exact absurd (by decide) hKey
    | members hName =>
      obtain ⟨combinator, rfl⟩ := hName
      cases combinator <;> exact absurd (by decide) hKey

theorem AgreeAt.contains_eq (h : AgreeAt nested source source' key) :
    Members.contains source key = Members.contains source' key := by
  rcases h.cases with ⟨hNone, hNone'⟩ | ⟨value, value', hValue, hValue', -⟩
  · rw [Members.contains, Members.contains, hNone, hNone']
  · rw [Members.contains, Members.contains, hValue, hValue']
    rfl

theorem relevantKeys_of_combinators {combinator : Combinator} {ignored : List Combinator}
    (h : combinators source = combinator :: ignored) :
    relevantKeys source = [combinator.keyword] := by
  rw [relevantKeys, h]

theorem relevantKeys_of_leaf (h : combinators source = []) : relevantKeys source =
    sharedKeywords ++ ((declaredType? source).elim [] ValueType.keywords).filter (counts source) := by
  rw [relevantKeys, h]

theorem rank_le_of_mem_combinators {combinator other : Combinator} {ignored : List Combinator}
    (h : combinators source = combinator :: ignored) (hOther : other ∈ combinators source) :
    combinator.rank ≤ other.rank := by
  have hPairwise : (combinators source).Pairwise fun a b => a.rank < b.rank :=
    pairwise_rank_combinators
  rw [h, List.pairwise_cons] at hPairwise
  rw [h, List.mem_cons] at hOther
  rcases hOther with rfl | hIgnored
  · exact Nat.le_refl _
  · exact Nat.le_of_lt (hPairwise.1 other hIgnored)

theorem AgreeAt.mem_combinators_iff {combinator : Combinator}
    (h : AgreeAt nested source source' combinator.keyword) :
    combinator ∈ combinators source ↔ combinator ∈ combinators source' := by
  rw [Schema.mem_combinators_iff, Schema.mem_combinators_iff, ← Members.contains_eq_true_iff,
    ← Members.contains_eq_true_iff, h.contains_eq]

def AgreeOwn (nested : Source → Source → Prop) (type : ValueType) (source source' : Source) :
    Prop :=
  ∀ key ∈ type.keywords, counts source key = true → AgreeAt nested source source' key

namespace Agree

theorem honored_left (h : Agree nested source source') {combinator : Combinator}
    {ignored : List Combinator} (hCombinators : combinators source = combinator :: ignored) :
    AgreeAt nested source source' combinator.keyword := by
  apply h
  rw [relevantKeys_of_combinators hCombinators]
  exact List.mem_cons_self

theorem honored_right (h : Agree nested source source') {combinator : Combinator}
    {ignored : List Combinator} (hCombinators : combinators source' = combinator :: ignored) :
    AgreeAt nested source source' combinator.keyword := by
  apply h
  rw [relevantKeys_of_combinators hCombinators]
  exact List.mem_append_right _ List.mem_cons_self

theorem combinators_cons (h : Agree nested source source') {combinator : Combinator}
    {ignored : List Combinator} (hCombinators : combinators source = combinator :: ignored) :
    ∃ ignored', combinators source' = combinator :: ignored' := by
  have hMem : combinator ∈ combinators source' := by
    rw [← (h.honored_left hCombinators).mem_combinators_iff, hCombinators]
    exact List.mem_cons_self
  cases hCombinators' : combinators source' with
  | nil =>
    rw [hCombinators'] at hMem
    cases hMem
  | cons other ignored' =>
    have hOther : other ∈ combinators source := by
      rw [(h.honored_right hCombinators').mem_combinators_iff, hCombinators']
      exact List.mem_cons_self
    have hRank : combinator.rank = other.rank := Nat.le_antisymm
      (rank_le_of_mem_combinators hCombinators hOther)
      (rank_le_of_mem_combinators hCombinators' hMem)
    rw [Combinator.rank_injective hRank]
    exact ⟨ignored', rfl⟩

theorem combinators_nil (h : Agree nested source source') (hLeaf : combinators source = []) :
    combinators source' = [] := by
  cases hCombinators : combinators source' with
  | nil => rfl
  | cons other ignored =>
    have hOther : other ∈ combinators source := by
      rw [(h.honored_right hCombinators).mem_combinators_iff, hCombinators]
      exact List.mem_cons_self
    rw [hLeaf] at hOther
    cases hOther

theorem shared (h : Agree nested source source') (hLeaf : combinators source = [])
    (hKey : key ∈ sharedKeywords) : source.lookup key = source'.lookup key := by
  have hAt : AgreeAt nested source source' key := by
    apply h
    rw [relevantKeys_of_leaf hLeaf]
    exact List.mem_append_left _ (List.mem_append_left _ hKey)
  have hPlain : ∀ key ∈ sharedKeywords, key ∉ nestingKeys := by decide
  exact hAt.lookup_eq (hPlain key hKey)

theorem own (h : Agree nested source source') (hLeaf : combinators source = []) {type : ValueType}
    (hType : declaredType? source = some type) : AgreeOwn nested type source source' := by
  intro key hKey hCounts
  apply h
  rw [relevantKeys_of_leaf hLeaf, hType]
  exact List.mem_append_left _ (List.mem_append_right _ (List.mem_filter.mpr ⟨hKey, hCounts⟩))

end Agree

theorem keyword?_congr {α : Type} {fault : SchemaFault} {read : Json → Option α}
    (h : source.lookup key = source'.lookup key) :
    keyword? source key fault read = keyword? source' key fault read := by
  rw [keyword?, keyword?, h]

theorem flag_congr {fault : SchemaFault} (h : source.lookup key = source'.lookup key) :
    flag source key fault = flag source' key fault := by
  rw [flag, flag, keyword?_congr h]

theorem bound_congr {flagKey : String} {fault flagFault : SchemaFault}
    (hBound : source.lookup key = source'.lookup key)
    (hFlag : Members.contains source key = true → source.lookup flagKey = source'.lookup flagKey) :
    bound source key flagKey fault flagFault = bound source' key flagKey fault flagFault := by
  unfold bound
  rw [← keyword?_congr hBound]
  cases hFound : keyword? source key fault Json.binary64? with
  | error flaw => rfl
  | ok found =>
    cases found with
    | none => rfl
    | some value =>
      have hContains : Members.contains source key = true :=
        Members.contains_eq_true_iff.mpr ((mem_keys_of_keyword?_ok hFound).mpr rfl)
      simp only [flag_congr (hFlag hContains)]

theorem declaredType?_of_keyword {fault : SchemaFault} {type : ValueType}
    (h : keyword? source "type" fault (fun value => value.string?.bind ValueType.ofName?) =
      .ok (some type)) : declaredType? source = some type := by
  obtain ⟨value, hValue, hRead⟩ := exists_of_keyword?_ok h
  rw [declaredType?, hValue]
  exact hRead

namespace AgreeOwn

theorem lookup_eq {type : ValueType} (h : AgreeOwn nested type source source') (key : String)
    (hKey : key ∈ type.keywords)
    (hPlain : key ∉ "exclusiveMinimum" :: "exclusiveMaximum" :: nestingKeys) :
    source.lookup key = source'.lookup key := by
  simp only [List.mem_cons, not_or] at hPlain
  obtain ⟨hMinimum, hMaximum, hNesting⟩ := hPlain
  exact (h key hKey (by simp [counts, hMinimum, hMaximum])).lookup_eq
    (by simpa [nestingKeys] using hNesting)

theorem stringRules_eq (h : AgreeOwn nested .string source source') :
    stringRules source = stringRules source' := by
  unfold stringRules
  rw [keyword?_congr (h.lookup_eq "minLength" (by decide) (by decide)),
    keyword?_congr (h.lookup_eq "maxLength" (by decide) (by decide)),
    keyword?_congr (h.lookup_eq "pattern" (by decide) (by decide)),
    keyword?_congr (h.lookup_eq "format" (by decide) (by decide))]

theorem numberRules_eq {kind : NumberKind} (h : AgreeOwn nested (.numeric kind) source source') :
    numberRules source = numberRules source' := by
  have hMinimum : source.lookup "minimum" = source'.lookup "minimum" :=
    h.lookup_eq "minimum" (by cases kind <;> decide) (by decide)
  have hMaximum : source.lookup "maximum" = source'.lookup "maximum" :=
    h.lookup_eq "maximum" (by cases kind <;> decide) (by decide)
  have hAbove (hBound : Members.contains source "minimum" = true) :
      source.lookup "exclusiveMinimum" = source'.lookup "exclusiveMinimum" :=
    (h _ (by cases kind <;> decide) (by simp [counts, hBound])).lookup_eq (by decide)
  have hBelow (hBound : Members.contains source "maximum" = true) :
      source.lookup "exclusiveMaximum" = source'.lookup "exclusiveMaximum" :=
    (h _ (by cases kind <;> decide) (by simp [counts, hBound])).lookup_eq (by decide)
  have hMultipleOf : source.lookup "multipleOf" = source'.lookup "multipleOf" :=
    h.lookup_eq "multipleOf" (by cases kind <;> decide) (by decide)
  rw [numberRules, numberRules, bound_congr hMinimum hAbove, bound_congr hMaximum hBelow,
    keyword?_congr hMultipleOf]

theorem integerFormat_eq (h : AgreeOwn nested (.numeric .integer) source source') :
    integerFormat source = integerFormat source' :=
  keyword?_congr (h.lookup_eq "format" (by decide) (by decide))

theorem arrayRules_eq (h : AgreeOwn nested .array source source') :
    arrayRules source = arrayRules source' := by
  unfold arrayRules
  rw [keyword?_congr (h.lookup_eq "minItems" (by decide) (by decide)),
    keyword?_congr (h.lookup_eq "maxItems" (by decide) (by decide)),
    flag_congr (h.lookup_eq "uniqueItems" (by decide) (by decide))]

theorem objectRules_eq (h : AgreeOwn nested .object source source') :
    objectRules source = objectRules source' := by
  unfold objectRules
  rw [keyword?_congr (h.lookup_eq "minProperties" (by decide) (by decide)),
    keyword?_congr (h.lookup_eq "maxProperties" (by decide) (by decide)),
    keyword?_congr (h.lookup_eq "required" (by decide) (by decide))]

end AgreeOwn

end

end Schema

end ParamSchema
