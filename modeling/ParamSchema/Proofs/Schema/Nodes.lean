import ParamSchema.Proofs.Schema.Acceptance
import ParamSchema.Proofs.Schema.RoundTrip

/-!
# The nodes of a schema that was read

A schema is read node by node, every node with the levels that are left at its depth.
What the reader makes sure of at the top of a schema therefore holds at every node,
below combinators too, and no node stands deeper than the settings allow.
-/

set_option autoImplicit false

namespace ParamSchema.Schema

/-- A schema stands directly inside another, be it one of the members of a combinator. -/
inductive Nests : Schema → Schema → Prop
  | member {combinator : Combinator} {members : List Schema} {member : Schema}
      (hMember : member ∈ members) : Nests (.combined combinator members) member
  | inner {schema nested : Schema} (hInner : Inner schema nested) : Nests schema nested

inductive NodeAt (schema : Schema) : Nat → Schema → Prop
  | top : NodeAt schema 1 schema
  | nested {depth : Nat} {outer node : Schema} (hOuter : NodeAt schema depth outer)
      (hNests : Nests outer node) : NodeAt schema (depth + 1) node

theorem EachNested.of_nests {property : Schema → Prop} {schema nested : Schema}
    (h : schema.EachNested property) (hNests : Nests schema nested) : property nested := by
  cases hNests with
  | member hMember => exact h _ hMember
  | inner hInner => exact h.of_inner hInner

theorem exists_read_of_nests {settings : Settings} {levels : Nat} {raw : Json}
    {schema nested : Schema} (h : (readLevels settings levels raw).result = .ok schema)
    (hNests : Nests schema nested) : ∃ lower inside, levels = lower + 1 ∧
      (readLevels settings lower inside).result = .ok nested := by
  obtain ⟨lower, source, rfl, rfl, hReads⟩ := reads_of_readLevels h
  have hEach : schema.EachNested fun nested =>
      ∃ inside, (readLevels settings lower inside).result = .ok nested :=
    hReads.eachNested fun inside _ _ hNested => ⟨inside, hNested⟩
  obtain ⟨inside, hInside⟩ := hEach.of_nests hNests
  exact ⟨lower, inside, rfl, hInside⟩

theorem exists_read_of_nodeAt {settings : Settings} {levels depth : Nat} {raw : Json}
    {schema node : Schema} (h : (readLevels settings levels raw).result = .ok schema)
    (hNode : NodeAt schema depth node) : ∃ left inside, depth + left = levels + 1 ∧
      (readLevels settings left inside).result = .ok node := by
  induction hNode with
  | top => exact ⟨levels, raw, Nat.add_comm 1 levels, h⟩
  | nested hOuter hNests ih =>
    obtain ⟨left, inside, hLeft, hInside⟩ := ih
    obtain ⟨lower, inside', rfl, hInside'⟩ := exists_read_of_nests hInside hNests
    exact ⟨lower, inside', by omega, hInside'⟩

def numberRules? : Schema → Option NumberRules
  | .numeric _ _ rules => some rules
  | _ => none

def objectRules? : Schema → Option ObjectRules
  | .object _ rules | .record _ rules _ _ => some rules
  | _ => none

/-- Where one keyword of a written schema depends on another, or on the type. -/
structure KeywordsPaired (type : Option ValueType) (source : Source) : Prop where
  exclusiveMinimum : "exclusiveMinimum" ∈ Members.keys source → "minimum" ∈ Members.keys source
  exclusiveMaximum : "exclusiveMaximum" ∈ Members.keys source → "maximum" ∈ Members.keys source
  numberFormat : type = some (.numeric .number) → "format" ∉ Members.keys source
  additionalProperties : "additionalProperties" ∈ Members.keys source →
    "properties" ∈ Members.keys source

/-- What holds at a node. A flag has its place in a bound, an integer format in the integer type
and a rule for other members in a record, so these three are said of the written node. -/
structure NodeWellFormed (settings : Settings) (node : Schema) : Prop where
  members : ∀ combinator members, node = .combined combinator members → members ≠ []
  choices : ∀ type ∈ node.type?, ∀ common ∈ node.common?, ∀ items ∈ common.choices,
    type.Lists (.array items)
  default : ∀ type ∈ node.type?, ∀ default ∈ node.default?, type.Has default ∧ default ≠ .null
  multipleOf : ∀ rules ∈ node.numberRules?, ∀ divisor ∈ rules.multipleOf, 0 < divisor.signedUnits
  minProperties : ∀ rules ∈ node.objectRules?, ∀ least ∈ rules.minProperties, 1 ≤ least
  maxProperties : ∀ rules ∈ node.objectRules?, ∀ most ∈ rules.maxProperties, 1 ≤ most
  required : settings.strictRequired = true → ∀ rules ∈ node.objectRules?,
    ∀ name ∈ rules.required, node.declares name = true
  written : ∀ source, node.toJson = .object source → KeywordsPaired node.type? source

section

variable {settings : Settings} {read : Json → Reading Schema} {source : Source} {schema : Schema}

theorem Reads.members_ne_nil {combinator : Combinator} {members : List Schema}
    (h : Reads settings read source (.combined combinator members)) : members ≠ [] := by
  cases h with
  | combined hCombinators hStrict hItems hNonempty hMembers =>
    exact ne_nil_of_items_ok hMembers hNonempty

theorem Reads.readsCommon (h : Reads settings read source schema) :
    ∀ type ∈ schema.type?, ∀ common ∈ schema.common?, ReadsCommon source type common := by
  cases h with
  | combined hCombinators hStrict hItems hNonempty hMembers => nofun
  | string hCommon hRules => rintro _ ⟨⟩ _ ⟨⟩; exact hCommon
  | number hCommon hRules => rintro _ ⟨⟩ _ ⟨⟩; exact hCommon
  | integer hCommon hRules hFormat => rintro _ ⟨⟩ _ ⟨⟩; exact hCommon
  | boolean hCommon => rintro _ ⟨⟩ _ ⟨⟩; exact hCommon
  | array hCommon hRules hItems => rintro _ ⟨⟩ _ ⟨⟩; exact hCommon
  | object hCommon hRules hExtra hProperties hRequired => rintro _ ⟨⟩ _ ⟨⟩; exact hCommon
  | record hCommon hRules hExtra hProperties hRequired => rintro _ ⟨⟩ _ ⟨⟩; exact hCommon

theorem Reads.numberRules_wellFormed (h : Reads settings read source schema) :
    ∀ rules ∈ schema.numberRules?, rules.WellFormed := by
  intro rules hRules'
  cases h with
  | number hCommon hRules => cases hRules'; exact Schema.numberRules_wellFormed hRules
  | integer hCommon hRules hFormat => cases hRules'; exact Schema.numberRules_wellFormed hRules
  | _ => cases hRules'

theorem Reads.objectRules_wellFormed (h : Reads settings read source schema) :
    ∀ rules ∈ schema.objectRules?, ∃ declared, rules.WellFormed settings declared ∧
      ∀ name ∈ declared, schema.declares name = true := by
  intro rules hRules'
  cases h with
  | object hCommon hRules hExtra hProperties hRequired =>
    cases hRules'
    exact ⟨[], Schema.objectRules_wellFormed hRules hRequired, nofun⟩
  | record hCommon hRules hExtra hProperties hRequired =>
    cases hRules'
    refine ⟨_, Schema.objectRules_wellFormed hRules hRequired, ?_⟩
    intro name hName
    exact Members.contains_eq_true_iff.mpr hName
  | _ => cases hRules'

end

theorem mem_keys_keywordOf {key name : String} {value : Option Json} :
    key ∈ Members.keys (keywordOf name value) ↔ key = name ∧ value.isSome = true := by
  cases value <;> simp [keywordOf, Members.keys]

theorem mem_keys_flagOf {key name : String} {flag : Bool} :
    key ∈ Members.keys (flagOf name flag) ↔ key = name ∧ flag = true := by
  cases flag <;> simp [flagOf, Members.keys]

theorem mem_keys_boundKeywords {key name flagName : String} {rule : Option Bound} :
    key ∈ Members.keys (rule.elim [] (Bound.keywords name flagName)) ↔
      ∃ bound ∈ rule, key = name ∨ key = flagName ∧ bound.exclusive = true := by
  cases rule with
  | none => simp [Members.keys]
  | some bound => simp [Bound.keywords, Members.keys_cons, mem_keys_flagOf]

theorem keywordsPaired_source {found : Option ValueType} {common : Common} {type : ValueType}
    {keywords : Source} (h : KeywordsPaired found keywords) :
    KeywordsPaired found (common.source type keywords) := by
  have hKey {key : String} (hShared : key ∉ sharedKeys) :
      key ∈ Members.keys (common.source type keywords) ↔ key ∈ Members.keys keywords := by
    rw [← Members.contains_eq_true_iff, ← Members.contains_eq_true_iff, Members.contains,
      Members.contains, lookup_source_of_own hShared]
  constructor
  case exclusiveMinimum =>
    rw [hKey (by decide), hKey (by decide)]
    exact h.exclusiveMinimum
  case exclusiveMaximum =>
    rw [hKey (by decide), hKey (by decide)]
    exact h.exclusiveMaximum
  case numberFormat =>
    rw [hKey (by decide)]
    exact h.numberFormat
  case additionalProperties =>
    rw [hKey (by decide), hKey (by decide)]
    exact h.additionalProperties

theorem keywordsPaired_numberKeywords (type : NumericType) (rules : NumberRules) :
    KeywordsPaired (some (.numeric type.kind)) (rules.keywords type) := by
  have hKeys (key : String) : key ∈ Members.keys (rules.keywords type) ↔
      (∃ bound ∈ rules.minimum, key = "minimum" ∨ key = "exclusiveMinimum" ∧ bound.exclusive = true) ∨
      (∃ bound ∈ rules.maximum, key = "maximum" ∨ key = "exclusiveMaximum" ∧ bound.exclusive = true) ∨
      key = "multipleOf" ∧ rules.multipleOf.isSome = true ∨
      key = "format" ∧ type.format?.isSome = true := by
    simp only [NumberRules.keywords, Members.keys_append, List.mem_append, mem_keys_boundKeywords,
      mem_keys_keywordOf, Option.isSome_map, or_assoc]
  constructor
  case exclusiveMinimum =>
    rw [hKeys, hKeys]
    rintro (⟨bound, hBound, -⟩ | ⟨_, _, hKey⟩ | hKey)
    · exact .inl ⟨bound, hBound, .inl rfl⟩
    · simp at hKey
    · simp at hKey
  case exclusiveMaximum =>
    rw [hKeys, hKeys]
    rintro (⟨_, _, hKey⟩ | ⟨bound, hBound, -⟩ | hKey)
    · simp at hKey
    · exact .inr (.inl ⟨bound, hBound, .inl rfl⟩)
    · simp at hKey
  case numberFormat =>
    rw [hKeys]
    cases type <;> simp [NumericType.kind, NumericType.format?]
  case additionalProperties => simp [hKeys]

theorem keywordsPaired_objectKeywords (rules : ObjectRules) :
    KeywordsPaired (some .object) rules.keywords := by
  rw [rules.keywords_eq]
  constructor <;> simp [Members.keys_append, mem_keys_keywordOf]

theorem keywordsPaired_nestedKeywords (properties : List (String × Schema))
    (extra : Extra Schema) : KeywordsPaired (some .object) (nestedKeywords properties extra) := by
  cases extra <;>
  · constructor <;> simp [nestedKeywords, extraKeyword, Members.keys]

theorem KeywordsPaired.append {type : Option ValueType} {before after : Source}
    (hBefore : KeywordsPaired type before) (hAfter : KeywordsPaired type after) :
    KeywordsPaired type (before ++ after) := by
  constructor
  case numberFormat =>
    intro hType
    rw [Members.keys_append, List.mem_append, not_or]
    exact ⟨hBefore.numberFormat hType, hAfter.numberFormat hType⟩
  all_goals
    rw [Members.keys_append, List.mem_append, List.mem_append]
  case exclusiveMinimum => exact Or.imp hBefore.exclusiveMinimum hAfter.exclusiveMinimum
  case exclusiveMaximum => exact Or.imp hBefore.exclusiveMaximum hAfter.exclusiveMaximum
  case additionalProperties =>
    exact Or.imp hBefore.additionalProperties hAfter.additionalProperties

theorem keywordsPaired_toJson (schema : Schema) {source : Source}
    (h : schema.toJson = .object source) : KeywordsPaired schema.type? source := by
  cases schema with
  | combined combinator members =>
    cases h
    constructor <;> cases combinator <;> simp [Members.keys, Combinator.keyword]
  | string common rules =>
    cases h
    apply keywordsPaired_source
    constructor <;> simp [StringRules.keywords, Members.keys_append, mem_keys_keywordOf, type?]
  | numeric common type rules =>
    cases h
    exact keywordsPaired_source (keywordsPaired_numberKeywords type rules)
  | boolean common =>
    cases h
    apply keywordsPaired_source
    constructor <;> simp [Members.keys]
  | array common rules items =>
    cases h
    apply keywordsPaired_source
    constructor <;> simp [ArrayRules.keywords, Members.keys_append, Members.keys_cons,
      Members.keys_nil, mem_keys_keywordOf, mem_keys_flagOf, type?]
  | object common rules =>
    cases h
    exact keywordsPaired_source (keywordsPaired_objectKeywords rules)
  | record common rules properties extra =>
    cases h
    exact keywordsPaired_source ((keywordsPaired_objectKeywords rules).append
      (keywordsPaired_nestedKeywords properties extra))

theorem Reads.nodeWellFormed {settings : Settings} {read : Json → Reading Schema} {source : Source}
    {schema : Schema} (h : Reads settings read source schema) : schema.NodeWellFormed settings := by
  constructor
  case members =>
    rintro combinator members rfl
    exact h.members_ne_nil
  case choices =>
    intro type hType common hCommon items hItems
    have hList := ((h.readsCommon type hType common hCommon).choices_of_some hItems).2
    rw [← ValueType.isSome_choices?_iff, choices?_eq_some_iff.mpr ⟨rfl, hList⟩]
    rfl
  case default =>
    intro type hType default hDefault
    obtain ⟨common, hCommon, hDefault⟩ := Option.bind_eq_some_iff.mp hDefault
    have hAdmits := ((h.readsCommon type hType common hCommon).default_of_some hDefault).2
    refine ⟨ValueType.admits_iff.mp hAdmits, ?_⟩
    rintro rfl
    rcases type with _ | (_ | _) | _ | _ | _ <;> cases hAdmits
  case multipleOf =>
    intro rules hRules divisor hDivisor
    exact h.numberRules_wellFormed rules hRules divisor hDivisor
  case minProperties =>
    intro rules hRules least hLeast
    obtain ⟨declared, hWell, -⟩ := h.objectRules_wellFormed rules hRules
    exact (hWell.minProperties least hLeast).2
  case maxProperties =>
    intro rules hRules most hMost
    obtain ⟨declared, hWell, -⟩ := h.objectRules_wellFormed rules hRules
    exact (hWell.maxProperties most hMost).2
  case required =>
    intro hStrict rules hRules name hName
    obtain ⟨declared, hWell, hDeclares⟩ := h.objectRules_wellFormed rules hRules
    exact hDeclares name (hWell.required hStrict name hName)
  case written => exact fun source => schema.keywordsPaired_toJson

/-- Every node of a schema that was read is well-formed, and neither stands deeper nor reaches
deeper than the settings allow. -/
theorem node_wellFormed_of_readAt {settings : Settings} {place : Path} {raw : Json} {schema : Schema}
    (hRead : (readAt place settings raw).result = .ok schema) {depth : Nat} {node : Schema}
    (hNode : NodeAt schema depth node) : node.NodeWellFormed settings ∧
      depth ≤ settings.maxDepth ∧ depth + node.nesting ≤ settings.maxDepth + 1 := by
  obtain ⟨left, inside, hLeft, hInside⟩ := exists_read_of_nodeAt (readAt_eq_ok_iff.mp hRead) hNode
  have hNesting : node.nesting ≤ left := nesting_le_of_readLevels hInside
  obtain ⟨lower, source, rfl, rfl, hReads⟩ := reads_of_readLevels hInside
  exact ⟨hReads.nodeWellFormed, by omega, by omega⟩

theorem node_wellFormed_below_any_of :
    let leaf : Schema := .numeric { choices := some [.number (.double .zero)] } .number
      { minimum := some ⟨.zero, true⟩ }
    let schema : Schema :=
      .combined .anyOf [.record {} { required := ["n"] } [("n", leaf)] .refused]
    NodeAt schema 3 leaf ∧ NodeWellFormed { maxDepth := 3, strictRequired := true } leaf := by
  intro leaf schema
  have hRead : (readAt ⟨"schema", []⟩ { maxDepth := 3, strictRequired := true }
      (.object [("anyOf", .array [.object [("type", .string "object"),
        ("required", .array [.string "n"]), ("additionalProperties", .bool false),
        ("properties", .object [("n", .object [("exclusiveMinimum", .bool true),
          ("minimum", .number (.double .zero)), ("enum", .array [.number (.double .zero)]),
          ("type", .string "number")])])]])])).result = .ok schema := rfl
  have hNode : NodeAt schema 3 leaf :=
    .nested (.nested .top (.member List.mem_cons_self)) (.inner (.property List.mem_cons_self))
  exact ⟨hNode, (node_wellFormed_of_readAt hRead hNode).1⟩

end ParamSchema.Schema
