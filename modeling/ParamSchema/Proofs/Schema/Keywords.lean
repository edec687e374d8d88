import ParamSchema.Proofs.Schema.Canonical

/-!
# Keywords written and read back

A keyword that was written is read as what was written, and one that was left out
as what leaving it out means.
-/

set_option autoImplicit false

namespace ParamSchema

theorem lookup_keywordOf (key name : String) (value : Option Json) :
    (keywordOf name value).lookup key = if key = name then value else none := by
  cases value <;> simp [keywordOf, Members.lookup_cons]

theorem lookup_flagOf (key name : String) (flag : Bool) :
    (flagOf name flag).lookup key = if key = name ∧ flag then some (.bool true) else none := by
  cases flag <;> simp [flagOf, Members.lookup_cons]

theorem lookup_boundKeywords (key name flagName : String) (rule : Option Bound) :
    (rule.elim [] (Bound.keywords name flagName)).lookup key =
      if key = name then rule.map fun bound => .ofBinary64 bound.value
      else if key = flagName then
        rule.bind fun bound => if bound.exclusive then some (.bool true) else none
      else none := by
  cases rule with
  | none => simp
  | some bound =>
    rw [Option.elim_some, Bound.keywords, Members.lookup_cons, lookup_flagOf]
    by_cases hKey : key = name <;> by_cases hFlag : key = flagName <;> simp [hKey, hFlag]

theorem ObjectRules.keywords_eq (rules : ObjectRules) : rules.keywords =
    keywordOf "minProperties" (rules.minProperties.map .ofCount) ++
    keywordOf "maxProperties" (rules.maxProperties.map .ofCount) ++
    keywordOf "required"
      (if rules.required = [] then none else some (.array (rules.required.map .string))) := by
  unfold ObjectRules.keywords
  cases rules.required <;> rfl

theorem ValueType.ofName?_name (type : ValueType) : ofName? type.name = some type := by
  rcases type with _ | (_ | _) | _ | _ | _ <;> decide

theorem StringFormat.ofName?_name (format : StringFormat) : ofName? format.name = some format := by
  cases format <;> decide

theorem IntegerFormat.ofName?_name (format : IntegerFormat) :
    ofName? format.name = some format := by
  cases format <;> decide

theorem Pattern.compile?_source (pattern : Pattern) : compile? pattern.source = some pattern := by
  unfold compile?
  split
  · rename_i regex compiled
    have hRegex : regex = pattern.regex := by
      rw [pattern.compiled] at compiled
      exact (Option.some.inj compiled).symm
    subst hRegex
    rfl
  · rename_i compiled
    rw [pattern.compiled] at compiled
    cases compiled

namespace Schema

section

variable {source : Source} {key : String}

theorem keyword?_of_lookup {α : Type} {fault : SchemaFault} {read : Json → Option α}
    {found : Option α} (write : α → Json) (hLookup : source.lookup key = found.map write)
    (hRead : ∀ x, found = some x → read (write x) = some x) :
    keyword? source key fault read = .ok found := by
  rw [keyword?_eq_ok_iff, hLookup]
  cases found with
  | none => rfl
  | some x => exact congrArg some (hRead x rfl)

theorem flag_of_lookup {fault : SchemaFault} {set : Bool}
    (hLookup : source.lookup key = if set then some (.bool true) else none) :
    flag source key fault = .ok set := by
  cases set <;> simp [flag, keyword?, hLookup, Json.bool?]

theorem count_of_lookup {fault : SchemaFault} {count : Option Nat}
    (hLookup : source.lookup key = count.map .ofCount)
    (hCount : ∀ n, count = some n → Json.IsCount n) :
    keyword? source key fault Json.count? = .ok count :=
  keyword?_of_lookup Json.ofCount hLookup fun n hn => Json.count?_ofCount (hCount n hn)

theorem positiveCount_of_lookup {fault : SchemaFault} {count : Option Nat}
    (hLookup : source.lookup key = count.map .ofCount)
    (hCount : ∀ n, count = some n → Json.IsCount n ∧ 0 < n) :
    keyword? source key fault positiveCount? = .ok count := by
  refine keyword?_of_lookup Json.ofCount hLookup ?_
  intro n hn
  rw [positiveCount?_eq_some_iff]
  exact ⟨Json.count?_ofCount (hCount n hn).1, (hCount n hn).2⟩

theorem stringRules_of_lookup {rules : StringRules} (hRules : rules.WellFormed)
    (hSource : ∀ key ∈ ["minLength", "maxLength", "pattern", "format"],
      source.lookup key = rules.keywords.lookup key) : stringRules source = .ok rules := by
  simp only [List.mem_cons, List.not_mem_nil, or_false, forall_eq_or_imp, forall_eq,
    StringRules.keywords, List.lookup_append, lookup_keywordOf, String.reduceEq, reduceIte,
    Option.or_none, Option.none_or] at hSource
  obtain ⟨hMin, hMax, hPattern, hFormat⟩ := hSource
  have hPattern : keyword? source "pattern" .pattern (fun value =>
      value.string?.bind Pattern.compile?) = .ok rules.pattern :=
    keyword?_of_lookup _ hPattern fun pattern _ => pattern.compile?_source
  have hFormat : keyword? source "format" .stringFormat (fun value =>
      value.string?.bind StringFormat.ofName?) = .ok rules.format :=
    keyword?_of_lookup _ hFormat fun format _ => format.ofName?_name
  rw [stringRules, count_of_lookup hMin hRules.minLength, count_of_lookup hMax hRules.maxLength,
    hPattern, hFormat]
  rfl

theorem bound_of_lookup {rule : Option Bound} {flagKey : String} {fault flagFault : SchemaFault}
    (hKey : source.lookup key = rule.map fun bound => .ofBinary64 bound.value)
    (hFlag : source.lookup flagKey =
      rule.bind fun bound => if bound.exclusive then some (.bool true) else none) :
    bound source key flagKey fault flagFault = .ok (rule.map Bound.canonical) := by
  cases rule with
  | none =>
    have hValue : keyword? source key fault Json.binary64? = .ok none := by
      rw [keyword?_eq_ok_iff, hKey]
      rfl
    rw [bound, hValue]
    rfl
  | some found =>
    have hValue : keyword? source key fault Json.binary64? = .ok (some found.value.canonical) := by
      rw [keyword?_eq_ok_iff, hKey]
      exact congrArg some (Json.binary64?_ofBinary64 found.value)
    have hExclusive : flag source flagKey flagFault = .ok found.exclusive := flag_of_lookup hFlag
    rw [bound, hValue]
    dsimp only [bind, Except.bind]
    rw [hExclusive]
    rfl

theorem numberRules_of_lookup {type : NumericType} {rules : NumberRules}
    (hRules : rules.WellFormed)
    (hSource : ∀ key ∈ ["minimum", "exclusiveMinimum", "maximum", "exclusiveMaximum", "multipleOf"],
      source.lookup key = (rules.keywords type).lookup key) :
    numberRules source = .ok rules.canonical := by
  simp only [List.mem_cons, List.not_mem_nil, or_false, forall_eq_or_imp, forall_eq,
    NumberRules.keywords, List.lookup_append, lookup_boundKeywords, lookup_keywordOf,
    String.reduceEq, reduceIte, Option.or_none, Option.none_or] at hSource
  obtain ⟨hMin, hMinFlag, hMax, hMaxFlag, hMultiple⟩ := hSource
  have hMultiple : keyword? source "multipleOf" .multipleOf positive? = .ok rules.multipleOf := by
    refine keyword?_of_lookup _ hMultiple ?_
    intro divisor hDivisor
    have hPositive : 0 < divisor.signedUnits := hRules divisor hDivisor
    rw [positive?_eq_some_iff, Json.binary64?_ofBinary64, Binary64.canonical_of_ne_zero]
    · exact ⟨rfl, hPositive⟩
    · unfold Binary64.signedUnits at hPositive
      split at hPositive <;> omega
  rw [numberRules, bound_of_lookup hMin hMinFlag, bound_of_lookup hMax hMaxFlag, hMultiple]
  rfl

theorem integerFormat_of_lookup {format : Option IntegerFormat}
    (hSource : source.lookup "format" = format.map fun format => .string format.name) :
    integerFormat source = .ok format :=
  keyword?_of_lookup _ hSource fun format _ => format.ofName?_name

theorem arrayRules_of_lookup {rules : ArrayRules} (hRules : rules.WellFormed)
    (hSource : ∀ key ∈ ["minItems", "maxItems", "uniqueItems"],
      source.lookup key = rules.keywords.lookup key) : arrayRules source = .ok rules := by
  simp only [List.mem_cons, List.not_mem_nil, or_false, forall_eq_or_imp, forall_eq,
    ArrayRules.keywords, List.lookup_append, lookup_keywordOf, lookup_flagOf, String.reduceEq,
    reduceIte, Option.or_none, Option.none_or, true_and, false_and] at hSource
  obtain ⟨hMin, hMax, hUnique⟩ := hSource
  rw [arrayRules, count_of_lookup hMin hRules.minItems, count_of_lookup hMax hRules.maxItems,
    flag_of_lookup hUnique]
  rfl

theorem names?_strings {names : List String} (hNonempty : names ≠ []) :
    names? (.array (names.map .string)) = some names := by
  have hFilter : (Json.array (names.map .string)).items?.filter (fun items => !items.isEmpty) =
      some (names.map .string) := by
    rw [Json.items?, Option.filter_some, if_pos]
    simpa using hNonempty
  rw [names?, hFilter]
  exact (Results.mapM_eq_some_iff fun _ _ => Json.string?_eq_some_iff).mpr rfl

theorem names?_eq_some_iff {value : Json} {names : List String} :
    names? value = some names ↔ value = .array (names.map .string) ∧ names ≠ [] := by
  constructor
  · intro h
    obtain ⟨items, hItems, hNames⟩ := Option.bind_eq_some_iff.mp h
    rw [Option.filter_eq_some_iff] at hItems
    obtain ⟨hItems, hNonempty⟩ := hItems
    have hStrings : items = names.map .string :=
      (Results.mapM_eq_some_iff fun _ _ => Json.string?_eq_some_iff).mp hNames
    subst hStrings
    cases value with
    | array list =>
      cases hItems
      exact ⟨rfl, by simpa using hNonempty⟩
    | _ => cases hItems
  · rintro ⟨rfl, hNonempty⟩
    exact names?_strings hNonempty

theorem objectRules_of_lookup {settings : Settings} {declared : List String} {rules : ObjectRules}
    (hRules : rules.WellFormed settings declared)
    (hSource : ∀ key ∈ ["minProperties", "maxProperties", "required"],
      source.lookup key = rules.keywords.lookup key) : objectRules source = .ok rules := by
  simp only [List.mem_cons, List.not_mem_nil, or_false, forall_eq_or_imp, forall_eq,
    ObjectRules.keywords_eq, List.lookup_append, lookup_keywordOf, String.reduceEq,
    reduceIte, Option.or_none, Option.none_or] at hSource
  obtain ⟨hMin, hMax, hRequired⟩ := hSource
  have hRequired : keyword? source "required" .required names? =
      .ok (if rules.required = [] then none else some rules.required) := by
    rw [keyword?_eq_ok_iff, hRequired]
    split
    · rfl
    · rename_i hNonempty
      exact congrArg some (names?_strings hNonempty)
  rw [objectRules, positiveCount_of_lookup hMin hRules.minProperties,
    positiveCount_of_lookup hMax hRules.maxProperties, hRequired]
  obtain ⟨minProperties, maxProperties, required⟩ := rules
  cases required <;> rfl

end

end Schema

end ParamSchema
