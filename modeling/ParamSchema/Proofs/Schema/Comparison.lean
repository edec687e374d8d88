import ParamSchema.Proofs.Schema.Relevance

/-!
# Comparing two readings

A way to compare two readings that is kept when they are continued or made part of a
larger one. Whatever is compared in such a way, it is enough to compare how ignored
combinators are treated, how required names are checked, and how nested sources are read.
-/

set_option autoImplicit false

namespace ParamSchema.Schema

theorem readLevels_of_not_object {settings : Settings} {levels : Nat} {raw : Json}
    (h : raw.members? = none) :
    readLevels settings (levels + 1) raw = Reading.reject .notObject := by
  cases raw <;> first | rfl | cases h

theorem readLevels_congr_of_not_object {settings : Settings} {levels : Nat} {raw raw' : Json}
    (h : raw.members? = none) (h' : raw'.members? = none) :
    readLevels settings levels raw = readLevels settings levels raw' := by
  cases levels with
  | zero => rfl
  | succ levels => rw [readLevels_of_not_object h, readLevels_of_not_object h']

structure Comparison where
  Rel : {α : Type} → Reading α → Reading α → Prop
  lift : ∀ {α : Type} (result : Except Flaw α), Rel (liftM result) (liftM result)
  bind : ∀ {α β : Type} {first first' : Reading α} {next next' : α → Reading β}, Rel first first' →
    (∀ a, first.result = .ok a → Rel (next a) (next' a)) → Rel (first >>= next) (first' >>= next')
  inside : ∀ {α : Type} {reading reading' : Reading α} (step : Step), Rel reading reading' →
    Rel (Reading.inside step reading) (Reading.inside step reading')

namespace Comparison

variable {α : Type} (comparison : Comparison)

theorem pure (a : α) : comparison.Rel (Pure.pure a) (Pure.pure a) := comparison.lift (.ok a)

theorem reject (fault : SchemaFault) (params : List (String × String)) :
    comparison.Rel (Reading.reject fault params : Reading α) (Reading.reject fault params) :=
  comparison.lift (.error ⟨[], .schema fault, params⟩)

theorem items {read read' : Json → Reading α} {index : Nat} {items items' : List Json}
    (h : List.Forall₂ (fun item item' => comparison.Rel (read item) (read' item')) items items') :
    comparison.Rel (Reading.items read index items) (Reading.items read' index items') := by
  induction h generalizing index with
  | nil => exact comparison.pure []
  | cons hFirst _ ih =>
    refine comparison.bind (comparison.inside _ hFirst) fun first _ => ?_
    exact comparison.bind ih fun rest _ => comparison.pure _

theorem members {read read' : Json → Reading α} {members members' : Source}
    (h : List.Forall₂ (fun member member' =>
      member.1 = member'.1 ∧ comparison.Rel (read member.2) (read' member'.2)) members members') :
    comparison.Rel (Reading.members read members) (Reading.members read' members') := by
  induction h with
  | nil => exact comparison.pure []
  | @cons member member' _ _ hFirst _ ih =>
    obtain ⟨key, value⟩ := member
    obtain ⟨key', value'⟩ := member'
    obtain ⟨rfl, hFirst⟩ := hFirst
    refine comparison.bind (comparison.inside _ hFirst) fun first _ => ?_
    exact comparison.bind ih fun rest _ => comparison.pure _

section

variable {settings settings' : Settings} {read read' : Json → Reading Schema}
  {nested : Source → Source → Prop} {source source' : Source}
  (hRefl : ∀ source, nested source source)
  (hRead : ∀ {raw raw'}, AgreeSchemas nested raw raw' → comparison.Rel (read raw) (read' raw'))

include hRefl hRead

theorem read_self (raw : Json) : comparison.Rel (read raw) (read' raw) :=
  hRead (.refl hRefl raw)

theorem readItems (h : AgreeAt nested source source' "items") :
    comparison.Rel (Schema.readItems read source) (Schema.readItems read' source') := by
  unfold Schema.readItems
  apply comparison.inside
  rcases h.cases with ⟨hNone, hNone'⟩ | ⟨value, value', hValue, hValue', hAgree⟩
  · rw [hNone, hNone']
    exact comparison.reject _ _
  · rw [hValue, hValue']
    cases hAgree with
    | same =>
      cases value with
      | object members => exact comparison.read_self hRefl hRead _
      | _ => exact comparison.reject _ _
    | schema _ hNested => exact hRead (.object hNested)
    | properties hKey => exact absurd hKey (by decide)
    | members => exact comparison.reject _ _

theorem readProperties (h : AgreeAt nested source source' "properties") :
    comparison.Rel (Schema.readProperties read source) (Schema.readProperties read' source') := by
  unfold Schema.readProperties
  rcases h.cases with ⟨hNone, hNone'⟩ | ⟨value, value', hValue, hValue', hAgree⟩
  · rw [hNone, hNone']
    exact comparison.pure _
  · rw [hValue, hValue']
    apply comparison.inside
    cases hAgree with
    | same =>
      cases value with
      | object members =>
        refine comparison.bind (comparison.members ?_) fun properties _ => comparison.pure _
        exact List.forall₂_same.mpr fun member _ => ⟨rfl, comparison.read_self hRefl hRead _⟩
      | _ => exact comparison.reject _ _
    | schema hKey => exact absurd hKey (by decide)
    | properties _ hMembers =>
      refine comparison.bind (comparison.members ?_) fun properties _ => comparison.pure _
      exact hMembers.imp fun _ _ hMember => ⟨hMember.1, hRead hMember.2⟩
    | members => exact comparison.reject _ _

theorem readExtra (h : AgreeAt nested source source' "additionalProperties")
    (hProperties : AgreeAt nested source source' "properties") :
    comparison.Rel (Schema.readExtra read source) (Schema.readExtra read' source') := by
  unfold Schema.readExtra
  rw [hProperties.contains_eq]
  rcases h.cases with ⟨hNone, hNone'⟩ | ⟨value, value', hValue, hValue', hAgree⟩
  · rw [hNone, hNone']
    exact comparison.pure _
  · rw [hValue, hValue']
    apply comparison.inside
    split
    · exact comparison.reject _ _
    · cases hAgree with
      | same =>
        cases value with
        | bool allowed => exact comparison.pure _
        | object members =>
          exact comparison.bind (comparison.read_self hRefl hRead _) fun _ _ => comparison.pure _
        | _ => exact comparison.reject _ _
      | schema _ hNested =>
        exact comparison.bind (hRead (.object hNested)) fun _ _ => comparison.pure _
      | properties hKey => exact absurd hKey (by decide)
      | members => exact comparison.reject _ _

theorem readMembers {combinator : Combinator}
    (h : AgreeAt nested source source' combinator.keyword) :
    comparison.Rel (Schema.readMembers read source combinator)
      (Schema.readMembers read' source' combinator) := by
  unfold Schema.readMembers
  apply comparison.inside
  have hMembers {items items' : List Json}
      (hItems : List.Forall₂ (AgreeSchemas nested) items items') :
      comparison.Rel (do return Schema.combined combinator (← Reading.items read 0 items))
        (do return Schema.combined combinator (← Reading.items read' 0 items')) := by
    refine comparison.bind (comparison.items ?_) fun _ _ => comparison.pure _
    exact hItems.imp fun _ _ hItem => hRead hItem
  rcases h.cases with ⟨hNone, hNone'⟩ | ⟨value, value', hValue, hValue', hAgree⟩
  · rw [hNone, hNone']
    exact comparison.reject _ _
  · rw [hValue, hValue']
    cases hAgree with
    | same =>
      cases value with
      | array items =>
        cases items with
        | nil => exact comparison.reject _ _
        | cons first rest =>
          exact hMembers (List.forall₂_same.mpr fun item _ => .refl hRefl item)
      | _ => exact comparison.reject _ _
    | schema hKey => cases combinator <;> exact absurd hKey (by decide)
    | properties hKey => cases combinator <;> exact absurd hKey (by decide)
    | members _ hItems =>
      cases hItems with
      | nil => exact comparison.reject _ _
      | cons hFirst hRest => exact hMembers (.cons hFirst hRest)

variable (hRequired : ∀ rules declared, comparison.Rel
  (liftM (checkRequired settings rules declared)) (liftM (checkRequired settings' rules declared)))

include hRequired

theorem readKind {type : ValueType} (h : AgreeOwn nested type source source') :
    comparison.Rel (Schema.readKind settings read source type)
      (Schema.readKind settings' read' source' type) := by
  cases type with
  | string =>
    unfold Schema.readKind
    rw [h.stringRules_eq]
    exact comparison.bind (comparison.lift _) fun _ _ => comparison.pure _
  | numeric kind =>
    cases kind with
    | number =>
      unfold Schema.readKind
      rw [h.numberRules_eq]
      exact comparison.bind (comparison.lift _) fun _ _ => comparison.pure _
    | integer =>
      unfold Schema.readKind
      rw [h.numberRules_eq, h.integerFormat_eq]
      refine comparison.bind (comparison.lift _) fun _ _ => ?_
      exact comparison.bind (comparison.lift _) fun _ _ => comparison.pure _
  | boolean => exact comparison.pure _
  | array =>
    unfold Schema.readKind
    rw [h.arrayRules_eq]
    have hItems : AgreeAt nested source source' "items" := h _ (by decide) rfl
    refine comparison.bind (comparison.lift _) fun _ _ => ?_
    exact comparison.bind (comparison.readItems hRefl hRead hItems) fun _ _ => comparison.pure _
  | object =>
    unfold Schema.readKind
    rw [h.objectRules_eq]
    have hExtra : AgreeAt nested source source' "additionalProperties" := h _ (by decide) rfl
    have hProperties : AgreeAt nested source source' "properties" := h _ (by decide) rfl
    refine comparison.bind (comparison.lift _) fun rules _ => ?_
    refine comparison.bind (comparison.readExtra hRefl hRead hExtra hProperties) fun extra _ => ?_
    refine comparison.bind (comparison.readProperties hRefl hRead hProperties) fun declared _ => ?_
    cases declared with
    | none => exact comparison.bind (hRequired _ _) fun _ _ => comparison.pure _
    | some properties => exact comparison.bind (hRequired _ _) fun _ _ => comparison.pure _

theorem readLeaf (h : Agree nested source source') (hLeaf : combinators source = []) :
    comparison.Rel (Schema.readLeaf settings read source)
      (Schema.readLeaf settings' read' source') := by
  unfold Schema.readLeaf
  rw [← keyword?_congr (h.shared hLeaf (by decide : "type" ∈ sharedKeywords)),
    ← flag_congr (h.shared hLeaf (by decide : "nullable" ∈ sharedKeywords))]
  refine comparison.bind (comparison.lift _) fun found hFound => ?_
  cases found with
  | none => exact comparison.inside _ (comparison.reject _ _)
  | some type =>
    have hOwn : AgreeOwn nested type source source' := h.own hLeaf (declaredType?_of_keyword hFound)
    refine comparison.bind (comparison.lift _) fun nullable _ => ?_
    rw [← keyword?_congr (h.shared hLeaf (by decide : "enum" ∈ sharedKeywords))]
    refine comparison.bind (comparison.lift _) fun choices _ => ?_
    refine comparison.bind (comparison.readKind hRefl hRead hRequired hOwn) fun leaf _ => ?_
    have hDefault : defaultValue source type = defaultValue source' type :=
      keyword?_congr (h.shared hLeaf (by decide : "default" ∈ sharedKeywords))
    rw [hDefault]
    exact comparison.bind (comparison.lift _) fun _ _ => comparison.pure _

end

/-- One level of reading two agreeing sources, under two settings. -/
theorem readLevels_succ {settings settings' : Settings} {levels levels' : Nat}
    {nested : Source → Source → Prop} {source source' : Source}
    (hRefl : ∀ source, nested source source)
    (hRead : ∀ {raw raw'}, AgreeSchemas nested raw raw' →
      comparison.Rel (readLevels settings levels raw) (readLevels settings' levels' raw'))
    (hRequired : ∀ rules declared,
      comparison.Rel (liftM (checkRequired settings rules declared))
        (liftM (checkRequired settings' rules declared)))
    (hIgnored : ∀ {combinator ignored ignored'}, combinators source = combinator :: ignored →
      combinators source' = combinator :: ignored' →
      comparison.Rel (checkIgnored settings combinator ignored)
        (checkIgnored settings' combinator ignored'))
    (h : Agree nested source source') :
    comparison.Rel (readLevels settings (levels + 1) (.object source))
      (readLevels settings' (levels' + 1) (.object source')) := by
  unfold readLevels
  cases hCombinators : combinators source with
  | nil =>
    rw [h.combinators_nil hCombinators]
    exact comparison.readLeaf hRefl hRead hRequired h hCombinators
  | cons combinator ignored =>
    obtain ⟨ignored', hCombinators'⟩ := h.combinators_cons hCombinators
    rw [hCombinators']
    refine comparison.bind (hIgnored hCombinators hCombinators') fun _ _ => ?_
    exact comparison.readMembers hRefl hRead (h.honored_left hCombinators)

theorem readLevels_other {settings settings' : Settings} {levels levels' : Nat} {raw raw' : Json}
    (hFirst : raw.members? = none) (hSecond : raw'.members? = none) :
    comparison.Rel (readLevels settings (levels + 1) raw)
      (readLevels settings' (levels' + 1) raw') := by
  rw [readLevels_of_not_object hFirst, readLevels_of_not_object hSecond]
  exact comparison.reject _ _

theorem readLevels_self_succ {settings settings' : Settings} {levels levels' : Nat}
    (hRead : ∀ raw,
      comparison.Rel (readLevels settings levels raw) (readLevels settings' levels' raw))
    (hRequired : ∀ rules declared,
      comparison.Rel (liftM (checkRequired settings rules declared))
        (liftM (checkRequired settings' rules declared)))
    (hIgnored : ∀ combinator ignored, comparison.Rel (checkIgnored settings combinator ignored)
      (checkIgnored settings' combinator ignored)) (raw : Json) :
    comparison.Rel (readLevels settings (levels + 1) raw)
      (readLevels settings' (levels' + 1) raw) := by
  have hNested {raw raw' : Json} (h : AgreeSchemas Eq raw raw') :
      comparison.Rel (readLevels settings levels raw) (readLevels settings' levels' raw') := by
    cases h with
    | object hEq =>
      subst hEq
      exact hRead _
    | other hFirst hSecond =>
      rw [readLevels_congr_of_not_object hSecond hFirst]
      exact hRead raw
  cases hMembers : raw.members? with
  | none => exact comparison.readLevels_other hMembers hMembers
  | some source =>
    cases raw with
    | object =>
      cases hMembers
      refine comparison.readLevels_succ (fun _ => rfl) hNested hRequired ?_ (.refl source)
      intro combinator ignored ignored' hCombinators hCombinators'
      cases hCombinators.symm.trans hCombinators'
      exact hIgnored combinator ignored
    | _ => cases hMembers

end Comparison

end ParamSchema.Schema
