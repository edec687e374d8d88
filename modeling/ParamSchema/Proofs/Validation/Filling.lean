import ParamSchema.Event
import ParamSchema.Proofs.Members
import ParamSchema.Proofs.Results
import ParamSchema.Proofs.Schema.Nesting

/-!
# What is filled in

The value that a check gives back, as a relation to the value that it was given. The
relation goes down the schema and knows no constraint: declared members come first,
with the defaults of those that are absent, and nothing changes below a combinator.
-/

set_option autoImplicit false

namespace ParamSchema

open Results Validation

namespace Schema

def properties : Schema → List (String × Schema)
  | .record _ _ properties _ => properties
  | _ => []

mutual

/-- The second value is the first with its members in order and defaults filled in. -/
def Fills : Schema → Json → Json → Prop
  | .array _ _ items, .array list, filled =>
    ∃ filledList, filled = .array filledList ∧ List.Forall₂ (Fills items) list filledList
  | .record _ _ properties extra, .object members, filled =>
    ∃ declared others, filled = .object (declared ++ others) ∧
      FillsDeclared properties members declared ∧
      FillsExtra extra (undeclared properties members) others
  | _, value, filled => filled = value

def FillsDeclared : List (String × Schema) → List (String × Json) → List (String × Json) → Prop
  | [], _, declared => declared = []
  | (name, property) :: rest, members, declared =>
    match members.lookup name, property.default? with
    | some value, _ => ∃ filled others, declared = (name, filled) :: others ∧
        Fills property value filled ∧ FillsDeclared rest members others
    | none, some default => ∃ others, declared = (name, default) :: others ∧
        FillsDeclared rest members others
    | none, none => FillsDeclared rest members declared

def FillsExtra : Extra Schema → List (String × Json) → List (String × Json) → Prop
  | .matching schema, others, filled =>
    List.Forall₂ (fun member result => member.1 = result.1 ∧ Fills schema member.2 result.2)
      others filled
  | _, others, filled => filled = others

end

/-- Induction over the places where something can be filled in; everywhere else a value stays as
it is. -/
@[elab_as_elim]
theorem Fills.induction
    {motive : ∀ (schema : Schema) (value filled : Json), schema.Fills value filled → Prop}
    (verbatim : ∀ schema value (h : Fills schema value value), motive schema value value h)
    (array : ∀ common rules items list filledList (hList : List.Forall₂ items.Fills list filledList),
      (∀ value filled (h : items.Fills value filled), motive items value filled h) →
      motive (.array common rules items) (.array list) (.array filledList) ⟨filledList, rfl, hList⟩)
    (record : ∀ common rules properties extra members declared others
      (hDeclared : FillsDeclared properties members declared)
      (hOthers : FillsExtra extra (undeclared properties members) others),
      (∀ property ∈ properties, ∀ value filled (h : property.2.Fills value filled),
        motive property.2 value filled h) →
      (∀ schema, extra = .matching schema → ∀ value filled (h : schema.Fills value filled),
        motive schema value filled h) →
      motive (.record common rules properties extra) (.object members) (.object (declared ++ others))
        ⟨declared, others, rfl, hDeclared, hOthers⟩)
    {schema : Schema} {value filled : Json} (h : schema.Fills value filled) :
    motive schema value filled h := by
  have hVerbatim {schema : Schema} {value filled : Json} (h : schema.Fills value filled)
      (hFilled : filled = value) : motive schema value filled h := by
    subst hFilled
    exact verbatim schema _ h
  induction schema generalizing value filled with
  | array common rules items ih =>
    cases value with
    | array list =>
      obtain ⟨filledList, rfl, hList⟩ := h
      exact array common rules items list filledList hList fun _ _ => ih
    | _ => exact hVerbatim h h
  | record common rules properties extra ihProperties ihExtra =>
    cases value with
    | object members =>
      obtain ⟨declared, others, rfl, hDeclared, hOthers⟩ := h
      exact record common rules properties extra members declared others hDeclared hOthers
        (fun property hProperty _ _ => ihProperties property hProperty)
        fun schema hSchema _ _ => ihExtra schema hSchema
    | _ => exact hVerbatim h h
  | combined combinator members => exact hVerbatim h h
  | string common rules => exact hVerbatim h h
  | numeric common type rules => exact hVerbatim h h
  | boolean common => exact hVerbatim h h
  | object common rules => exact hVerbatim h h

end Schema

namespace Validation

theorem checkItems_eq_ok_iff {check : Json → Except Flaw Json} {index : Nat}
    {items results : List Json} :
    checkItems check index items = .ok results ↔
      List.Forall₂ (fun item result => check item = .ok result) items results := by
  induction items generalizing index results with
  | nil =>
    rw [List.forall₂_nil_left_iff]
    simp [checkItems, eq_comm]
  | cons item rest ih =>
    simp only [checkItems, inside, bind_eq_ok, pure_eq_ok, mapError_eq_ok, ih,
      List.forall₂_cons_left_iff]
    constructor
    · rintro ⟨first, hFirst, others, hOthers, rfl⟩
      exact ⟨first, others, hFirst, hOthers, rfl⟩
    · rintro ⟨first, others, hFirst, hOthers, rfl⟩
      exact ⟨first, hFirst, others, hOthers, rfl⟩

theorem checkMembers_eq_ok_iff {check : Json → Except Flaw Json}
    {members results : List (String × Json)} :
    checkMembers check members = .ok results ↔
      List.Forall₂ (fun member result => member.1 = result.1 ∧ check member.2 = .ok result.2)
        members results := by
  induction members generalizing results with
  | nil =>
    rw [List.forall₂_nil_left_iff]
    simp [checkMembers, eq_comm]
  | cons member rest ih =>
    obtain ⟨key, value⟩ := member
    simp only [checkMembers, inside, bind_eq_ok, pure_eq_ok, mapError_eq_ok, ih,
      List.forall₂_cons_left_iff]
    constructor
    · rintro ⟨first, hFirst, others, hOthers, rfl⟩
      exact ⟨(key, first), others, ⟨rfl, hFirst⟩, hOthers, rfl⟩
    · rintro ⟨⟨name, first⟩, others, ⟨rfl, hFirst⟩, hOthers, rfl⟩
      exact ⟨first, hFirst, others, hOthers, rfl⟩

theorem guarded_eq_ok {guard : Except Flaw Unit} {common : Common} {value filled : Json}
    {rest : Except Flaw Json} (h : (do guard; unlessNull common value rest) = .ok filled) :
    value = .null ∧ filled = .null ∨ rest = .ok filled := by
  obtain ⟨_, -, h⟩ := bind_eq_ok.mp h
  unfold unlessNull at h
  split at h
  · rename_i hNull
    cases h
    cases value with
    | null => exact .inl ⟨rfl, rfl⟩
    | _ => simp [Json.isNull] at hNull
  · obtain ⟨_, -, hRest⟩ := bind_eq_ok.mp h
    exact .inr hRest

section

variable {limit : Option Nat} {depth : Nat}

theorem fillsDeclared_of_checkProperties {properties : List (String × Schema)}
    {members declared : List (String × Json)}
    (hProperties : ∀ property ∈ properties, ∀ value filled,
      check limit depth property.2 value = .ok filled → property.2.Fills value filled)
    (h : checkProperties limit depth properties members = .ok declared) :
    Schema.FillsDeclared properties members declared := by
  induction properties generalizing declared with
  | nil =>
    cases h
    rfl
  | cons property rest ih =>
    obtain ⟨name, schema⟩ := property
    rw [List.forall_mem_cons] at hProperties
    have hRest {others : List (String × Json)} := @ih others hProperties.2
    rw [checkProperties] at h
    rw [Schema.FillsDeclared]
    cases hValue : members.lookup name with
    | some value =>
      simp only [hValue, bind_eq_ok, pure_eq_ok] at h
      obtain ⟨_, hFirst, others, hOthers, rfl⟩ := h
      obtain ⟨filled, hFilled, rfl⟩ := map_eq_ok.mp hFirst
      rw [inside, mapError_eq_ok] at hFilled
      exact ⟨filled, others, rfl, hProperties.1 value filled hFilled, hRest hOthers⟩
    | none =>
      simp only [hValue, bind_eq_ok, pure_eq_ok] at h
      obtain ⟨_, hFirst, others, hOthers, rfl⟩ := h
      cases hFirst
      cases schema.default? with
      | none => exact hRest hOthers
      | some default => exact ⟨others, rfl, hRest hOthers⟩

theorem fillsExtra_of_checkExtra {extra : Extra Schema} {others filled : List (String × Json)}
    (hExtra : ∀ schema, extra = .matching schema → ∀ value result,
      check limit depth schema value = .ok result → schema.Fills value result)
    (h : checkExtra limit depth extra others = .ok filled) : Schema.FillsExtra extra others filled := by
  cases extra with
  | allowed =>
    cases h
    rfl
  | refused =>
    cases h
    rfl
  | matching schema =>
    rw [checkExtra, checkMembers_eq_ok_iff] at h
    rw [Schema.FillsExtra]
    exact h.imp fun member result hResult =>
      ⟨hResult.1, hExtra schema rfl member.2 result.2 hResult.2⟩

/-- What a check gives back is what it was given, filled in, whatever the limit. -/
theorem fills_of_check (schema : Schema) {value filled : Json}
    (h : check limit depth schema value = .ok filled) : schema.Fills value filled := by
  induction schema generalizing depth value filled with
  | combined combinator members ih =>
    rw [check] at h
    obtain ⟨_, -, h⟩ := bind_eq_ok.mp h
    split at h
    · cases h
      rfl
    · cases h
  | string common rules =>
    rw [check.eq_def] at h
    rcases guarded_eq_ok h with ⟨rfl, rfl⟩ | h
    · rfl
    · cases value with
      | string text =>
        obtain ⟨_, -, hFilled⟩ := bind_eq_ok.mp h
        cases hFilled
        rfl
      | _ => cases h
  | numeric common type rules =>
    rw [check] at h
    rcases guarded_eq_ok h with ⟨rfl, rfl⟩ | h
    · rfl
    · split at h
      · obtain ⟨_, -, hFilled⟩ := bind_eq_ok.mp h
        cases hFilled
        rfl
      · cases h
  | boolean common =>
    rw [check.eq_def] at h
    rcases guarded_eq_ok h with ⟨rfl, rfl⟩ | h
    · rfl
    · cases value with
      | bool flag =>
        cases h
        rfl
      | _ => cases h
  | array common rules items ih =>
    rw [check.eq_def] at h
    rcases guarded_eq_ok h with ⟨rfl, rfl⟩ | h
    · rfl
    · cases value with
      | array list =>
        simp only [bind_eq_ok, pure_eq_ok] at h
        obtain ⟨_, -, filledList, hList, rfl⟩ := h
        rw [checkItems_eq_ok_iff] at hList
        exact ⟨filledList, rfl, hList.imp fun _ _ hItem => ih hItem⟩
      | _ => cases h
  | object common rules =>
    rw [check.eq_def] at h
    rcases guarded_eq_ok h with ⟨rfl, rfl⟩ | h
    · rfl
    · cases value with
      | object members =>
        obtain ⟨_, -, hFilled⟩ := bind_eq_ok.mp h
        cases hFilled
        rfl
      | _ => cases h
  | record common rules properties extra ihProperties ihExtra =>
    rw [check.eq_def] at h
    rcases guarded_eq_ok h with ⟨rfl, rfl⟩ | h
    · rfl
    · cases value with
      | object members =>
        simp only [bind_eq_ok, pure_eq_ok] at h
        obtain ⟨_, -, _, -, declared, hDeclared, others, hOthers, rfl⟩ := h
        refine ⟨declared, others, rfl, ?_, ?_⟩
        · apply fillsDeclared_of_checkProperties _ hDeclared
          exact fun property hProperty _ _ hFilled => ihProperties property hProperty hFilled
        · apply fillsExtra_of_checkExtra _ hOthers
          exact fun schema hSchema _ _ hFilled => ihExtra schema hSchema hFilled
      | _ => cases h

end

end Validation

namespace Schema

section

variable {properties : List (String × Schema)} {extra : Extra Schema}
  {members declared others filled : List (String × Json)}

def kept (properties : List (String × Schema)) (members : List (String × Json)) :
    List (String × Schema) :=
  properties.filter fun property =>
    Members.contains members property.1 || property.2.default?.isSome

def ComesFrom (members : List (String × Json)) (property : String × Schema)
    (member : String × Json) : Prop :=
  property.1 = member.1 ∧
    ((∃ value, members.lookup property.1 = some value ∧ property.2.Fills value member.2) ∨
      members.lookup property.1 = none ∧ property.2.default? = some member.2)

theorem fillsDeclared_iff : FillsDeclared properties members declared ↔
    List.Forall₂ (ComesFrom members) (kept properties members) declared := by
  induction properties generalizing declared with
  | nil =>
    rw [kept, List.filter_nil, List.forall₂_nil_left_iff]
    rfl
  | cons property rest ih =>
    obtain ⟨name, schema⟩ := property
    unfold kept at ih ⊢
    rw [FillsDeclared, List.filter_cons, Members.contains]
    cases hValue : members.lookup name with
    | some value =>
      simp only [Option.isSome_some, Bool.true_or, if_true, List.forall₂_cons_left_iff, ← ih]
      constructor
      · rintro ⟨filled, others, rfl, hFilled, hOthers⟩
        exact ⟨(name, filled), others, ⟨rfl, .inl ⟨value, hValue, hFilled⟩⟩, hOthers, rfl⟩
      · rintro ⟨⟨key, filled⟩, others, ⟨rfl, hCases⟩, hOthers, rfl⟩
        simp only [hValue, Option.some.injEq, exists_eq_left', reduceCtorEq, false_and,
          or_false] at hCases
        exact ⟨filled, others, rfl, hCases, hOthers⟩
    | none =>
      cases hDefault : schema.default? with
      | some default =>
        simp only [Option.isSome_some, Bool.or_true, if_true, List.forall₂_cons_left_iff, ← ih]
        constructor
        · rintro ⟨others, rfl, hOthers⟩
          exact ⟨(name, default), others, ⟨rfl, .inr ⟨hValue, hDefault⟩⟩, hOthers, rfl⟩
        · rintro ⟨⟨key, filled⟩, others, ⟨rfl, hCases⟩, hOthers, rfl⟩
          simp only [hValue, hDefault, reduceCtorEq, false_and, exists_false, Option.some.injEq,
            true_and, false_or] at hCases
          exact ⟨others, by rw [hCases], hOthers⟩
      | none => simp [← ih]

theorem mem_of_mem_kept {property : String × Schema} (h : property ∈ kept properties members) :
    property ∈ properties :=
  List.mem_of_mem_filter h

theorem keys_of_fillsDeclared (h : FillsDeclared properties members declared) :
    Members.keys declared = Members.keys (kept properties members) := by
  rw [fillsDeclared_iff] at h
  exact (Members.keys_eq_of_forall₂ (fun _ _ hComes => hComes.1) h).symm

theorem fillsDeclared_unique {declared' : List (String × Json)}
    (hProperties : ∀ property ∈ properties, Relator.RightUnique property.2.Fills)
    (h : FillsDeclared properties members declared)
    (h' : FillsDeclared properties members declared') : declared = declared' := by
  rw [fillsDeclared_iff] at h h'
  have hKept : ∀ property ∈ kept properties members, property ∈ properties :=
    fun property => mem_of_mem_kept
  refine List.right_unique_forall₂' ?_ ((List.forall₂_and_left _ _).mpr ⟨hKept, h⟩)
    ((List.forall₂_and_left _ _).mpr ⟨hKept, h'⟩)
  rintro property ⟨key, value⟩ ⟨key', value'⟩ ⟨hProperty, hKey, h⟩ ⟨-, hKey', h'⟩
  rw [Prod.mk.injEq]
  refine ⟨hKey.symm.trans hKey', ?_⟩
  rcases h with ⟨given, hGiven, hFilled⟩ | ⟨hAbsent, hDefault⟩
  · rcases h' with ⟨given', hGiven', hFilled'⟩ | ⟨hAbsent', -⟩
    · cases hGiven.symm.trans hGiven'
      exact hProperties property hProperty hFilled hFilled'
    · cases hGiven.symm.trans hAbsent'
  · rcases h' with ⟨given', hGiven', -⟩ | ⟨-, hDefault'⟩
    · cases hAbsent.symm.trans hGiven'
    · exact Option.some.inj (hDefault.symm.trans hDefault')

def FillsOther : Extra Schema → Json → Json → Prop
  | .matching schema => schema.Fills
  | .allowed | .refused => fun value filled => filled = value

theorem fillsExtra_iff : FillsExtra extra others filled ↔ List.Forall₂
    (fun member result => member.1 = result.1 ∧ FillsOther extra member.2 result.2)
    others filled := by
  have hSame : (fun member result : String × Json => member.1 = result.1 ∧ result.2 = member.2) =
      Eq := by
    funext member result
    rw [Prod.ext_iff, eq_comm (a := result.2)]
  cases extra with
  | matching schema => rfl
  | allowed =>
    rw [FillsExtra, eq_comm, ← List.forall₂_eq_eq_eq, ← hSame]
    · rfl
    · exact nofun
  | refused =>
    rw [FillsExtra, eq_comm, ← List.forall₂_eq_eq_eq, ← hSame]
    · rfl
    · exact nofun

theorem keys_of_fillsExtra (h : FillsExtra extra others filled) :
    Members.keys filled = Members.keys others :=
  (Members.keys_eq_of_forall₂ (fun _ _ hMember => hMember.1) (fillsExtra_iff.mp h)).symm

theorem fillsExtra_unique {filled' : List (String × Json)}
    (hExtra : ∀ schema, extra = .matching schema → Relator.RightUnique schema.Fills)
    (h : FillsExtra extra others filled) (h' : FillsExtra extra others filled') :
    filled = filled' := by
  have hOther : Relator.RightUnique (FillsOther extra) := by
    cases extra with
    | matching schema => exact hExtra schema rfl
    | _ => exact fun _ _ _ h h' => Eq.trans h h'.symm
  refine List.right_unique_forall₂' ?_ (fillsExtra_iff.mp h) (fillsExtra_iff.mp h')
  rintro member ⟨key, result⟩ ⟨key', result'⟩ ⟨hKey, hResult⟩ ⟨hKey', hResult'⟩
  rw [Prod.mk.injEq]
  exact ⟨hKey.symm.trans hKey', hOther hResult hResult'⟩

theorem fills_unique (schema : Schema) : Relator.RightUnique schema.Fills := by
  induction schema with
  | array common rules items ih =>
    intro value filled filled' h h'
    cases value with
    | array list =>
      obtain ⟨filledList, rfl, hList⟩ := h
      obtain ⟨filledList', rfl, hList'⟩ := h'
      rw [List.right_unique_forall₂' ih hList hList']
    | _ => exact Eq.trans h h'.symm
  | record common rules properties extra ihProperties ihExtra =>
    intro value filled filled' h h'
    cases value with
    | object members =>
      obtain ⟨declared, others, rfl, hDeclared, hOthers⟩ := h
      obtain ⟨declared', others', rfl, hDeclared', hOthers'⟩ := h'
      rw [fillsDeclared_unique ihProperties hDeclared hDeclared',
        fillsExtra_unique ihExtra hOthers hOthers']
    | _ => exact Eq.trans h h'.symm
  | combined combinator members => exact fun _ _ _ h h' => Eq.trans h h'.symm
  | string common rules => exact fun _ _ _ h h' => Eq.trans h h'.symm
  | numeric common type rules => exact fun _ _ _ h h' => Eq.trans h h'.symm
  | boolean common => exact fun _ _ _ h h' => Eq.trans h h'.symm
  | object common rules => exact fun _ _ _ h h' => Eq.trans h h'.symm

end

section

variable {properties : List (String × Schema)} {extra : Extra Schema}
  {members declared others : List (String × Json)}

theorem mem_keys_undeclared {key : String} : key ∈ Members.keys (undeclared properties members) ↔
    key ∈ Members.keys members ∧ key ∉ Members.keys properties := by
  simp only [Members.keys, undeclared, List.mem_map, List.mem_filter, Bool.not_eq_true',
    ← Bool.not_eq_true, Members.contains_eq_true_iff]
  constructor
  · rintro ⟨member, ⟨hMember, hKey⟩, rfl⟩
    exact ⟨⟨member, hMember, rfl⟩, by simpa [Members.keys] using hKey⟩
  · rintro ⟨⟨member, hMember, rfl⟩, hKey⟩
    exact ⟨member, ⟨hMember, by simpa [Members.keys] using hKey⟩, rfl⟩

theorem mem_keys_kept {key : String} : key ∈ Members.keys (kept properties members) ↔
    ∃ property, (key, property) ∈ properties ∧
      (key ∈ Members.keys members ∨ property.default?.isSome = true) := by
  simp [kept, Members.keys, Members.contains_eq_true_iff]

variable (hDeclared : FillsDeclared properties members declared)
  (hOthers : FillsExtra extra (undeclared properties members) others)

include hDeclared hOthers

theorem keys_of_fills : Members.keys (declared ++ others) =
    Members.keys (kept properties members) ++ Members.keys (undeclared properties members) := by
  rw [← keys_of_fillsDeclared hDeclared, ← keys_of_fillsExtra hOthers, Members.keys,
    List.map_append]
  rfl

theorem mem_keys_of_fills_iff {key : String} : key ∈ Members.keys (declared ++ others) ↔
    key ∈ Members.keys members ∨
      ∃ property, (key, property) ∈ properties ∧ property.default?.isSome = true := by
  rw [keys_of_fills hDeclared hOthers, List.mem_append, mem_keys_kept, mem_keys_undeclared]
  constructor
  · rintro (⟨property, hProperty, hKey | hDefault⟩ | ⟨hKey, -⟩)
    · exact .inl hKey
    · exact .inr ⟨property, hProperty, hDefault⟩
    · exact .inl hKey
  · rintro (hKey | ⟨property, hProperty, hDefault⟩)
    · by_cases hName : key ∈ Members.keys properties
      · obtain ⟨⟨name, property⟩, hProperty, rfl⟩ := List.mem_map.mp hName
        exact .inl ⟨property, hProperty, .inl hKey⟩
      · exact .inr ⟨hKey, hName⟩
    · exact .inl ⟨property, hProperty, .inr hDefault⟩

theorem nodup_keys_of_fills (hNames : (Members.keys properties).Nodup)
    (hKeys : (Members.keys members).Nodup) : (Members.keys (declared ++ others)).Nodup := by
  rw [keys_of_fills hDeclared hOthers, List.nodup_append]
  refine ⟨hNames.sublist (List.filter_sublist.map _), hKeys.sublist (List.filter_sublist.map _), ?_⟩
  rintro key hDeclared key' hOther rfl
  obtain ⟨property, hProperty, -⟩ := mem_keys_kept.mp hDeclared
  exact (mem_keys_undeclared.mp hOther).2 (List.mem_map_of_mem hProperty)

end

theorem undeclared_nil (members : List (String × Json)) : undeclared [] members = members :=
  List.filter_eq_self.mpr fun _ _ => rfl

/-- The keys of a filled object: first, in the order of declaration, the declared properties that
were there or have a default, then what is not declared, in its order. None is repeated. -/
structure KeysFilled (schema : Schema) (members filled : List (String × Json)) : Prop where
  keys : Members.keys filled = Members.keys (kept schema.properties members) ++
    Members.keys (undeclared schema.properties members)
  nodup : (Members.keys schema.properties).Nodup → (Members.keys members).Nodup →
    (Members.keys filled).Nodup

theorem exists_members_of_fills {schema : Schema} {members : List (String × Json)} {filled : Json}
    (h : schema.Fills (.object members) filled) :
    ∃ filledMembers, filled = .object filledMembers ∧ schema.KeysFilled members filledMembers := by
  have hSame (hFilled : filled = .object members) (hNone : schema.properties = []) :
      ∃ filledMembers, filled = .object filledMembers ∧ schema.KeysFilled members filledMembers := by
    refine ⟨members, hFilled, ?_, fun _ hKeys => hKeys⟩
    rw [hNone, undeclared_nil]
    rfl
  cases schema with
  | record common rules properties extra =>
    obtain ⟨declared, others, rfl, hDeclared, hOthers⟩ := h
    exact ⟨declared ++ others, rfl, keys_of_fills hDeclared hOthers,
      nodup_keys_of_fills hDeclared hOthers⟩
  | _ => exact hSame h rfl

theorem result_checkAt (place : Path) (limit : Option Nat) (schema : Schema) (required : Bool)
    (value : Option Json) :
    (checkAt place limit schema required value).result =
      (schema.validate limit required value).mapError (Flaw.seenFrom place) := by
  unfold checkAt
  cases schema.validate limit required value <;> rfl

theorem checkAt_eq_ok_iff {limit : Option Nat} {schema : Schema} {place : Path} {required : Bool}
    {value filled : Json} :
    (checkAt place limit schema required (some value)).result = .ok (some filled) ↔
      check limit 1 schema value = .ok filled := by
  rw [result_checkAt, mapError_eq_ok, validate, map_eq_ok]
  simp

/-- A value that is accepted is given back filled in: what was there is there still, and nothing
but defaults is added. -/
theorem checkAt_gives_filled {limit : Option Nat} {schema : Schema} {place : Path} {required : Bool}
    {value filled : Json}
    (h : (checkAt place limit schema required (some value)).result = .ok (some filled)) :
    schema.Fills value filled ∧
      ∀ members, value = .object members → ∃ filledMembers, filled = .object filledMembers ∧
        schema.KeysFilled members filledMembers := by
  have hFills : schema.Fills value filled := fills_of_check schema (checkAt_eq_ok_iff.mp h)
  refine ⟨hFills, ?_⟩
  rintro members rfl
  exact exists_members_of_fills hFills

/-- Defaults inside a list and at the top, a null that stays, and a key that comes last. -/
theorem checkAt_fills_nested_record :
    let kind : Schema := .string { default := some (.string "a") } {}
    let schema : Schema := .record {} {} [("on", .boolean { default := some (.bool true) }),
      ("list", .array {} {} (.record {} {} [("kind", kind)] .allowed))] .allowed
    let value : Json := .object [("note", .null), ("list", .array
      [.object [("extra", .null), ("kind", .string "b")], .object []])]
    let filled : Json := .object [("on", .bool true), ("list", .array
      [.object [("kind", .string "b"), ("extra", .null)], .object [("kind", .string "a")]]),
      ("note", .null)]
    (checkAt ⟨"p", []⟩ (some 4) schema true (some value)).result = .ok (some filled) ∧
      schema.Fills value filled := by
  intro kind schema value filled
  have h : (checkAt ⟨"p", []⟩ (some 4) schema true (some value)).result = .ok (some filled) := rfl
  exact ⟨h, (checkAt_gives_filled h).1⟩

end Schema

end ParamSchema
