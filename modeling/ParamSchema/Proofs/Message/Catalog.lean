import Mathlib.Data.Set.List
import ParamSchema.Proofs.Message.Bindings
import ParamSchema.Proofs.Results

/-!
# Building catalogs

A catalog holds for a locale tag and a code what was written last for them, whatever else was
written. A reporter goes through the tags of its locale code by code.
-/

set_option autoImplicit false

namespace ParamSchema

open Results

namespace Code

theorem nodup_names : (all.map name).Nodup := by decide +kernel

theorem name_injective {code other : Code} (h : code.name = other.name) : code = other :=
  List.inj_on_of_nodup_map nodup_names code.mem_all other.mem_all h

theorem name_of_ofName? {name : String} {code : Code} (h : ofName? name = some code) :
    code.name = name := by
  unfold ofName? at h
  have hName := List.find?_some h
  exact beq_iff_eq.mp hName

theorem ofName?_eq_some_iff {name : String} {code : Code} :
    ofName? name = some code ↔ name = code.name := by
  constructor
  · intro h
    exact (name_of_ofName? h).symm
  · rintro rfl
    cases hFound : ofName? code.name with
    | none => exact absurd (List.find?_eq_none.mp hFound code code.mem_all) (by simp)
    | some found => rw [name_injective (name_of_ofName? hFound)]

end Code

namespace Locale

theorem parse_eq_ok_iff {tag : String} {locale : Locale} :
    parse tag = .ok locale ↔ locale.tag = tag := by
  unfold parse ofTag?
  by_cases hTag : isTag tag.toList = true
  · rw [dif_pos hTag]
    constructor
    · rintro ⟨⟩
      rfl
    · rintro rfl
      rfl
  · rw [dif_neg hTag]
    refine iff_of_false nofun ?_
    rintro rfl
    exact hTag locale.wellFormed

end Locale

namespace Catalog

/-! ## Writes -/

structure Write where
  tag : String
  code : Code
  text : String

/-- What an addition writes, in order: of a source the members as written that name a code. -/
def Addition.writes : Addition → List Write
  | .bundled => Code.all.map (fun code => ⟨"en", code, Message.english code⟩) ++
      Code.all.map (fun code => ⟨"ja", code, Message.japanese code⟩)
  | .json tag source =>
    match Json.ofTokens? (Json.tokens source) with
    | some (.object members) => members.filterMap fun (name, value) =>
        match Code.ofName? name, value with
        | some code, .string text => some ⟨tag, code, text⟩
        | _, _ => none
    | _ => []
  | .template tag code text => [⟨tag, code, text⟩]

def lastFor? (tag : String) (code : Code) (writes : List Write) : Option String :=
  (writes.filter fun write => decide (write.tag = tag ∧ write.code = code)).getLast?.map Write.text

theorem lastFor?_append (tag : String) (code : Code) (earlier later : List Write) :
    lastFor? tag code (earlier ++ later) =
      (lastFor? tag code later).or (lastFor? tag code earlier) := by
  rw [lastFor?, List.filter_append, List.getLast?_append, Option.map_or]
  rfl

theorem lastFor?_singleton (tag : String) (code : Code) (write : Write) :
    lastFor? tag code [write] =
      if write.tag = tag ∧ write.code = code then some write.text else none := by
  rw [lastFor?, List.filter_singleton]
  by_cases hFor : write.tag = tag ∧ write.code = code
  · rw [if_pos hFor, decide_eq_true hFor]
    rfl
  · rw [if_neg hFor, decide_eq_false hFor]
    rfl

/-- A table is written from its end, as the first template for a code is the one that counts. -/
theorem lastFor?_reverse (tag other : String) (code : Code) (table : Table) :
    lastFor? tag code (table.reverse.map fun (code, text) => ⟨other, code, text⟩) =
      if tag = other then table.lookup code else none := by
  induction table with
  | nil => rw [List.lookup_nil, ite_self]; rfl
  | cons entry table ih =>
    obtain ⟨first, text⟩ := entry
    rw [List.reverse_cons, List.map_append, lastFor?_append, ih, List.map_singleton,
      lastFor?_singleton, List.lookup_cons]
    by_cases hTag : tag = other
    · by_cases hCode : code = first
      · rw [if_pos hTag, if_pos hTag, if_pos ⟨hTag.symm, hCode.symm⟩, hCode, beq_self_eq_true]
        rfl
      · rw [if_pos hTag, if_pos hTag, if_neg fun h => hCode h.2.symm, beq_false_of_ne hCode,
          Option.none_or]
    · rw [if_neg hTag, if_neg hTag, if_neg fun h => hTag h.1.symm, Option.none_or]

theorem template?_write (catalog : Catalog) (tag other : String) (table : Table) (code : Code) :
    (catalog.write tag table).template? other code =
      (if other = tag then table.lookup code else none).or (catalog.template? other code) := by
  rw [template?, write, Members.lookup_insert]
  by_cases hTag : other = tag
  · rw [if_pos hTag, if_pos hTag, Option.bind_some, List.lookup_append, template?, hTag]
    cases catalog.tables.lookup tag <;> rfl
  · rw [if_neg hTag, if_neg hTag, Option.none_or, template?]

/-! ## Sources -/

theorem strings?_eq_some_iff {source : String} {entries : List (String × String)} :
    strings? source = some entries ↔ Json.ofTokens? (Json.tokens source) =
      some (.object (entries.map fun (name, text) => (name, .string text))) := by
  have hRead (member : String × Json) (entry : String × String) :
      member.2.string?.map (member.1, ·) = some entry ↔ member = (entry.1, .string entry.2) := by
    rw [Option.map_eq_some_iff]
    simp only [Json.string?_eq_some_iff]
    constructor
    · rintro ⟨text, hText, rfl⟩
      exact Prod.ext rfl hText
    · rintro rfl
      exact ⟨entry.2, rfl, rfl⟩
  rw [strings?, Option.bind_eq_some_iff]
  simp only [Option.bind_eq_some_iff, Json.members?_eq_some_iff, mapM_eq_some_iff hRead]
  constructor
  · rintro ⟨_, ⟨value, hValue, rfl⟩, rfl⟩
    exact hValue
  · intro hValue
    exact ⟨_, ⟨_, hValue, rfl⟩, rfl⟩

theorem tableOf_eq_ok_iff {tag : String} {entries : List (String × String)} {table : Table} :
    tableOf tag entries = .ok table ↔
      entries.reverse = table.map fun (code, text) => (code.name, text) := by
  refine mapM_eq_ok_iff fun entry (code, text) => ?_
  obtain ⟨name, text'⟩ := entry
  dsimp only
  cases hFound : Code.ofName? name with
  | none =>
    refine iff_of_false nofun fun hEntry => ?_
    cases hEntry
    rw [Code.ofName?_eq_some_iff.mpr rfl] at hFound
    cases hFound
  | some found =>
    rw [Code.ofName?_eq_some_iff] at hFound
    subst hFound
    constructor
    · rintro ⟨⟩
      rfl
    · intro hEntry
      obtain ⟨hName, rfl⟩ := Prod.mk.inj hEntry
      rw [Code.name_injective hName]

theorem writes_json {tag source : String} {entries : List (String × String)} {table : Table}
    (hEntries : strings? source = some entries) (hTable : tableOf tag entries = .ok table) :
    (Addition.json tag source).writes =
      table.reverse.map fun (code, text) => ⟨tag, code, text⟩ := by
  rw [strings?_eq_some_iff] at hEntries
  rw [tableOf_eq_ok_iff, List.reverse_eq_iff, ← List.map_reverse] at hTable
  rw [Addition.writes, hEntries]
  dsimp only
  rw [hTable, List.map_map, List.filterMap_map, ← List.filterMap_eq_map]
  refine List.filterMap_congr fun (code, text) _ => ?_
  simp only [Function.comp_apply, Code.ofName?_eq_some_iff.mpr rfl]

/-! ## Additions -/

theorem add_json_eq_ok_iff {catalog result : Catalog} {tag source : String} :
    catalog.add (.json tag source) = .ok result ↔ Locale.isTag tag.toList = true ∧
      ∃ entries table, strings? source = some entries ∧ tableOf tag entries = .ok table ∧
        result = catalog.write tag table := by
  rw [add, bind_eq_ok]
  constructor
  · rintro ⟨locale, hLocale, hWrite⟩
    obtain rfl := Locale.parse_eq_ok_iff.mp hLocale
    refine ⟨locale.wellFormed, ?_⟩
    cases hEntries : strings? source with
    | none =>
      rw [hEntries] at hWrite
      cases hWrite
    | some entries =>
      rw [hEntries] at hWrite
      obtain ⟨table, hTable, hResult⟩ := bind_eq_ok.mp hWrite
      exact ⟨entries, table, rfl, hTable, (pure_eq_ok.mp hResult).symm⟩
  · rintro ⟨hTag, entries, table, hEntries, hTable, rfl⟩
    refine ⟨⟨tag, hTag⟩, Locale.parse_eq_ok_iff.mpr rfl, ?_⟩
    rw [hEntries]
    exact bind_eq_ok.mpr ⟨table, hTable, rfl⟩

theorem add_template_eq_ok_iff {catalog result : Catalog} {tag text : String} {code : Code} :
    catalog.add (.template tag code text) = .ok result ↔
      Locale.isTag tag.toList = true ∧ result = catalog.write tag [(code, text)] := by
  rw [add, bind_eq_ok]
  constructor
  · rintro ⟨locale, hLocale, hResult⟩
    obtain rfl := Locale.parse_eq_ok_iff.mp hLocale
    exact ⟨locale.wellFormed, (pure_eq_ok.mp hResult).symm⟩
  · rintro ⟨hTag, rfl⟩
    exact ⟨⟨tag, hTag⟩, Locale.parse_eq_ok_iff.mpr rfl, rfl⟩

theorem lastFor?_bundle (tag other : String) (code : Code) (text : Code → String) :
    lastFor? tag code (Code.all.map fun code => ⟨other, code, text code⟩) =
      if tag = other then (Code.all.map fun code => (code, text code)).lookup code else none := by
  -- every write for a code has the same text, so the order of the codes does not matter
  have hReverse := lastFor?_reverse tag other code
    (Code.all.reverse.map fun code => (code, text code))
  rw [lookup_map_of_mem (List.mem_reverse.mpr code.mem_all), ← List.map_reverse,
    List.reverse_reverse, List.map_map] at hReverse
  rw [lookup_map_of_mem code.mem_all]
  exact hReverse

theorem template?_add {catalog result : Catalog} {addition : Addition}
    (h : catalog.add addition = .ok result) (tag : String) (code : Code) :
    result.template? tag code =
      (lastFor? tag code addition.writes).or (catalog.template? tag code) := by
  cases addition with
  | bundled =>
    -- the Japanese table is put before the English one
    cases h
    rw [Addition.writes, lastFor?_append, lastFor?_bundle, lastFor?_bundle, Option.or_assoc]
    exact (template?_write ..).trans (congrArg _ (template?_write ..))
  | json other source =>
    obtain ⟨-, entries, table, hEntries, hTable, rfl⟩ := add_json_eq_ok_iff.mp h
    rw [template?_write, writes_json hEntries hTable, lastFor?_reverse]
  | template other code' text =>
    obtain ⟨-, rfl⟩ := add_template_eq_ok_iff.mp h
    rw [template?_write, ← lastFor?_reverse]
    rfl

/-- The members of a source may be merged first, the last of a name staying, and then be written
in any order. -/
theorem template?_write_merged {catalog result : Catalog} {tag source : String} {merged : Table}
    (h : catalog.add (.json tag source) = .ok result)
    (hLast : ∀ code text, (code, text) ∈ merged →
      lastFor? tag code (Addition.json tag source).writes = some text)
    (hAll : ∀ code text, lastFor? tag code (Addition.json tag source).writes = some text →
      (code, text) ∈ merged) (other : String) (code : Code) :
    (catalog.write tag merged).template? other code = result.template? other code := by
  have hWrites : lastFor? other code (Addition.json tag source).writes =
      if other = tag then merged.lookup code else none := by
    obtain ⟨-, entries, table, hEntries, hTable, -⟩ := add_json_eq_ok_iff.mp h
    simp only [writes_json hEntries hTable, lastFor?_reverse, reduceIte] at hLast hAll ⊢
    have hLookup : table.lookup code = merged.lookup code := by
      cases hFound : merged.lookup code with
      | some text =>
        obtain ⟨before, after, rfl, -⟩ := List.lookup_eq_some_iff.mp hFound
        exact hLast code text (List.mem_append_right before List.mem_cons_self)
      | none =>
        refine Option.eq_none_iff_forall_ne_some.mpr fun text hText => ?_
        have hOther := List.lookup_eq_none_iff.mp hFound _ (hAll code text hText)
        simp at hOther
    rw [hLookup]
  rw [template?_write, template?_add h, hWrites]

end Catalog

/-! ## Reporters -/

namespace Reporter

end Reporter

end ParamSchema
