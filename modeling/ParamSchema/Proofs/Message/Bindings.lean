import ParamSchema.Message.Report
import ParamSchema.Proofs.Members
import ParamSchema.Proofs.Message.Substitution

/-!
# What messages ask for

Every code comes with a fixed list of keys that its violations bind. The bundled templates
of a code ask for the name and for exactly these keys, so a violation that binds them is
worded, in any locale, without a placeholder being left.
-/

set_option autoImplicit false

namespace ParamSchema

namespace Template

/-- The keys of the placeholders of a text, after so many characters that are passed over. -/
def keysFrom : Nat → List Char → List String
  | _, [] => []
  | skipped + 1, _ :: text => keysFrom skipped text
  | 0, c :: text =>
    match placeholder? (c :: text) with
    | some (key, rest) => String.ofList key :: keysFrom (text.length - rest.length) text
    | none => keysFrom 0 text

theorem keysFrom_eq_drop (skipped : Nat) (text : List Char) :
    keysFrom skipped text = keysFrom 0 (text.drop skipped) := by
  induction text generalizing skipped with
  | nil => cases skipped <;> rfl
  | cons c text ih =>
    cases skipped with
    | zero => rfl
    | succ skipped => exact ih skipped

theorem keysFrom_of_suffix {text rest : List Char} (h : rest <:+ text) :
    keysFrom (text.length - rest.length) text = keysFrom 0 rest := by
  rw [keysFrom_eq_drop, ← List.suffix_iff_eq_drop.mp h]

def Piece.key? : Piece → Option String
  | .char _ => none
  | .placeholder _ key => some (String.ofList key)

theorem filterMap_pieces (text : List Char) : (pieces text).filterMap Piece.key? = keysFrom 0 text := by
  induction text using pieces.induct with
  | case1 => rw [pieces, keysFrom, List.filterMap_nil]
  | case2 c text key rest hFound ih =>
    obtain ⟨written, hPlaceholder, hText⟩ := of_placeholder? hFound
    have hRest : rest <:+ text := by
      rcases List.suffix_cons_iff.mp ⟨written, hText.symm⟩ with hAll | hRest
      · have hLength := placeholder?_length hFound
        rw [hAll] at hLength
        exact absurd hLength (Nat.lt_irrefl _)
      · exact hRest
    have hPieces : pieces (c :: text) = .placeholder written key :: pieces rest :=
      hText ▸ pieces_placeholder hPlaceholder rest
    rw [hPieces, keysFrom, hFound, List.filterMap_cons, ih]
    dsimp only [Piece.key?]
    rw [keysFrom_of_suffix hRest]
  | case3 c text hNone ih =>
    rw [pieces_char hNone, keysFrom, hNone, List.filterMap_cons, ih]
    rfl

theorem keys_ofList (chars : List Char) : keys (String.ofList chars) = keysFrom 0 chars := by
  rw [← filterMap_pieces, keys, String.toList_ofList]
  rfl

end Template

namespace Code

/-- The keys that a violation of a code binds, in order. -/
def bindings : Code → List String
  | .schema .depth | .value .depth => ["maxDepth"]
  | .value .enum => ["enumList"]
  | .value .stringFormat | .value .integerFormat => ["format"]
  | .value .minLength => ["minLength"]
  | .value .maxLength => ["maxLength"]
  | .value .pattern => ["pattern"]
  | .value (.numeric _ .minimum) | .value (.numeric _ .exclusiveMinimum) => ["minimum"]
  | .value (.numeric _ .maximum) | .value (.numeric _ .exclusiveMaximum) => ["maximum"]
  | .value (.numeric _ .multipleOf) => ["multipleOf"]
  | .value .minItems => ["minItems"]
  | .value .maxItems => ["maxItems"]
  | .value .minProperties => ["minProperties"]
  | .value .maxProperties => ["maxProperties"]
  | .value .missingProperty => ["missingPropertyName"]
  | .value .unknownProperty => ["unknownPropertyName"]
  | _ => []

end Code

namespace Message

set_option maxRecDepth 2000 in
theorem keys_english (code : Code) : Template.keys (english code) = "name" :: code.bindings := by
  cases code with
  | parameter fault => cases fault <;> exact Template.keys_ofList _
  | schema fault => cases fault <;> exact Template.keys_ofList _
  | value fault =>
    cases fault with
    | numeric kind fault => cases kind <;> cases fault <;> exact Template.keys_ofList _
    | _ => exact Template.keys_ofList _

set_option maxRecDepth 2000 in
theorem keys_japanese (code : Code) : Template.keys (japanese code) = "name" :: code.bindings := by
  cases code with
  | parameter fault => cases fault <;> exact Template.keys_ofList _
  | schema fault => cases fault <;> exact Template.keys_ofList _
  | value fault =>
    cases fault with
    | numeric kind fault => cases kind <;> cases fault <;> exact Template.keys_ofList _
    | _ => exact Template.keys_ofList _

end Message

namespace Catalog

theorem lookup_map_of_mem {f : Code → String} {codes : List Code} {code : Code}
    (h : code ∈ codes) : (codes.map fun code => (code, f code)).lookup code = some (f code) := by
  induction codes with
  | nil => cases h
  | cons first rest ih =>
    rw [List.map_cons, List.lookup_cons]
    by_cases hFirst : code = first
    · rw [hFirst, beq_self_eq_true]
    · rw [beq_false_of_ne hFirst]
      exact ih ((List.mem_cons.mp h).resolve_left hFirst)

theorem template?_english (code : Code) : bundled.template? "en" code = some (Message.english code) :=
  lookup_map_of_mem code.mem_all

theorem template?_japanese (code : Code) :
    bundled.template? "ja" code = some (Message.japanese code) :=
  lookup_map_of_mem code.mem_all

theorem keys_of_template? {tag template : String} {code : Code}
    (h : bundled.template? tag code = some template) :
    Template.keys template = "name" :: code.bindings := by
  by_cases hEnglish : tag = "en"
  · rw [hEnglish, template?_english, Option.some.injEq] at h
    rw [← h, Message.keys_english]
  · by_cases hJapanese : tag = "ja"
    · rw [hJapanese, template?_japanese, Option.some.injEq] at h
      rw [← h, Message.keys_japanese]
    · have hNone : bundled.tables.lookup tag = none := by
        simp [bundled, bundledTables, Members.lookup_cons, hEnglish, hJapanese]
      rw [template?, hNone] at h
      cases h

end Catalog

namespace Reporter

/-- Whatever the locale, the template of a code asks for the name and what the code binds. -/
theorem keys_template_ofLocale (locale : Locale) (code : Code) :
    Template.keys ((ofLocale locale).template code) = "name" :: code.bindings := by
  have hEnglish : "en" ∈ locale.fallbacks := List.mem_append_right _ (List.mem_singleton_self "en")
  unfold template
  cases hFound : locale.fallbacks.findSome? (Catalog.bundled.template? · code) with
  | none =>
    have hNone := List.findSome?_eq_none_iff.mp hFound "en" hEnglish
    rw [Catalog.template?_english] at hNone
    cases hNone
  | some template =>
    obtain ⟨tag, -, hTemplate⟩ := List.exists_of_findSome?_eq_some hFound
    simp only [ofLocale, hFound, Option.getD_some]
    exact Catalog.keys_of_template? hTemplate

end Reporter

namespace Template

def Piece.Filled (name : String) (params : List (String × String)) : Piece → Prop
  | .char _ => True
  | .placeholder written key => ∃ value, fill name params (.placeholder written key) = value.toList ∧
    (params.lookup (String.ofList key) = some value ∨ String.ofList key = "name" ∧ value = name)

theorem filled_of_bound {name template : String} {params : List (String × String)}
    (hKeys : ∀ key ∈ keys template, key = "name" ∨ key ∈ Members.keys params) :
    ∀ piece ∈ pieces template.toList, piece.Filled name params := by
  intro piece hPiece
  cases piece with
  | char c => trivial
  | placeholder written key =>
    have hKey : String.ofList key ∈ keys template := List.mem_filterMap.mpr ⟨_, hPiece, rfl⟩
    cases hLookup : params.lookup (String.ofList key) with
    | some value => exact ⟨value, by simp only [Piece.fill, hLookup], .inl hLookup⟩
    | none =>
      have hName : String.ofList key = "name" :=
        (hKeys _ hKey).resolve_right (Members.lookup_eq_none_iff.mp hLookup)
      exact ⟨name, by simp only [Piece.fill, hLookup, if_pos hName], .inr ⟨hName, rfl⟩⟩

end Template

/-- The bundled messages can say a violation: there are templates for it in both languages that ask
for nothing but its name and what it binds, and in the message of any locale something stands for
every placeholder. -/
structure Violation.InWords (violation : Violation) : Prop where
  templates : ∀ tag ∈ ["en", "ja"], ∃ template,
    Catalog.bundled.template? tag violation.code = some template ∧
      ∀ key ∈ Template.keys template, key = "name" ∨ key ∈ Members.keys violation.params
  message : ∀ locale : Locale, ∃ pieces,
    pieces = Template.pieces ((Reporter.ofLocale locale).template violation.code).toList ∧
    (Reporter.ofLocale locale).message violation = String.ofList
      (pieces.flatMap (Template.Piece.fill violation.path.text violation.params)) ∧
    ∀ piece ∈ pieces, piece.Filled violation.path.text violation.params

theorem Violation.inWords_of_bindings {violation : Violation}
    (h : Members.keys violation.params = violation.code.bindings) : violation.InWords := by
  have hBound {template : String} (hTemplate : Template.keys template =
      "name" :: violation.code.bindings) :
      ∀ key ∈ Template.keys template, key = "name" ∨ key ∈ Members.keys violation.params := by
    rw [hTemplate, h]
    exact fun key hKey => List.mem_cons.mp hKey
  refine ⟨?_, fun locale => ⟨_, rfl, rfl, ?_⟩⟩
  · intro tag hTag
    rcases List.mem_pair.mp hTag with rfl | rfl
    · exact ⟨_, Catalog.template?_english _, hBound (Message.keys_english _)⟩
    · exact ⟨_, Catalog.template?_japanese _, hBound (Message.keys_japanese _)⟩
  · exact Template.filled_of_bound (hBound (Reporter.keys_template_ofLocale locale _))

end ParamSchema
