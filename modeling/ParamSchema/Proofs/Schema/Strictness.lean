import ParamSchema.Proofs.Schema.Comparison

/-!
# Strict and lenient combinators

A strict reading fails at the first place where the lenient one reports that it ignores
combinators, and is the lenient reading if there is no such place.
-/

set_option autoImplicit false

namespace ParamSchema

/-- What a strict reader refuses an ambiguity with, given the first combinator that is ignored. -/
def Ambiguity.flaw (ambiguity : Ambiguity) (first : Combinator) : Flaw :=
  ⟨ambiguity.steps ++ [.member first.keyword], .schema .combinator, []⟩

namespace Schema

inductive Stricter {α : Type} (lenient strict : Reading α) : Prop
  | same (hEvents : lenient.events = []) (hStrict : strict = lenient)
  | refused {ambiguity : Ambiguity} {others : List Ambiguity} {first : Combinator}
      {rest : List Combinator} (hEvents : lenient.events = ambiguity :: others)
      (hIgnored : ambiguity.ignored = first :: rest)
      (hStrict : strict = .fail (ambiguity.flaw first))

namespace Stricter

variable {α β : Type}

theorem bind {lenient strict : Reading α} {next next' : α → Reading β}
    (hFirst : Stricter lenient strict)
    (hNext : ∀ a, lenient.result = .ok a → Stricter (next a) (next' a)) :
    Stricter (lenient >>= next) (strict >>= next') := by
  obtain ⟨events, result⟩ := lenient
  cases hFirst with
  | same hEvents hStrict =>
    subst hEvents hStrict
    cases result with
    | error flaw => exact .same rfl rfl
    | ok a => exact hNext a rfl
  | refused hEvents hIgnored hStrict =>
    subst hEvents hStrict
    cases result with
    | error flaw => exact .refused rfl hIgnored rfl
    | ok a => exact .refused rfl hIgnored rfl

theorem inside {lenient strict : Reading α} (step : Step) (h : Stricter lenient strict) :
    Stricter (Reading.inside step lenient) (Reading.inside step strict) := by
  obtain ⟨events, result⟩ := lenient
  cases h with
  | same hEvents hStrict =>
    subst hEvents hStrict
    exact .same rfl rfl
  | @refused ambiguity others first rest hEvents hIgnored hStrict =>
    subst hEvents hStrict
    have hUnder : (ambiguity.under step).ignored = first :: rest := hIgnored
    exact .refused rfl hUnder rfl

end Stricter

def strictness : Comparison where
  Rel := Stricter
  lift _ := .same rfl rfl
  bind := Stricter.bind
  inside := Stricter.inside

section

variable (settings : Settings)

theorem stricter_checkIgnored (combinator : Combinator) (ignored : List Combinator) :
    Stricter (checkIgnored { settings with strictCombinators := false } combinator ignored)
      (checkIgnored { settings with strictCombinators := true } combinator ignored) := by
  cases ignored with
  | nil => exact .same rfl rfl
  | cons first rest => exact .refused rfl rfl rfl

theorem stricter_readLevels (levels : Nat) (raw : Json) :
    Stricter (readLevels { settings with strictCombinators := false } levels raw)
      (readLevels { settings with strictCombinators := true } levels raw) := by
  induction levels generalizing raw with
  | zero => exact .same rfl rfl
  | succ levels ih =>
    exact strictness.readLevels_self_succ ih (fun _ _ => .same rfl rfl)
      (stricter_checkIgnored settings) raw

end

theorem strict_readAt_refuses_where_lenient_reports (place : Path) (settings : Settings)
    (raw : Json) :
    let lenient := readAt place { settings with strictCombinators := false } raw
    let strict := readAt place { settings with strictCombinators := true } raw
    lenient.events = [] ∧ strict.result = lenient.result ∨
      ∃ path honored first rest others,
        lenient.events = .combinatorsIgnored path honored (first :: rest) :: others ∧
        strict.result = .error ⟨path.member first.keyword, .schema .combinator, []⟩ ∧
        (path.member first.keyword).text = path.text ++ "." ++ first.keyword := by
  have hLevels := stricter_readLevels settings settings.maxDepth raw
  cases hLevels with
  | same hEvents hStrict =>
    left
    constructor
    · simp [readAt, ofJson, Traced.mapBoth, hEvents]
    · simp [readAt, ofJson, hStrict]
  | @refused ambiguity others first rest hEvents hIgnored hStrict =>
    right
    refine ⟨{ place with steps := place.steps ++ ambiguity.steps }, ambiguity.honored, first, rest,
      others.map (Ambiguity.seenFrom place), ?_, ?_, ?_⟩
    · simp [readAt, ofJson, Traced.mapBoth, hEvents, Ambiguity.seenFrom, hIgnored]
    · rw [readAt, ofJson, Traced.result_mapBoth, hStrict, Traced.result_fail]
      simp [Results.mapError_eq_error, Ambiguity.flaw, Flaw.seenFrom, Path.member]
    · simp [Path.member, Path.text, Step.text, String.append_assoc]

end Schema

end ParamSchema
