import ParamSchema.Traced

/-!
# Results

When a computation of several steps succeeds, for plain and for traced ones. A
traced computation has the result of the plain one with the same steps.
-/

set_option autoImplicit false

namespace ParamSchema

namespace Results

variable {ε ε' α β γ : Type}

theorem bind_eq_ok {first : Except ε α} {next : α → Except ε β} {b : β} :
    (first >>= next) = .ok b ↔ ∃ a, first = .ok a ∧ next a = .ok b := by
  cases first <;> simp [bind, Except.bind]

theorem ok_bind (a : α) (next : α → Except ε β) : (Except.ok a >>= next) = next a := rfl

theorem pure_eq_ok {a b : α} : (pure a : Except ε α) = .ok b ↔ a = b := by
  simp [pure, Except.pure]

theorem exists_bind_eq_ok {first : Except ε α} {next : α → Except ε β} :
    (∃ b, (first >>= next) = .ok b) ↔ ∃ a, first = .ok a ∧ ∃ b, next a = .ok b := by
  cases first <;> simp [bind, Except.bind]

theorem exists_pure_eq_ok {a : α} : (∃ b, (pure a : Except ε α) = .ok b) ↔ True :=
  iff_true_intro ⟨a, rfl⟩

theorem exists_seq_eq_ok {first : Except ε Unit} {next : Except ε β} :
    (∃ b, (do first; next) = .ok b) ↔ first = .ok () ∧ ∃ b, next = .ok b := by
  cases first <;> simp [bind, Except.bind]

theorem mapError_eq_ok {f : ε → ε'} {result : Except ε α} {a : α} :
    result.mapError f = .ok a ↔ result = .ok a := by
  cases result <;> constructor <;> intro h <;> cases h <;> rfl

theorem map_eq_ok {f : α → β} {result : Except ε α} {b : β} :
    result.map f = .ok b ↔ ∃ a, result = .ok a ∧ f a = b := by
  cases result with
  | ok a => simp [Except.map]
  | error error => simp [Except.map]

theorem bind_eq_error {first : Except ε α} {next : α → Except ε β} {error : ε} :
    (first >>= next) = .error error ↔
      first = .error error ∨ ∃ a, first = .ok a ∧ next a = .error error := by
  cases first <;> simp [bind, Except.bind]

theorem collect_eq_error {first : Except ε α} {rest : Except ε β} {f : α → β → γ} {error : ε} :
    (do let a ← first; let b ← rest; return f a b) = .error error ↔
      first = .error error ∨ (∃ a, first = .ok a) ∧ rest = .error error := by
  cases first <;> cases rest <;> simp [bind, Except.bind, pure, Except.pure]

/-- Values that are read each from what it is written as, and all of them: in a monad that runs one
step after another and keeps what a step gives. -/
theorem mapM_eq_pure_iff {m : Type → Type} [Monad m] [LawfulMonad m]
    (hBind : ∀ {γ δ : Type} {first : m γ} {next : γ → m δ} {d : δ},
      (first >>= next) = pure d ↔ ∃ c, first = pure c ∧ next c = pure d)
    (hPure : ∀ {γ : Type} {a b : γ}, (pure a : m γ) = pure b ↔ a = b)
    {read : α → m β} {write : β → α} (hRead : ∀ a b, read a = pure b ↔ a = write b)
    {as : List α} {bs : List β} : as.mapM read = pure bs ↔ as = bs.map write := by
  induction as generalizing bs with
  | nil =>
    rw [List.mapM_nil, hPure]
    cases bs <;> simp
  | cons a as ih =>
    simp only [List.mapM_cons, hBind, hPure, hRead, ih]
    constructor
    · rintro ⟨b, rfl, bs, rfl, rfl⟩
      rfl
    · intro hAll
      obtain ⟨b, bs, rfl, rfl, rfl⟩ := List.map_eq_cons_iff.mp hAll.symm
      exact ⟨b, rfl, bs, rfl, rfl⟩

theorem mapM_eq_ok_iff {read : α → Except ε β} {write : β → α}
    (hRead : ∀ a b, read a = .ok b ↔ a = write b) {as : List α} {bs : List β} :
    as.mapM read = .ok bs ↔ as = bs.map write :=
  mapM_eq_pure_iff bind_eq_ok pure_eq_ok hRead

theorem mapM_eq_some_iff {read : α → Option β} {write : β → α}
    (hRead : ∀ a b, read a = some b ↔ a = write b) {as : List α} {bs : List β} :
    as.mapM read = some bs ↔ as = bs.map write :=
  mapM_eq_pure_iff Option.bind_eq_some_iff Option.some_inj hRead

theorem mapError_eq_error {f : ε → ε'} {result : Except ε α} {error : ε'} :
    result.mapError f = .error error ↔ ∃ cause, result = .error cause ∧ f cause = error := by
  constructor
  · intro h
    cases result with
    | ok a => cases h
    | error cause => exact ⟨cause, rfl, Except.error.inj h⟩
  · rintro ⟨cause, rfl, rfl⟩
    rfl

theorem map_eq_error {f : α → β} {result : Except ε α} {error : ε} :
    result.map f = .error error ↔ result = .error error := by
  cases result <;> simp [Except.map]

def FailsWith (property : ε → Prop) (result : Except ε α) : Prop :=
  ∀ error, result = .error error → property error

theorem FailsWith.ok {property : ε → Prop} (a : α) : FailsWith property (.ok a) := nofun

theorem FailsWith.bind {property : ε → Prop} {first : Except ε α} {next : α → Except ε β}
    (hFirst : FailsWith property first)
    (hNext : ∀ a, first = .ok a → FailsWith property (next a)) :
    FailsWith property (first >>= next) := by
  intro error h
  rcases bind_eq_error.mp h with h | ⟨a, hOk, h⟩
  · exact hFirst error h
  · exact hNext a hOk error h

theorem FailsWith.mapError {f : ε → ε'} {property : ε' → Prop} {result : Except ε α}
    (h : FailsWith (fun cause => property (f cause)) result) :
    FailsWith property (result.mapError f) := by
  intro error hError
  obtain ⟨cause, hCause, rfl⟩ := mapError_eq_error.mp hError
  exact h cause hCause

def failure? : Except ε α → Option ε
  | .ok _ => none
  | .error error => some error

@[simp] theorem failure?_ok (a : α) : failure? (.ok a : Except ε α) = none := rfl

@[simp] theorem failure?_error (error : ε) : failure? (.error error : Except ε α) = some error := rfl

theorem failure?_eq_none_iff {result : Except ε α} :
    failure? result = none ↔ ∃ a, result = .ok a := by
  cases result <;> simp

theorem failure?_eq_none_iff_ok {result : Except ε Unit} :
    failure? result = none ↔ result = .ok () := by
  cases result <;> simp

theorem failure?_eq_some_iff {result : Except ε α} {error : ε} :
    failure? result = some error ↔ result = .error error := by
  cases result <;> simp

/-- A second step whose failure does not depend on what the first one gives. -/
theorem failure?_bind {first : Except ε α} {next : α → Except ε β} {second : Option ε}
    (hNext : ∀ a, failure? (next a) = second) :
    failure? (first >>= next) = (failure? first).or second := by
  cases first with
  | ok a => exact hNext a
  | error error => rfl

@[simp] theorem failure?_bind_pure (first : Except ε α) (f : α → β) :
    failure? (first >>= fun a => pure (f a)) = failure? first := by
  cases first <;> rfl

theorem failure?_map (f : α → β) (result : Except ε α) :
    failure? (result.map f) = failure? result := by
  cases result <;> rfl

theorem failure?_mapError (f : ε → ε') (result : Except ε α) :
    failure? (result.mapError f) = (failure? result).map f := by
  cases result <;> rfl

/-- A computation succeeds, and its result is accepted exactly if something holds. -/
def Decides (result : Except ε α) (accepted : α → Prop) (holds : Prop) : Prop :=
  ∃ a, result = .ok a ∧ (accepted a ↔ holds)

section

variable {result : Except ε α} {accepted : α → Prop} {holds : Prop}

theorem Decides.ok (a : α) : Decides (.ok a : Except ε α) accepted (accepted a) := ⟨a, rfl, Iff.rfl⟩

theorem Decides.refuse {a : α} (hResult : result = .ok a) (hNot : ¬accepted a) (hHolds : ¬holds) :
    Decides result accepted holds :=
  ⟨a, hResult, iff_of_false hNot hHolds⟩

theorem Decides.congr {holds' : Prop} (h : Decides result accepted holds) (hIff : holds ↔ holds') :
    Decides result accepted holds' := by
  obtain ⟨a, hResult, hAccepted⟩ := h
  exact ⟨a, hResult, hAccepted.trans hIff⟩

theorem Decides.exists_ok (h : Decides result accepted holds) : ∃ a, result = .ok a := by
  obtain ⟨a, hResult, -⟩ := h
  exact ⟨a, hResult⟩

theorem Decides.accepted_iff (h : Decides result accepted holds) {a : α} (hResult : result = .ok a) :
    accepted a ↔ holds := by
  obtain ⟨a', hResult', hAccepted⟩ := h
  cases hResult.symm.trans hResult'
  exact hAccepted

theorem Decides.guard {condition : Prop} {refused : α} (hRefused : ¬accepted refused)
    (hNot : ¬condition → result = .ok refused)
    (hNext : condition → Decides result accepted holds) :
    Decides result accepted (condition ∧ holds) := by
  by_cases hCondition : condition
  · exact (hNext hCondition).congr (and_iff_right hCondition).symm
  · exact .refuse (hNot hCondition) hRefused fun h => hCondition h.1

theorem Decides.option {holds : β → Prop} {value : Option β} {refused : α}
    (hRefused : ¬accepted refused) (hNone : value = none → result = .ok refused)
    (hSome : ∀ b, value = some b → Decides result accepted (holds b)) :
    Decides result accepted (∃ b, value = some b ∧ holds b) := by
  cases value with
  | none => exact .refuse (hNone rfl) hRefused nofun
  | some b =>
    refine (hSome b rfl).congr ⟨fun h => ⟨b, rfl, h⟩, ?_⟩
    rintro ⟨_, ⟨⟩, h⟩
    exact h

end

end Results

namespace Traced

variable {ω ω' ε ε' α β : Type}

@[simp] theorem result_pure (a : α) : (pure a : Traced ω ε α).result = .ok a := rfl

@[simp] theorem result_bind (first : Traced ω ε α) (next : α → Traced ω ε β) :
    (first >>= next).result = first.result >>= fun a => (next a).result := by
  change (Traced.bind first next).result = _
  unfold Traced.bind
  cases first.result <;> rfl

@[simp] theorem result_fail (error : ε) : (Traced.fail error : Traced ω ε α).result = .error error :=
  rfl

@[simp] theorem result_report (event : ω) : (Traced.report event : Traced ω ε Unit).result = .ok () :=
  rfl

@[simp] theorem result_lift (result : Except ε α) :
    (liftM result : Traced ω ε α).result = result := rfl

@[simp] theorem result_mapBoth (onEvent : ω → ω') (onError : ε → ε') (traced : Traced ω ε α) :
    (traced.mapBoth onEvent onError).result = traced.result.mapError onError := rfl

theorem pure_bind (a : α) (next : α → Traced ω ε β) : (pure a >>= next) = next a := rfl

theorem lift_ok (a : α) : (liftM (.ok a : Except ε α) : Traced ω ε α) = pure a := rfl

end Traced

end ParamSchema
