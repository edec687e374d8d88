import ParamSchema.Proofs.Results
import ParamSchema.Session

/-!
# Runs of a session

A session is asked to check values, for its stored report, or to take another
reporter, any number of times in any order. What a check finds depends on the
parameter, the nesting limit and the value alone; the stored report is the one
of the last check that was to be kept, in the words of the reporter of that time.
-/

set_option autoImplicit false

namespace ParamSchema

open Results

def Report.unworded (report : Report) : Report := { report with message := "" }

@[simp] theorem Reporter.unworded_report (reporter : Reporter) (violation : Violation) :
    (reporter.report violation).unworded =
      ⟨violation.path.text, violation.code, "", violation.params⟩ := rfl

def Parameter.verdict (parameter : Parameter) (maxDepth : Nat) (input : Option Json) :
    Except Violation Outcome :=
  (parameter.check (some maxDepth) input).result.map fun value => ⟨value, input⟩

namespace Session

inductive Call where
  | validate (input : Option Json)
  | exec (input : Option Json)
  | test (input : Option Json)
  | error
  | withReporter (reporter : Reporter)

namespace Call

def input? : Call → Option (Option Json)
  | .validate input | .exec input | .test input => some input
  | .error | .withReporter _ => none

def kept? : Call → Option (Option Json)
  | .exec input | .test input => some input
  | .validate _ | .error | .withReporter _ => none

def reporter? : Call → Option Reporter
  | .withReporter reporter => some reporter
  | .validate _ | .exec _ | .test _ | .error => none

end Call

inductive Answer where
  | validated (result : Except Report Outcome)
  | executed (outcome : Option Outcome)
  | tested (accepted : Bool)
  | stored (report : Option Report)
  | replaced

def Answer.unworded : Answer → Answer
  | .validated result => .validated (result.mapError Report.unworded)
  | .stored report => .stored (report.map Report.unworded)
  | answer => answer

def step (session : Session) : Call → Answer × Session
  | .validate input => (.validated (session.validate input).result, session)
  | .exec input => (.executed (session.exec input).1, (session.exec input).2)
  | .test input => (.tested (session.test input).1, (session.test input).2)
  | .error => (.stored session.last, session)
  | .withReporter reporter => (.replaced, session.withReporter reporter)

def after (session : Session) (history : List Call) : Session :=
  history.foldl (fun session call => (session.step call).2) session

/-- The sessions that the three constructors give. -/
inductive Built : Session → Prop
  | ofJson {process : Locale} {raw : Json} {session : Session}
      (h : (Session.ofJson process raw).result = .ok session) : Built session
  | withSettings {process : Locale} {settings : Settings} {raw : Json} {session : Session}
      (h : (Session.withSettings process settings raw).result = .ok session) : Built session
  | ofParameter {process : Locale} {settings : Settings} {parameter : Parameter} {session : Session}
      (h : Session.ofParameter process settings parameter = .ok session) : Built session

theorem withSettings_eq_ok {process : Locale} {settings : Settings} {raw : Json} {session : Session}
    (h : (Session.withSettings process settings raw).result = .ok session) :
    ∃ locale parameter, settings.resolveLocale process = .ok locale ∧
      (Parameter.ofJson settings raw).result = .ok parameter ∧
      session = ⟨parameter, settings, .ofLocale locale, none⟩ := by
  unfold Session.withSettings at h
  cases hLocale : settings.resolveLocale process with
  | error error =>
    rw [hLocale] at h
    cases h
  | ok locale =>
    rw [hLocale] at h
    obtain ⟨parameter, hParameter, hSession⟩ := bind_eq_ok.mp ((Traced.result_bind _ _).symm.trans h)
    rw [Traced.result_mapBoth, mapError_eq_ok] at hParameter
    cases hSession
    exact ⟨locale, parameter, rfl, hParameter, rfl⟩

theorem Built.last_eq_none {session : Session} (h : Built session) : session.last = none := by
  cases h with
  | ofJson h =>
    obtain ⟨parameter, -, hSession⟩ := bind_eq_ok.mp ((Traced.result_bind _ _).symm.trans h)
    cases hSession
    rfl
  | withSettings h =>
    obtain ⟨locale, parameter, -, -, rfl⟩ := withSettings_eq_ok h
    rfl
  | ofParameter h =>
    obtain ⟨locale, -, rfl⟩ := map_eq_ok.mp h
    rfl

def reporterAfter (first : Reporter) (history : List Call) : Reporter :=
  history.foldl (fun reporter call => call.reporter?.getD reporter) first

/-- The value of the last check whose report is kept, with the calls before it. -/
def lastKept? : List Call → Option (List Call × Option Json)
  | [] => none
  | call :: later =>
    match lastKept? later with
    | some (before, input) => some (call :: before, input)
    | none => call.kept?.map ([], ·)

section

variable (session : Session)

def verdict (input : Option Json) : Except Violation Outcome :=
  session.parameter.verdict session.settings.maxDepth input

theorem exists_verdict_ok_iff (input : Option Json) :
    (∃ outcome, session.verdict input = .ok outcome) ↔ ∃ checked,
      (session.parameter.check (some session.settings.maxDepth) input).result = .ok checked := by
  constructor
  · rintro ⟨outcome, h⟩
    obtain ⟨checked, hChecked, -⟩ := map_eq_ok.mp h
    exact ⟨checked, hChecked⟩
  · rintro ⟨checked, hChecked⟩
    exact ⟨_, map_eq_ok.mpr ⟨checked, hChecked, rfl⟩⟩

def finding (reporter : Reporter) (input : Option Json) : Option Report :=
  (failure? (session.verdict input)).map reporter.report

theorem result_validate (input : Option Json) :
    (session.validate input).result =
      (session.verdict input).mapError session.reporter.report := by
  change ((Traced.mapBoth _ _ _ >>= _) : Traced Event Report Outcome).result = _
  rw [Traced.result_bind, Traced.result_mapBoth, verdict, Parameter.verdict]
  cases (session.parameter.check (some session.settings.maxDepth) input).result <;> rfl

theorem exec_eq (input : Option Json) :
    session.exec input = ((session.verdict input).toOption,
      { session with last := session.finding session.reporter input }) := by
  rw [exec, result_validate, finding]
  cases session.verdict input <;> rfl

theorem test_eq (input : Option Json) :
    session.test input = ((session.verdict input).isOk,
      { session with last := session.finding session.reporter input }) := by
  rw [test, exec_eq]
  cases session.verdict input <;> rfl

/-- A call changes the reporter if it brings one, and the stored report if it is a check whose
report is kept. -/
theorem step_snd (call : Call) :
    (session.step call).2 = { session with
      reporter := call.reporter?.getD session.reporter
      last := call.kept?.elim session.last (session.finding session.reporter) } := by
  cases call with
  | validate input => rfl
  | exec input => exact congrArg Prod.snd (session.exec_eq input)
  | test input => exact congrArg Prod.snd (session.test_eq input)
  | error => rfl
  | withReporter reporter => rfl

end

theorem after_eq (session : Session) (history : List Call) :
    session.after history = { session with
      reporter := reporterAfter session.reporter history
      last := (lastKept? history).elim session.last fun kept =>
        session.finding (reporterAfter session.reporter kept.1) kept.2 } := by
  induction history generalizing session with
  | nil => rfl
  | cons call later ih =>
    have hStep : session.after (call :: later) = (session.step call).2.after later := rfl
    rw [hStep, ih, step_snd, lastKept?]
    -- A later check decides about the stored report; without one the first call does.
    cases lastKept? later with
    | some kept => rfl
    | none => cases call.kept? <;> rfl

theorem verdict_after (session : Session) (history : List Call) :
    (session.after history).verdict = session.verdict := by
  rw [after_eq]
  rfl

theorem reporter_after (session : Session) (history : List Call) :
    (session.after history).reporter = reporterAfter session.reporter history := by
  rw [after_eq]

theorem after_concat (session : Session) (history : List Call) (call : Call) :
    session.after (history ++ [call]) = ((session.after history).step call).2 := by
  rw [after, List.foldl_append]
  rfl

theorem unworded_finding (session : Session) (reporter : Reporter) (input : Option Json) :
    (session.finding reporter input).map Report.unworded =
      (failure? (session.verdict input)).map fun violation =>
        ⟨violation.path.text, violation.code, "", violation.params⟩ := by
  rw [finding, Option.map_map]
  rfl

theorem unworded_validate (session : Session) (input : Option Json) :
    (session.validate input).result.mapError Report.unworded =
      (session.verdict input).mapError fun violation =>
        ⟨violation.path.text, violation.code, "", violation.params⟩ := by
  rw [result_validate]
  cases session.verdict input <;> rfl

/-- Sessions that judge alike differ on a checked value in nothing but words. -/
theorem step_congr {session other : Session} (hVerdict : session.verdict = other.verdict)
    {call : Call} (hInput : call.input?.isSome) :
    (session.step call).1.unworded = (other.step call).1.unworded ∧
      (call.kept?.isSome → (session.step call).2.last.map Report.unworded =
        (other.step call).2.last.map Report.unworded) := by
  cases call with
  | validate input =>
    refine ⟨congrArg Answer.validated ?_, nofun⟩
    rw [unworded_validate, unworded_validate, hVerdict]
  | exec input =>
    simp only [step, exec_eq, unworded_finding, hVerdict, Answer.unworded, implies_true, and_self]
  | test input =>
    simp only [step, test_eq, unworded_finding, hVerdict, Answer.unworded, implies_true, and_self]
  | error => cases hInput
  | withReporter reporter => cases hInput

/-- A session that a constructor gave stores, after any calls, the report of the last check that
was to be kept, if that value was rejected, in the words of the reporter in force at that check.
Other calls leave it as it is. The three checks accept the same values with the same outcome, which
holds the value that was given. What a check finds is the same, but for words, for every session
with the same parameter and nesting limit, whatever calls and reporters came before. -/
theorem built_session_runs {session : Session} (hBuilt : session.Built) (history : List Call) :
    (session.after history).last = (lastKept? history).bind (fun kept =>
      session.finding (reporterAfter session.reporter kept.1) kept.2) ∧
    (∀ call : Call, call.kept? = none →
      (session.after (history ++ [call])).last = (session.after history).last) ∧
    (∀ input outcome,
      (((session.after history).exec input).1 = some outcome ↔
        ((session.after history).validate input).result = .ok outcome) ∧
      (((session.after history).validate input).result = .ok outcome → outcome.input = input)) ∧
    (∀ input, ((session.after history).test input).1 = true ↔
      ∃ outcome, ((session.after history).validate input).result = .ok outcome) ∧
    (∀ input report, ((session.after history).validate input).result = .error report ↔
      ∃ violation, session.verdict input = .error violation ∧
        report = (reporterAfter session.reporter history).report violation) ∧
    (∀ other : Session, other.parameter = session.parameter →
      other.settings.maxDepth = session.settings.maxDepth → ∀ (history' : List Call) (call : Call),
      call.input?.isSome →
      ((session.after history).step call).1.unworded = ((other.after history').step call).1.unworded ∧
      (call.kept?.isSome → ((session.after history).step call).2.last.map Report.unworded =
        ((other.after history').step call).2.last.map Report.unworded)) := by
  refine ⟨?_, ?_, ?_, ?_, ?_, ?_⟩
  · rw [after_eq, hBuilt.last_eq_none]
    cases lastKept? history <;> rfl
  · intro call hCall
    rw [after_concat, step_snd, hCall]
    rfl
  · intro input outcome
    rw [exec_eq, result_validate, mapError_eq_ok]
    cases hVerdict : (session.after history).verdict input with
    | ok found =>
      obtain ⟨value, -, rfl⟩ := map_eq_ok.mp hVerdict
      refine ⟨by simp [Except.toOption], ?_⟩
      rintro ⟨⟩
      rfl
    | error violation => simp [Except.toOption]
  · intro input
    rw [test_eq, result_validate]
    cases (session.after history).verdict input <;> simp [Except.isOk, Except.toBool, mapError_eq_ok]
  · intro input report
    rw [result_validate, verdict_after, reporter_after, mapError_eq_error]
    simp only [eq_comm]
  · intro other hParameter hDepth history' call hInput
    refine step_congr ?_ hInput
    rw [verdict_after, verdict_after]
    funext input
    rw [verdict, verdict, hParameter, hDepth]

theorem missing_value_stays_reported :
    let parameter : Parameter := ⟨"p", true, .boolean {}⟩
    let session : Session := ⟨parameter, {}, .ofLocale .default, none⟩
    Session.ofParameter .default {} parameter = .ok session ∧
      (session.after
        [.test none, .withReporter (.ofLocale ⟨"ja", by decide⟩), .validate (some .null)]).last =
        some (session.reporter.report ⟨⟨"p", []⟩, .value .required, []⟩) := by
  intro parameter session
  exact ⟨rfl, (built_session_runs (@Built.ofParameter .default {} parameter session rfl) _).1⟩

end Session

end ParamSchema
