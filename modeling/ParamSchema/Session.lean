import ParamSchema.Message.Report
import ParamSchema.Parameter

/-!
# Sessions

A session checks values against one parameter and words what it finds. It
keeps the report of its last run, if that run failed.
-/

set_option autoImplicit false

namespace ParamSchema

structure Session where
  parameter : Parameter
  settings : Settings
  reporter : Reporter
  last : Option Report := none

structure Outcome where
  value : Option Json
  input : Option Json

inductive BuildError where
  | settings (error : SettingsError)
  | definition (report : Report)
  deriving DecidableEq

def BuildError.text : BuildError → String
  | .settings error => "invalid configuration: " ++ error.message
  | .definition report => report.text

namespace Session

def ofJson (process : Locale) (raw : Json) : Traced Event Report Session :=
  ((Parameter.ofJson {} raw).mapBoth id (Reporter.ofLocale process).report).bind fun parameter =>
    pure ⟨parameter, {}, .ofLocale process, none⟩

/-- A session for a definition read with given settings, which are checked first. -/
def withSettings (process : Locale) (settings : Settings) (raw : Json) :
    Traced Event BuildError Session :=
  match settings.resolveLocale process with
  | .error error => .fail (.settings error)
  | .ok locale =>
    let reporter := Reporter.ofLocale locale
    ((Parameter.ofJson settings raw).mapBoth id (BuildError.definition ∘ reporter.report)).bind
      fun parameter => pure ⟨parameter, settings, reporter, none⟩

def ofParameter (process : Locale) (settings : Settings) (parameter : Parameter) :
    Except SettingsError Session :=
  (settings.resolveLocale process).map fun locale => ⟨parameter, settings, .ofLocale locale, none⟩

def withReporter (session : Session) (reporter : Reporter) : Session :=
  { session with reporter }

def validate (session : Session) (input : Option Json) : Traced Event Report Outcome :=
  ((session.parameter.check (some session.settings.maxDepth) input).mapBoth id
    session.reporter.report).bind fun value => pure ⟨value, input⟩

/-- Checks a value and keeps the report if it is rejected. -/
def exec (session : Session) (input : Option Json) : Option Outcome × Session :=
  match (session.validate input).result with
  | .ok outcome => (some outcome, { session with last := none })
  | .error report => (none, { session with last := some report })

def test (session : Session) (input : Option Json) : Bool × Session :=
  ((session.exec input).1.isSome, (session.exec input).2)

end Session

def Outcome.toJson (outcome : Outcome) : Json :=
  .object [("value", outcome.value.getD .null), ("input", outcome.input.getD .null)]

end ParamSchema
