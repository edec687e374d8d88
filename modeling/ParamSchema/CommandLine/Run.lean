import ParamSchema.CommandLine.Arguments
import ParamSchema.Session

/-!
# Command line runs

A run loads the settings and the definition, reads all sources, and checks
their values one after another. Its status is 0 if every value is accepted, 1
if one is rejected, and 2 if something cannot be loaded or read.

What a run needs from outside is asked of a host.
-/

set_option autoImplicit false

namespace ParamSchema.CommandLine

/-- Where files and the standard input come from; what cannot be read as text is absent. -/
structure Host (m : Type → Type) where
  file : String → m (Option String)
  input : m (Option String)

inductive Failure where
  | usage
  | settings
  | unreadable (path : String)
  | unreadableInput
  | notJson (path : String)
  | definition (path : String) (error : BuildError)
  | malformed (label : String)
  deriving DecidableEq

def Failure.message : Failure → String
  | .usage => "invalid arguments"
  | .settings => "failed to load configuration"
  | .unreadable path => "failed to read " ++ path
  | .unreadableInput => "failed to read stdin"
  | .notJson path => path ++ " is not valid JSON"
  | .definition path (.definition report) =>
    "invalid parameter definition in " ++ path ++ ": " ++ report.text
  | .definition path (.settings error) =>
    "invalid parameter definition in " ++ path ++ ": " ++ (BuildError.settings error).text ++ ": " ++
      error.message
  | .malformed label => label ++ ": invalid JSON"

structure Answer where
  status : Nat
  output : String
  failure : Option Failure
  deriving DecidableEq

namespace Answer

def ofOutput (output : String) : Answer := ⟨0, output, none⟩

def ofFailure (failure : Failure) : Answer := ⟨2, "", some failure⟩

end Answer

def versionText : String := "valexp 0.1.0\n"

def helpText : String :=
  "Validate JSON values against an OpenAPI parameter definition\n\n" ++
  "Usage: valexp [OPTIONS] --parameter <FILE> [VALUE_FILE]...\n\n" ++
  "Arguments:\n" ++
  "  [VALUE_FILE]...  Files holding one or more JSON values. Reads stdin when empty or `-`\n\n" ++
  "Options:\n" ++
  "  -p, --parameter <FILE>  Parameter definition file: `\x7b\"name\", \"required\", \"schema\"\x7d`\n" ++
  "  -c, --config <FILE>     TOML settings file [env: VALEXP_CONFIG=]\n" ++
  "  -l, --locale <LOCALE>   Message locale, e.g. `en`, `ja`, `ja-JP`\n" ++
  "      --max-depth <N>     Maximum nesting depth for schemas and values\n" ++
  "      --strict            Reject ambiguous combinators and `required` names missing from `properties`\n" ++
  "  -e, --exec              Print each validated value, defaults applied, instead of `OK`. An absent value with no default prints `<absent>`\n" ++
  "      --absent            Validate an absent value instead of reading input\n" ++
  "      --print-config      Print the effective settings as TOML and exit\n" ++
  "  -h, --help              Print help\n" ++
  "  -V, --version           Print version\n"

def inputLabel : String := "<stdin>"

def absentLabel : String := "<absent>"

structure Source where
  label : String
  text : String

/-- How far a run has come with its values: the session that checks them, what is printed, and
whether all have passed. -/
structure Tally where
  session : Session
  output : String := ""
  passed : Bool := true

namespace Tally

/-- Checks a value and prints a line about it: that it is right, or the value itself if asked for,
or the report that the session keeps. -/
def check (tally : Tally) (exec : Bool) (label : String) (value : Option Json) : Tally :=
  match tally.session.exec value with
  | (some outcome, session) =>
    let line := if exec then outcome.value.elim absentLabel Json.write else "OK"
    { tally with session, output := tally.output ++ line ++ "\n" }
  | (none, session) =>
    let line := session.last.elim "" fun report => label ++ ": " ++ report.text ++ "\n"
    ⟨session, tally.output ++ line, false⟩

def checkSources (tally : Tally) (exec : Bool) : List Source → Tally × Option String
  | [] => (tally, none)
  | source :: rest =>
    let sequence := Json.readAll source.text
    let checked := sequence.values.foldl
      (fun tally value => tally.check exec source.label (some value)) tally
    if sequence.malformed then (checked, some source.label) else checked.checkSources exec rest

def answer (tally : Tally) (malformed : Option String) : Answer where
  status := if malformed.isSome then 2 else if tally.passed then 0 else 1
  output := tally.output
  failure := malformed.map .malformed

end Tally

section

variable {m : Type → Type} [Monad m]

/-- Reads the sources in order. The standard input is read once and empty after that. -/
def readSources (host : Host m) (inputRead : Bool) : List String → m (Except Failure (List Source))
  | [] => return .ok []
  | "-" :: rest => do
    match ← if inputRead then pure (some "") else host.input with
    | none => return .error .unreadableInput
    | some text => return (← readSources host true rest).map (⟨inputLabel, text⟩ :: ·)
  | path :: rest => do
    match ← host.file path with
    | none => return .error (.unreadable path)
    | some text => return (← readSources host inputRead rest).map (⟨path, text⟩ :: ·)

def loadSettings (host : Host m) (environment : List (String × String)) (arguments : Arguments) :
    m (Option Settings) := do
  let file ← match arguments.config with
    | none => pure (some [])
    | some path => do pure ((← host.file path).bind Toml.read?)
  return file.bind fun layer =>
    Settings.ofLayers? [layer, Settings.environmentLayer "VALEXP_" environment, arguments.layer]

def processLocale (environment : List (String × String)) : Locale :=
  ((environment.lookup "OAS_VALEXP_LANG").bind Locale.ofTag?).getD .default

def loadSession (host : Host m) (process : Locale) (settings : Settings) (path : String) :
    m (Except Failure Session) := do
  match ← host.file path with
  | none => return .error (.unreadable path)
  | some text =>
    match Json.read? text with
    | none => return .error (.notJson path)
    | some raw =>
      return (Session.withSettings process settings raw).result.mapError (.definition path)

/-- Checks the values that the arguments name, or the absent one. All sources are read first. -/
def checkValues (host : Host m) (arguments : Arguments) (session : Session) : m Answer := do
  if arguments.absent then
    return (Tally.check ⟨session, "", true⟩ arguments.exec absentLabel none).answer none
  else
    let paths := if arguments.values.isEmpty then ["-"] else arguments.values
    match ← readSources host false paths with
    | .error failure => return .ofFailure failure
    | .ok sources =>
      let (checked, malformed) := Tally.checkSources ⟨session, "", true⟩ arguments.exec sources
      return checked.answer malformed

def run (host : Host m) (environment : List (String × String)) (texts : List String) :
    m Answer := do
  match Arguments.read (environment.lookup "VALEXP_CONFIG") texts with
  | .error .usage => return .ofFailure .usage
  | .error .version => return .ofOutput versionText
  | .error .help => return .ofOutput helpText
  | .ok arguments =>
    match ← loadSettings host environment arguments with
    | none => return .ofFailure .settings
    | some settings =>
      if arguments.printConfig then return .ofOutput settings.toToml
      else
        let path := arguments.parameter.getD ""
        match ← loadSession host (processLocale environment) settings path with
        | .error failure => return .ofFailure failure
        | .ok session => checkValues host arguments session

end

end ParamSchema.CommandLine
