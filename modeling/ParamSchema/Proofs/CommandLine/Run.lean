import ParamSchema.CommandLine.Run
import ParamSchema.Proofs.Json.Reader
import ParamSchema.Proofs.Parameter
import ParamSchema.Proofs.Session
import ParamSchema.Proofs.Validation.Congruence

/-!
# What a run prints

A run checks the values of its sources with one session, which keeps the report of every
rejected value for the next line. The lines are nevertheless those that a session would
print that was loaded for the one value alone, no value is left out, and the status tells
the worst that happened. The requests that a run makes of its host are kept in order.
-/

set_option autoImplicit false

namespace ParamSchema.CommandLine

open Results

/-- The texts of the files and of the standard input, where they can be read as text. They stay as
they are during a run. -/
structure World where
  file : String → Option String
  input : Option String

inductive Request where
  | file (path : String)
  | input
  deriving DecidableEq

structure Record where
  text : String
  passed : Bool

def Record.line (record : Record) : String := record.text ++ "\n"

def record (session : Session) (exec : Bool) (label : String) (value : Option Json) : Record :=
  match (session.validate value).result with
  | .ok outcome => ⟨if exec then outcome.value.elim "<absent>" Json.write else "OK", true⟩
  | .error report =>
    ⟨label ++ ": [" ++ report.path ++ "] " ++ report.code.name ++ ": " ++ report.message, false⟩

namespace Source

def values (source : Source) : List Json := (Json.readAll source.text).values

def malformed (source : Source) : Bool := (Json.readAll source.text).malformed

def valuesMet : List Source → List (String × Json)
  | [] => []
  | source :: rest => source.values.map (source.label, ·) ++
    if source.malformed then [] else valuesMet rest

end Source

theorem Source.keysDistinct_of_valuesMet {sources : List Source} {label : String} {value : Json}
    (h : (label, value) ∈ Source.valuesMet sources) : value.KeysDistinct := by
  induction sources with
  | nil => cases h
  | cons source rest ih =>
    rw [Source.valuesMet, List.mem_append] at h
    rcases h with hOwn | hLater
    · obtain ⟨_, hValue, hEq⟩ := List.mem_map.mp hOwn
      cases hEq
      exact Json.keysDistinct_of_readAll hValue
    · split at hLater
      · cases hLater
      · exact ih hLater

namespace Arguments

def sources (arguments : Arguments) : List String :=
  if arguments.values.isEmpty then ["-"] else arguments.values

theorem exists_parameter_of_read {configVariable : Option String} {texts : List String}
    {arguments : Arguments} (h : read configVariable texts = .ok arguments) :
    ∃ path, arguments.parameter = some path := by
  obtain ⟨first, -, h⟩ := bind_eq_ok.mp h
  have hChecked : ∃ found : Arguments,
      (if found.parameter.isNone || (found.absent && !found.values.isEmpty) then .error .usage
        else .ok found : Except Exit Arguments) = .ok arguments := by
    dsimp only at h
    split at h
    · obtain ⟨found, -, h⟩ := bind_eq_ok.mp h
      exact ⟨found, h⟩
    · exact ⟨first, h⟩
  obtain ⟨found, hFound⟩ := hChecked
  split at hFound
  · cases hFound
  · rename_i hNot
    cases hFound
    rw [← Option.ne_none_iff_exists']
    intro hNone
    exact hNot (by simp [hNone])

end Arguments

namespace World

def host (world : World) : Host (StateM (List Request)) where
  file path := do
    modify (· ++ [.file path])
    return world.file path
  input := do
    modify (· ++ [.input])
    return world.input

def run (world : World) (environment : List (String × String)) (texts : List String) :
    Answer × List Request :=
  StateT.run (CommandLine.run world.host environment texts) []

def text? (world : World) (path : String) : Option String :=
  if path = "-" then world.input else world.file path

def withInputRead (world : World) (inputRead : Bool) : World :=
  if inputRead then { world with input := some "" } else world

def sources? (world : World) : List String → Option (List Source)
  | [] => some []
  | path :: rest => do
    let text ← world.text? path
    let others ← (world.withInputRead (path == "-")).sources? rest
    return ⟨if path = "-" then "<stdin>" else path, text⟩ :: others

def settings? (world : World) (environment : List (String × String)) (arguments : Arguments) :
    Option Settings := do
  let layer ← arguments.config.elim (some []) fun path => (world.file path).bind Toml.read?
  Settings.ofLayers? [layer, Settings.environmentLayer "VALEXP_" environment, arguments.layer]

/-- The session that settings and definition give, if both can be loaded. -/
def session? (world : World) (environment : List (String × String)) (arguments : Arguments) :
    Option Session := do
  let settings ← world.settings? environment arguments
  let path ← arguments.parameter
  let text ← world.file path
  let raw ← Json.read? text
  (Session.withSettings (processLocale environment) settings raw).result.toOption

end World

section

variable {session : Session} {exec : Bool} {label : String} {value : Option Json}

theorem record_of_accepted {outcome : Outcome} (h : session.verdict value = .ok outcome) :
    record session exec label value =
      ⟨if exec then outcome.value.elim absentLabel Json.write else "OK", true⟩ := by
  rw [record, Session.result_validate, h]
  rfl

theorem record_of_rejected {violation : Violation} (h : session.verdict value = .error violation) :
    record session exec label value =
      ⟨label ++ ": " ++ (session.reporter.report violation).text, false⟩ := by
  have hMark : ": [" = ": " ++ "[" := rfl
  rw [record, Session.result_validate, mapError_eq_error.mpr ⟨violation, h, rfl⟩, Report.text, hMark]
  simp only [String.append_assoc]

theorem passed_record : (record session exec label value).passed = true ↔
    ∃ outcome, session.verdict value = .ok outcome := by
  cases hVerdict : session.verdict value with
  | ok outcome =>
    rw [record_of_accepted hVerdict]
    exact ⟨fun _ => ⟨outcome, rfl⟩, fun _ => rfl⟩
  | error violation =>
    rw [record_of_rejected hVerdict]
    exact ⟨nofun, nofun⟩

theorem record_absent (hRequired : session.parameter.required = false) :
    record session true label none =
      ⟨session.parameter.schema.default?.elim "<absent>" Json.write, true⟩ := by
  have hVerdict : session.verdict none = .ok ⟨session.parameter.schema.default?, none⟩ := by
    simp [Session.verdict, Parameter.verdict, Parameter.check, Schema.checkAt, Schema.validate,
      hRequired, Except.map]
  rw [record_of_accepted hVerdict]
  rfl

end

/-- An answer prints some records and tells the worst of them; a malformed text is worse still. -/
structure Answer.Reports (answer : Answer) (records : List Record) (malformed : Bool) : Prop where
  output : answer.output = String.join (records.map Record.line)
  status : answer.status = if malformed then 2 else if records.all Record.passed then 0 else 1

structure Answer.Fails (answer : Answer) : Prop where
  output : answer.output = ""
  status : answer.status = 2

namespace Tally

theorem check_eq (session : Session) (last : Option Report) (output : String) (passed exec : Bool)
    (label : String) (value : Option Json) :
    Tally.check ⟨{ session with last }, output, passed⟩ exec label value =
      ⟨{ session with last := session.finding session.reporter value },
        output ++ (record session exec label value).line,
        passed && (record session exec label value).passed⟩ := by
  have hVerdict : ({ session with last } : Session).verdict = session.verdict := rfl
  cases hFound : session.verdict value with
  | ok outcome =>
    simp [check, Session.exec_eq, Session.finding, hVerdict, hFound, record_of_accepted hFound,
      Except.toOption, Record.line, String.append_assoc]
  | error violation =>
    simp [check, Session.exec_eq, Session.finding, hVerdict, hFound, record_of_rejected hFound,
      Except.toOption, Record.line, String.append_assoc]

/-- What a tally has come to after some records. The report that its session keeps is left open:
no later record depends on it. -/
structure Tells (session : Session) (records : List Record) (tally : Tally) : Prop where
  session : ∃ last, tally.session = { session with last }
  output : tally.output = String.join (records.map Record.line)
  passed : tally.passed = records.all Record.passed

variable {session : Session} {records : List Record} {tally : Tally}

theorem Tells.check (h : tally.Tells session records) (exec : Bool) (label : String)
    (value : Option Json) : (tally.check exec label value).Tells session
      (records ++ [record session exec label value]) := by
  obtain ⟨own, output, passed⟩ := tally
  obtain ⟨⟨last, rfl⟩, rfl, rfl⟩ := h
  rw [check_eq]
  exact ⟨⟨_, rfl⟩, by simp, by simp⟩

theorem Tells.checkValues (h : tally.Tells session records) (exec : Bool) (label : String)
    (values : List Json) :
    (values.foldl (fun tally value => tally.check exec label (some value)) tally).Tells session
      (records ++ values.map fun value => record session exec label (some value)) := by
  induction values generalizing tally records with
  | nil => simpa using h
  | cons value rest ih => simpa using ih (h.check exec label (some value))

theorem Tells.reports (h : tally.Tells session records) (malformed : Option String) :
    (tally.answer malformed).Reports records malformed.isSome where
  output := h.output
  status := by rw [Tally.answer, h.passed]

theorem tells_start (session : Session) : Tells session [] ⟨session, "", true⟩ :=
  ⟨⟨session.last, rfl⟩, rfl, rfl⟩

/-- The records of all values that are met, and the label of the source that ends the run. -/
theorem Tells.checkSources (h : tally.Tells session records) (exec : Bool) (sources : List Source) :
    (tally.checkSources exec sources).1.Tells session (records ++ (Source.valuesMet sources).map
      fun value => record session exec value.1 (some value.2)) ∧
    (tally.checkSources exec sources).2 = (sources.find? Source.malformed).map Source.label := by
  induction sources generalizing tally records with
  | nil => exact ⟨by simpa [Source.valuesMet, Tally.checkSources] using h, rfl⟩
  | cons source rest ih =>
    have hValues := h.checkValues exec source.label source.values
    rw [Tally.checkSources, Source.valuesMet, List.find?_cons]
    -- A malformed text ends the run, but only after the values before it have been checked.
    cases hMalformed : source.malformed with
    | true =>
      rw [Source.malformed] at hMalformed
      simp only [hMalformed, if_true]
      exact ⟨by simpa [Source.values, Function.comp_def] using hValues, rfl⟩
    | false =>
      rw [Source.malformed] at hMalformed
      simp only [hMalformed]
      obtain ⟨hRest, hLabel⟩ := ih hValues
      exact ⟨by simpa [Source.values, Function.comp_def] using hRest, hLabel⟩

end Tally

namespace World

variable (world : World) (requests : List Request)

theorem run_file (path : String) :
    (world.host.file path).run requests = pure (world.file path, requests ++ [.file path]) := rfl

theorem run_input : world.host.input.run requests = pure (world.input, requests ++ [.input]) := rfl

theorem run_loadSettings (environment : List (String × String)) (arguments : Arguments) :
    (loadSettings world.host environment arguments).run requests =
      pure (world.settings? environment arguments,
        requests ++ arguments.config.toList.map Request.file) := by
  rw [loadSettings, settings?]
  cases arguments.config with
  | none => simp
  | some path => rfl

theorem withInputRead_or (used used' : Bool) :
    (world.withInputRead used).withInputRead used' = world.withInputRead (used || used') := by
  cases used <;> cases used' <;> rfl

theorem toOption_map_source (source : Source) (result : Except Failure (List Source)) :
    (result.map (source :: ·)).toOption = (do return source :: (← result.toOption)) := by
  cases result <;> rfl

theorem toOption_readSources (inputRead : Bool) (paths : List String) :
    ((readSources world.host inputRead paths).run requests).1.toOption =
      (world.withInputRead inputRead).sources? paths := by
  induction paths generalizing inputRead requests with
  | nil => rfl
  | cons path rest ih =>
    have hRest (used : Bool) (source : Source) (requests : List Request) :
        (((readSources world.host used rest).run requests).1.map (source :: ·)).toOption =
          (do return source :: (← (world.withInputRead used).sources? rest)) := by
      rw [toOption_map_source, ih]
    rw [sources?, withInputRead_or]
    by_cases hPath : path = "-"
    · subst hPath
      -- The host is asked for the standard input once only.
      cases inputRead with
      | true => exact hRest true ⟨inputLabel, ""⟩ requests
      | false =>
        simp only [readSources, Bool.false_eq_true, if_false, StateT.run_bind, run_input, text?,
          withInputRead]
        cases world.input with
        | none => rfl
        | some text => exact hRest true ⟨inputLabel, text⟩ _
    · have hText : (world.withInputRead inputRead).text? path = world.file path := by
        cases inputRead <;> exact if_neg hPath
      have hUsed : (inputRead || path == "-") = inputRead := by simp [hPath]
      rw [hText, hUsed]
      simp only [readSources, hPath, if_false, StateT.run_bind, run_file]
      cases world.file path with
      | none => rfl
      | some text => exact hRest inputRead ⟨path, text⟩ _

theorem isSome_sources?_iff (paths : List String) :
    (world.sources? paths).isSome = true ↔ ∀ path ∈ paths, (world.text? path).isSome = true := by
  induction paths generalizing world with
  | nil => simp [sources?]
  | cons path rest ih =>
    rw [List.forall_mem_cons, sources?]
    cases hText : world.text? path with
    | none => simp
    | some text =>
      have hLater (other : String) :
          ((world.withInputRead (path == "-")).text? other).isSome = (world.text? other).isSome := by
        by_cases hPath : path = "-"
        · subst hPath
          by_cases hOther : other = "-"
          · rw [hOther, hText]
            rfl
          · simp [withInputRead, text?, hOther]
        · simp [withInputRead, hPath]
      simp only [← hLater, ← ih]
      cases (world.withInputRead (path == "-")).sources? rest <;> simp

theorem run_loadSession (process : Locale) (settings : Settings) (path : String) :
    ∃ result, (loadSession world.host process settings path).run requests =
        pure (result, requests ++ [.file path]) ∧ result.toOption = (do
          let text ← world.file path
          let raw ← Json.read? text
          (Session.withSettings process settings raw).result.toOption) := by
  simp only [loadSession, StateT.run_bind, run_file, pure_bind]
  cases world.file path with
  | none => exact ⟨_, rfl, rfl⟩
  | some text =>
    simp only [Option.bind_eq_bind, Option.bind_some]
    cases Json.read? text with
    | none => exact ⟨_, rfl, rfl⟩
    | some raw =>
      refine ⟨_, rfl, ?_⟩
      rw [Option.bind_some]
      cases (Session.withSettings process settings raw).result <;> rfl

section

variable {world} {environment : List (String × String)} {arguments : Arguments}
  {session : Session} (hSession : world.session? environment arguments = some session)

include hSession

theorem keysDistinct_of_session? : session.parameter.schema.KeysDistinct := by
  simp only [session?, Option.bind_eq_bind, Option.bind_eq_some_iff] at hSession
  obtain ⟨settings, -, path, -, text, -, raw, hRaw, hBuilt⟩ := hSession
  cases hResult : (Session.withSettings (processLocale environment) settings raw).result with
  | error error =>
    rw [hResult] at hBuilt
    cases hBuilt
  | ok built =>
    rw [hResult] at hBuilt
    cases hBuilt
    obtain ⟨locale, parameter, -, hParameter, rfl⟩ := Session.withSettings_eq_ok hResult
    obtain ⟨members, rfl, -, hSchema⟩ := Parameter.ofJson_eq_ok hParameter
    exact Schema.keysDistinct_of_readAt
      (Parameter.keysDistinct_schema (Json.keysDistinct_of_read? hRaw)) hSchema

/-- A value that a run meets passes if any other way to write it does, and the values that are
given back for both are the same. -/
theorem outcomes_of_same {sources : List Source} {label : String} {value other : Json}
    (hMet : (label, value) ∈ Source.valuesMet sources) (hSame : value.same other = true) :
    (∀ exec otherLabel, (record session exec label (some value)).passed =
      (record session exec otherLabel (some other)).passed) ∧
    ∀ outcome outcome', session.verdict (some value) = .ok outcome →
      session.verdict (some other) = .ok outcome' →
      ∃ filled filled', outcome.value = some filled ∧ outcome'.value = some filled' ∧
        filled.same filled' = true := by
  have hKeys := Source.keysDistinct_of_valuesMet hMet
  constructor
  · intro exec otherLabel
    rw [Bool.eq_iff_iff, passed_record, passed_record, session.exists_verdict_ok_iff,
      session.exists_verdict_ok_iff]
    exact Schema.exists_checkAt_ok_iff_of_same hKeys hSame
  · intro outcome outcome' h h'
    obtain ⟨checked, hChecked, rfl⟩ := map_eq_ok.mp h
    obtain ⟨checked', hChecked', rfl⟩ := map_eq_ok.mp h'
    exact Schema.same_of_checkAt_of_same (keysDistinct_of_session? hSession) hKeys hSame hChecked
      hChecked'

end

def loading (arguments : Arguments) : List Request :=
  arguments.config.toList.map .file ++ arguments.parameter.toList.map .file

section

variable {world} {environment : List (String × String)} {texts : List String}
  {arguments : Arguments}
  (hArguments : Arguments.read (environment.lookup "VALEXP_CONFIG") texts = .ok arguments)
  (hPrint : arguments.printConfig = false)

include hArguments hPrint

theorem run_cases :
    (world.session? environment arguments = none ∧
      ∃ failure, (world.run environment texts).1 = .ofFailure failure) ∨
    ∃ session, world.session? environment arguments = some session ∧
      world.run environment texts =
        (checkValues world.host arguments session).run (loading arguments) := by
  obtain ⟨path, hPath⟩ := Arguments.exists_parameter_of_read hArguments
  simp only [session?, run, CommandLine.run, hArguments, StateT.run_bind, run_loadSettings,
    pure_bind, List.nil_append]
  cases world.settings? environment arguments with
  | none => exact .inl ⟨rfl, _, rfl⟩
  | some settings =>
    obtain ⟨result, hRun, hResult⟩ := world.run_loadSession
      (arguments.config.toList.map .file) (processLocale environment) settings path
    simp only [hPrint, hPath, Option.getD_some, StateT.run_bind, hRun, pure_bind,
      Bool.false_eq_true, if_false]
    cases result with
    | error failure => exact .inl ⟨hResult.symm, failure, rfl⟩
    | ok session =>
      refine .inr ⟨session, hResult.symm, ?_⟩
      rw [loading, hPath]
      rfl

end

section

variable {arguments : Arguments} (session : Session)

theorem run_checkValues_absent (hAbsent : arguments.absent = true) :
    ∃ answer, (checkValues world.host arguments session).run requests = (answer, requests) ∧
      answer.Reports [record session arguments.exec absentLabel none] false := by
  rw [checkValues, if_pos hAbsent]
  refine ⟨_, rfl, ?_⟩
  exact ((Tally.tells_start session).check arguments.exec absentLabel none).reports none

theorem run_checkValues_sources (hAbsent : arguments.absent = false) :
    ((checkValues world.host arguments session).run requests).1 =
      match ((readSources world.host false arguments.sources).run requests).1 with
      | .error failure => .ofFailure failure
      | .ok sources =>
        (Tally.checkSources ⟨session, "", true⟩ arguments.exec sources).1.answer
          (Tally.checkSources ⟨session, "", true⟩ arguments.exec sources).2 := by
  simp only [checkValues, hAbsent, Bool.false_eq_true, if_false, StateT.run_bind,
    Arguments.sources]
  generalize (readSources world.host false _).run requests = read
  obtain ⟨result, after⟩ := read
  cases result <;> rfl

theorem checkValues_fails (hAbsent : arguments.absent = false)
    (hSources : world.sources? arguments.sources = none) :
    ((checkValues world.host arguments session).run requests).1.Fails := by
  have hRead := (world.toOption_readSources requests false arguments.sources).trans hSources
  rw [run_checkValues_sources world requests session hAbsent]
  generalize ((readSources world.host false arguments.sources).run requests).1 = result at hRead ⊢
  cases result with
  | error failure => exact ⟨rfl, rfl⟩
  | ok sources => cases hRead

theorem checkValues_reports (hAbsent : arguments.absent = false) {sources : List Source}
    (hSources : world.sources? arguments.sources = some sources) :
    ((checkValues world.host arguments session).run requests).1.Reports
      ((Source.valuesMet sources).map fun value =>
        record session arguments.exec value.1 (some value.2)) (sources.any Source.malformed) := by
  have hRead := (world.toOption_readSources requests false arguments.sources).trans hSources
  rw [run_checkValues_sources world requests session hAbsent]
  generalize ((readSources world.host false arguments.sources).run requests).1 = result at hRead ⊢
  cases result with
  | error failure => cases hRead
  | ok found =>
    obtain rfl : found = sources := Option.some.inj hRead
    obtain ⟨hTells, hLabel⟩ := (Tally.tells_start session).checkSources arguments.exec found
    have hAny : (Tally.checkSources ⟨session, "", true⟩ arguments.exec found).2.isSome =
        found.any Source.malformed := by
      rw [hLabel, Option.isSome_map, Bool.eq_iff_iff, List.find?_isSome, List.any_eq_true]
    rw [← hAny]
    exact hTells.reports _

end

/-- A run whose settings or definition cannot be loaded, or that has a source that cannot be read,
prints nothing. Else it prints one record for each value that it meets before a text is malformed,
the one that the session as loaded would print for the value alone, and its status is that of the
worst. For an absent value it reads no sources and prints one record. -/
theorem run_reports_every_value {world : World} {environment : List (String × String)}
    {texts : List String} {arguments : Arguments}
    (hArguments : Arguments.read (environment.lookup "VALEXP_CONFIG") texts = .ok arguments)
    (hPrint : arguments.printConfig = false) :
    ∃ answer requests, world.run environment texts = (answer, requests) ∧
      (world.session? environment arguments = none → answer.Fails) ∧
      ∀ session, world.session? environment arguments = some session →
        (∀ label value, (Tally.check ⟨session, "", true⟩ arguments.exec label value).output =
          (record session arguments.exec label value).line) ∧
        (arguments.absent = true → requests = loading arguments ∧
          answer.Reports [record session arguments.exec "<absent>" none] false ∧
          (arguments.exec = true → session.parameter.required = false → answer.output =
            session.parameter.schema.default?.elim "<absent>" Json.write ++ "\n")) ∧
        (arguments.absent = false →
          ((∃ path ∈ arguments.sources, world.text? path = none) → answer.Fails) ∧
          ((∀ path ∈ arguments.sources, (world.text? path).isSome = true) →
            ∃ sources, world.sources? arguments.sources = some sources ∧ answer.Reports
              ((Source.valuesMet sources).map fun value =>
                record session arguments.exec value.1 (some value.2))
              (sources.any Source.malformed))) := by
  refine ⟨(world.run environment texts).1, (world.run environment texts).2, rfl, ?_⟩
  rcases run_cases hArguments hPrint with ⟨hNone, failure, hFailure⟩ | ⟨session, hSession, hRun⟩
  · -- Nothing is loaded, so there is no session to speak of.
    rw [hNone, hFailure]
    refine ⟨fun _ => ⟨rfl, rfl⟩, ?_⟩
    rintro session ⟨⟩
  rw [hSession, hRun]
  refine ⟨nofun, ?_⟩
  rintro _ ⟨⟩
  refine ⟨?_, fun hAbsent => ?_, fun hAbsent => ⟨?_, ?_⟩⟩
  · intro label value
    have hCheck := (Tally.tells_start session).check arguments.exec label value
    simpa using hCheck.output
  · obtain ⟨answer, hAnswer, hReports⟩ :=
      world.run_checkValues_absent (loading arguments) session hAbsent
    rw [hAnswer]
    refine ⟨rfl, hReports, fun hExec hRequired => ?_⟩
    rw [hReports.output, hExec, record_absent hRequired]
    simp [Record.line]
  · rintro ⟨path, hPath, hText⟩
    apply checkValues_fails world _ session hAbsent
    rw [← Option.not_isSome_iff_eq_none, isSome_sources?_iff]
    intro hAll
    have hRead := hAll path hPath
    rw [hText] at hRead
    cases hRead
  · intro hAll
    rw [← isSome_sources?_iff] at hAll
    obtain ⟨sources, hSources⟩ := Option.isSome_iff_exists.mp hAll
    exact ⟨sources, hSources, checkValues_reports world _ session hAbsent hSources⟩

/-- A value that passes and one that does not, before a text that breaks off, and a standard input
that the run does not come to. -/
theorem run_reports_before_malformed_text :
    let definition := "\x7b\"name\":\"n\",\"schema\":\x7b\"type\":\"boolean\"\x7d\x7d"
    let world : World := ⟨fun path =>
      if path = "p" then some definition else if path = "v" then some "true null [" else none,
      some "false"⟩
    let session : Session := ⟨⟨"n", false, .boolean {}⟩, {}, .ofLocale .default, none⟩
    (world.run [] ["-p", "p", "v", "-"]).1.status = 2 ∧
      (world.run [] ["-p", "p", "v", "-"]).1.output =
        "OK\n" ++ (record session false "v" (some .null)).line := by
  intro definition world session
  let arguments : Arguments := { parameter := some "p", values := ["v", "-"] }
  have hArguments : Arguments.read none ["-p", "p", "v", "-"] = .ok arguments := rfl
  have hTokens : Json.tokens definition = [.openObject, .text "name", .colon, .text "n", .comma,
      .text "schema", .colon, .openObject, .text "type", .colon, .text "boolean", .closeObject,
      .closeObject] := by
    simp [definition, Json.tokens, Json.scanFrom, Json.Scan.step, Json.Scan.outside, Json.isBlank,
      Json.Scan.finish, Json.charsOfUnits?]
  have hSession : world.session? [] arguments = some session := by
    change ((Json.read? definition).bind fun raw =>
      (Session.withSettings .default {} raw).result.toOption) = some session
    rw [Json.read?, hTokens]
    rfl
  obtain ⟨answer, requests, hRun, -, hLoaded⟩ :=
    @run_reports_every_value world [] _ arguments hArguments rfl
  obtain ⟨-, -, hSources⟩ := hLoaded session hSession
  obtain ⟨sources, hRead, hReports⟩ := (hSources rfl).2 (by decide)
  obtain rfl : [⟨"v", "true null ["⟩, ⟨"<stdin>", "false"⟩] = sources := Option.some.inj hRead
  rw [hRun]
  have hMet : Source.valuesMet [⟨"v", "true null ["⟩, ⟨"<stdin>", "false"⟩] =
      [("v", .bool true), ("v", .null)] := rfl
  refine ⟨hReports.status, ?_⟩
  rw [hReports.output, hMet]
  rfl

end World

end ParamSchema.CommandLine
