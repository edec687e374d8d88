import ParamSchema.Json.Printer
import ParamSchema.Message.Catalog
import ParamSchema.Message.Template
import ParamSchema.Violation.Basic

/-!
# Reports

A reporter turns violations into messages of its locale, taking each template
from the first fallback of the locale that has one.
-/

set_option autoImplicit false

namespace ParamSchema

structure Reporter where
  catalog : Catalog
  locale : Locale

structure Report where
  path : String
  code : Code
  message : String
  params : List (String × String)
  deriving DecidableEq

namespace Reporter

def ofLocale (locale : Locale) : Reporter := ⟨.bundled, locale⟩

/-- The template for a code, or the name of the code if no fallback has one. -/
def template (reporter : Reporter) (code : Code) : String :=
  (reporter.locale.fallbacks.findSome? (reporter.catalog.template? · code)).getD code.name

def message (reporter : Reporter) (violation : Violation) : String :=
  Template.substitute (reporter.template violation.code) violation.path.text violation.params

def report (reporter : Reporter) (violation : Violation) : Report where
  path := violation.path.text
  code := violation.code
  message := reporter.message violation
  params := violation.params

end Reporter

namespace Report

def text (report : Report) : String :=
  "[" ++ report.path ++ "] " ++ report.code.name ++ ": " ++ report.message

def param? (report : Report) (key : String) : Option String := report.params.lookup key

def toJson (report : Report) : Json :=
  .object [("path", .string report.path), ("code", .string report.code.name),
    ("message", .string report.message),
    ("params", .object (report.params.map fun (key, value) => (key, .string value)))]

end Report

end ParamSchema
