import ParamSchema.Json.Basic
import ParamSchema.Message.Catalog

/-!
# Settings

The locale of messages, the nesting limit, and the two strict checks of
schemas.
-/

set_option autoImplicit false

namespace ParamSchema

structure Settings where
  locale : Option String := none
  maxDepth : Nat := 64
  strictCombinators : Bool := false
  strictRequired : Bool := false
  deriving DecidableEq

inductive SettingsError where
  | invalidLocale (tag : String)
  | zeroDepth
  deriving DecidableEq

def SettingsError.message : SettingsError → String
  | .invalidLocale tag => (CatalogError.invalidLocale tag).message
  | .zeroDepth => "max_depth must be at least 1"

namespace Settings

def strict : Settings := { strictCombinators := true, strictRequired := true }

def resolveLocale (process : Locale) (settings : Settings) : Except SettingsError Locale :=
  if settings.maxDepth = 0 then .error .zeroDepth
  else match settings.locale with
    | none => .ok process
    | some tag =>
      match Locale.ofTag? tag with
      | some locale => .ok locale
      | none => .error (.invalidLocale tag)

def keys : List String := ["locale", "max_depth", "strict_combinators", "strict_required"]

def toJson (settings : Settings) : Json :=
  .object [("locale", settings.locale.elim .null .string),
    ("max_depth", .ofCount settings.maxDepth),
    ("strict_combinators", .bool settings.strictCombinators),
    ("strict_required", .bool settings.strictRequired)]

/-- A depth: an unsigned integer as written, not a double. -/
def depth? : Json → Option Nat
  | .number (.integer value _) => if 0 ≤ value then some value.toNat else none
  | _ => none

def set? (settings : Settings) : String × Json → Option Settings
  | ("locale", .null) => some { settings with locale := none }
  | ("locale", .string tag) => some { settings with locale := some tag }
  | ("max_depth", value) => (depth? value).map fun depth => { settings with maxDepth := depth }
  | ("strict_combinators", .bool flag) => some { settings with strictCombinators := flag }
  | ("strict_required", .bool flag) => some { settings with strictRequired := flag }
  | _ => none

/-- The settings of a document: an object of known keys, or a list of values in their order.
What is left out keeps its default. -/
def ofJson? : Json → Option Settings
  | .object members => members.foldlM set? {}
  | .array items =>
    if items.length ≤ keys.length then (keys.zip items).foldlM set? {} else none
  | _ => none

def unsigned? (text : String) : Option Nat :=
  -- One plus sign is allowed, no minus.
  let digits := match text.toList with
    | '+' :: rest => rest
    | chars => chars
  if digits.isEmpty ∨ ¬ digits.all Char.isDigit then none
  else
    let value := Json.decimalValue digits
    if value ≤ Json.maxCount then some value else none

/-- The defaults overridden by the environment: a locale, a depth, and a word that sets both
strict checks. A depth that is no number is ignored. -/
def ofEnvironment (lookup? : String → Option String) : Settings :=
  let locale := lookup? "OAS_VALEXP_LANG"
  let depth := (lookup? "OAS_VALEXP_MAX_DEPTH").bind unsigned?
  let strict := (lookup? "OAS_VALEXP_STRICT").any fun word =>
    ["1", "true", "yes"].contains word.toLower
  { locale, maxDepth := depth.getD 64, strictCombinators := strict, strictRequired := strict }

end Settings

end ParamSchema
