import ParamSchema.CommandLine.Environment
import ParamSchema.Settings
import ParamSchema.Toml.Document
import ParamSchema.Toml.Printer

/-!
# Layered settings

Settings are collected from several layers, of which a later one wins key by
key. Only then the keys and the types of the values are checked.
-/

set_option autoImplicit false

namespace ParamSchema

namespace Settings

/-- Values by key, later ones overriding earlier ones. -/
abbrev Layer := List (String × Toml.Value)

def setValue? (settings : Settings) : String × Toml.Value → Option Settings
  | ("locale", .string tag) => some { settings with locale := some tag }
  | ("max_depth", .integer depth) =>
    if 0 ≤ depth then some { settings with maxDepth := depth.toNat } else none
  | ("strict_combinators", .boolean flag) => some { settings with strictCombinators := flag }
  | ("strict_required", .boolean flag) => some { settings with strictRequired := flag }
  | _ => none

def ofLayers? (layers : List Layer) : Option Settings :=
  let merged := layers.flatten.foldl (fun merged (key, value) => Members.insert key value merged)
    ([] : Layer)
  merged.foldlM setValue? {}

/-- The settings that the variables with a prefix give. Names are compared without case. -/
def environmentLayer (start : String) (environment : List (String × String)) : Layer :=
  keys.filterMap fun key =>
    let name := (start ++ key).toLower
    (environment.find? fun entry => entry.1.toLower == name).map fun entry =>
      (key, CommandLine.typed entry.2)

def toToml (settings : Settings) : String :=
  let line (key value : String) := key ++ " = " ++ value ++ "\n"
  settings.locale.elim "" (fun tag => line "locale" (Toml.quote tag)) ++
    line "max_depth" (toString settings.maxDepth) ++
    line "strict_combinators" (toString settings.strictCombinators) ++
    line "strict_required" (toString settings.strictRequired)

end Settings

end ParamSchema
