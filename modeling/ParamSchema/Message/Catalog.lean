import ParamSchema.Json.Reader
import ParamSchema.Message.English
import ParamSchema.Message.Japanese
import ParamSchema.Message.Locale

/-!
# Message catalogs

A catalog holds templates by locale tag and code. It is built by additions,
and the last write to a tag and a code wins.
-/

set_option autoImplicit false

namespace ParamSchema

/-- The templates of one locale; of several for a code the first counts. -/
abbrev Table := List (Code × String)

structure Catalog where
  tables : List (String × Table)

inductive CatalogError where
  | invalidLocale (tag : String)
  | notObjectOfStrings (tag : String)
  | unknownCode (tag : String) (name : String)
  deriving DecidableEq

def CatalogError.message : CatalogError → String
  | .invalidLocale tag => "invalid locale tag `" ++ tag ++ "`: expected `xx` or `xx-YY`"
  | .notObjectOfStrings tag => "catalog for `" ++ tag ++ "` is not a JSON object of strings"
  | .unknownCode tag name => "catalog for `" ++ tag ++ "` has unknown code `" ++ name ++ "`"

def Locale.parse (tag : String) : Except CatalogError Locale :=
  match Locale.ofTag? tag with
  | some locale => .ok locale
  | none => .error (.invalidLocale tag)

namespace Catalog

def empty : Catalog := ⟨[]⟩

def template? (catalog : Catalog) (tag : String) (code : Code) : Option String :=
  (catalog.tables.lookup tag).bind (List.lookup code)

def tags (catalog : Catalog) : List String :=
  (Members.keys catalog.tables).mergeSort fun a b => decide (a ≤ b)

def isComplete (catalog : Catalog) (tag : String) : Bool :=
  Code.all.all fun code => (catalog.template? tag code).isSome

def write (catalog : Catalog) (tag : String) (table : Table) : Catalog :=
  ⟨Members.insert tag (table ++ (catalog.tables.lookup tag).getD []) catalog.tables⟩

def bundledTables : List (String × Table) :=
  [("en", Code.all.map fun code => (code, Message.english code)),
    ("ja", Code.all.map fun code => (code, Message.japanese code))]

inductive Addition where
  | bundled
  | json (tag : String) (source : String)
  | template (tag : String) (code : Code) (text : String)

def strings? (source : String) : Option (List (String × String)) :=
  ((Json.ofTokens? (Json.tokens source)).bind Json.members?).bind fun members =>
    members.mapM fun (key, value) => value.string?.map (key, ·)

/-- The table of named templates, in which the last of a name comes first. -/
def tableOf (tag : String) (entries : List (String × String)) : Except CatalogError Table :=
  entries.reverse.mapM fun (name, text) =>
    match Code.ofName? name with
    | some code => .ok (code, text)
    | none => .error (.unknownCode tag name)

def add (catalog : Catalog) : Addition → Except CatalogError Catalog
  | .bundled => .ok (bundledTables.foldl (fun catalog (tag, table) => catalog.write tag table) catalog)
  | .json tag source => do
    let locale ← Locale.parse tag
    match strings? source with
    | none => .error (.notObjectOfStrings locale.tag)
    | some entries => return catalog.write locale.tag (← tableOf locale.tag entries)
  | .template tag code text => do
    let locale ← Locale.parse tag
    return catalog.write locale.tag [(code, text)]

def bundled : Catalog := ⟨bundledTables⟩

end Catalog

end ParamSchema
