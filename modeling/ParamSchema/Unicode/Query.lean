import ParamSchema.Unicode.Property
import ParamSchema.Unicode.Script

/-!
# Queries for sets of code points

A query names a property, category or script, or gives a property and a value.
Names are compared without regard to case, blanks, hyphens and underscores.
-/

set_option autoImplicit false

namespace ParamSchema.Unicode

inductive Query where
  | name (text : String)
  | value (property text : String)
  deriving DecidableEq

/-- A name without case, separators, characters beyond ASCII and a leading `is`; `isc` is kept
apart from the category `c`. -/
def foldName (name : String) : String :=
  let folded (chars : List Char) := (chars.filter fun c =>
    decide (c.toNat < 0x80) && c != ' ' && c != '_' && c != '-').map Char.toLower
  match name.toList with
  | i :: s :: rest =>
    if i.toLower = 'i' ∧ s.toLower = 's' then
      if folded rest = ['c'] then "isc" else String.ofList (folded rest)
    else String.ofList (folded (i :: s :: rest))
  | chars => String.ofList (folded chars)

def ofCategoryName? (name : String) : Option CodeSet :=
  if name = "any" then some (.compl .empty)
  else if name = "ascii" then some (.ranges [(0, 0x7F)])
  else if name = "assigned" then some (.compl (ofCategories ["Cn"]))
  else (categoryNames.find? fun entry => entry.1.contains name).map fun entry => ofCategories entry.2

def scriptCode? (name : String) : Option String :=
  (scriptNames.find? fun entry => entry.2.contains name).map Prod.fst

/-- The set that a query asks for. A bare `cf`, `sc` or `lc` is a category, not a property. -/
def Query.toSet? : Query → Option CodeSet
  | .name text =>
    let name := foldName text
    (ofProperty? name).or ((ofCategoryName? name).or ((scriptCode? name).map ofScript))
  | .value property text =>
    let name := foldName text
    match foldName property with
    | "gc" | "generalcategory" => ofCategoryName? name
    | "sc" | "script" => (scriptCode? name).map ofScript
    | "scx" | "scriptextensions" => (scriptCode? name).map ofExtensions
    | _ => none

def wordSet : CodeSet :=
  .union ((ofProperty? "alphabetic").getD .empty)
    (.union (ofCategories ["Mn", "Mc", "Me", "Nd", "Pc"]) ((ofProperty? "joincontrol").getD .empty))

def alphabeticSet : CodeSet := (ofProperty? "alphabetic").getD .empty

def numericSet : CodeSet := ofCategories ["Nd", "Nl", "No"]

end ParamSchema.Unicode
