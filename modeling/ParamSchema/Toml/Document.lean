import ParamSchema.Toml.Value

/-!
# TOML documents

A document defines values and tables by their paths. No path can be defined
twice, and only a table can have paths below it.
-/

set_option autoImplicit false

namespace ParamSchema.Toml

inductive Kind where
  | value (value : Value)
  | table
  | element

abbrev Definition := List String × Kind

def Kind.isTable : Kind → Bool
  | .value _ => false
  | _ => true

/-- A path of a value in a table: not above any other path, and below no value and no other
table that has a header. -/
def defineValue? (defined : List Definition) (table path : List String) (value : Value) :
    Option (List Definition) :=
  let full := table ++ path
  if defined.all fun (other, kind) => !full.isPrefixOf other &&
      (!other.isPrefixOf full || kind.isTable && decide (other.length ≤ table.length)) then
    some ((full, .value value) :: defined)
  else none

def hasHeaderBetween (defined : List Definition) (path below : List String) : Bool :=
  defined.any fun (other, kind) =>
    kind.isTable && path.isPrefixOf other && other != path && other.isPrefixOf below

/-- A path of a table: not defined yet, below tables only, and above no value but those of other
tables that have a header. -/
def defineTable? (defined : List Definition) (path : List String) : Option (List Definition) :=
  if defined.all fun (other, kind) =>
      other != path && (!other.isPrefixOf path || kind.isTable) &&
        (!path.isPrefixOf other || kind.isTable || hasHeaderBetween defined path other) then
    some ((path, .table) :: defined)
  else none

/-- One more table of an array of tables; what the one before it defines is closed. -/
def defineElement? (defined : List Definition) (path : List String) : Option (List Definition) :=
  if defined.any fun (other, kind) => other == path && kind matches .element then
    some ((path, .element) :: defined.filter fun (other, _) => !path.isPrefixOf other)
  else if defined.all fun (other, kind) =>
      !path.isPrefixOf other && (!other.isPrefixOf path || kind.isTable) then
    some ((path, .element) :: defined)
  else none

def header? (close : List Char) (text : List Char) : Option (List String × List Char) := do
  let (path, rest) ← key? [] text
  if close.isPrefixOf rest then some (path, rest.drop close.length) else none

def line? (defined : List Definition) (table : List String) (text : List Char) :
    Option (List Definition × List String × List Char) := do
  match skipBlanks text with
  | '[' :: '[' :: rest =>
    let (path, rest) ← header? [']', ']'] rest
    return (← defineElement? defined path, path, ← endLine? rest)
  | '[' :: rest =>
    let (path, rest) ← header? [']'] rest
    return (← defineTable? defined path, path, ← endLine? rest)
  | rest =>
    match endLine? rest with
    | some rest => return (defined, table, rest)
    | none =>
      let (path, value, rest) ← pair? value? rest
      return (← defineValue? defined table path value, table, ← endLine? rest)

def lines? (defined : List Definition) (table : List String) (text : List Char) :
    Option (List Definition) :=
  if text.isEmpty then some defined
  else
    match line? defined table text with
    | none => none
    | some (defined, table, rest) =>
      if rest.length < text.length then lines? defined table rest else none
  termination_by text.length

def topValue : Definition → Option (String × Value)
  | ([key], .value value) => some (key, value)
  -- Tables are known to be there; what they hold is of no use here.
  | (key :: _, _) => some (key, .other)
  | ([], _) => none

def read? (text : String) : Option (List (String × Value)) :=
  let chars := match text.toList with
    | '\ufeff' :: rest => rest
    | chars => chars
  (lines? [] [] chars).map fun defined => defined.reverse.filterMap topValue

end ParamSchema.Toml
