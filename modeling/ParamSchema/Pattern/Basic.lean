import ParamSchema.Pattern.Dialect
import ParamSchema.Pattern.Meaning

/-!
# Patterns

A pattern as a schema writes it, together with its expression. A text matches
if some part of it does.
-/

set_option autoImplicit false

namespace ParamSchema

structure Pattern where
  source : String
  regex : Pattern.Regex Pattern.Atom
  compiled : Pattern.Regex.ofText? (Pattern.adapt source) = some regex

namespace Pattern

def compile? (source : String) : Option Pattern :=
  match compiled : Regex.ofText? (adapt source) with
  | some regex => some ⟨source, regex, compiled⟩
  | none => none

def isMatch (pattern : Pattern) (text : String) : Bool := pattern.regex.isMatch text.toList

def text (pattern : Pattern) : String := "/" ++ pattern.source ++ "/"

end Pattern

end ParamSchema
