/-!
# Locales

A locale tag is a language of two small letters, `ja`, and maybe a region of
two capitals, `ja-JP`.
-/

set_option autoImplicit false

namespace ParamSchema

namespace Locale

def isSmall (c : Char) : Bool := decide ('a' ≤ c ∧ c ≤ 'z')

def isCapital (c : Char) : Bool := decide ('A' ≤ c ∧ c ≤ 'Z')

def isTag : List Char → Bool
  | [a, b] => isSmall a && isSmall b
  | [a, b, '-', c, d] => isSmall a && isSmall b && isCapital c && isCapital d
  | _ => false

end Locale

structure Locale where
  tag : String
  wellFormed : Locale.isTag tag.toList = true
  deriving DecidableEq

namespace Locale

def ofTag? (tag : String) : Option Locale :=
  if wellFormed : isTag tag.toList = true then some ⟨tag, wellFormed⟩ else none

def default : Locale := ⟨"en", by decide⟩

def language (locale : Locale) : String := String.ofList (locale.tag.toList.take 2)

def hasRegion (locale : Locale) : Bool := decide (2 < locale.tag.length)

/-- The tags in which a template is looked up, in order. -/
def fallbacks (locale : Locale) : List String :=
  locale.tag :: (if locale.hasRegion then [locale.language] else []) ++ [default.tag]

end Locale

end ParamSchema
