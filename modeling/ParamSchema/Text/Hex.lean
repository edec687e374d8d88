/-!
# Characters by code point

A character is known by its code point, which texts write in hexadecimal digits. White space is a
set of code points, and the length of a text counts the 16-bit units that encode it: two for a
character beyond U+FFFF, one for every other.
-/

set_option autoImplicit false

namespace ParamSchema.Text

def hexDigit? (c : Char) : Option Nat :=
  if c.isDigit then some (c.toNat - '0'.toNat)
  else if 'a' ≤ c ∧ c ≤ 'f' then some (c.toNat - 'a'.toNat + 10)
  else if 'A' ≤ c ∧ c ≤ 'F' then some (c.toNat - 'A'.toNat + 10)
  else none

def charOfCode? (code : Nat) : Option Char :=
  if code.isValidChar then some (Char.ofNat code) else none

/-- The ranges of the Unicode property White_Space, by code point, ends included. -/
def blankRanges : List (Nat × Nat) :=
  [(0x09, 0x0D), (0x20, 0x20), (0x85, 0x85), (0xA0, 0xA0), (0x1680, 0x1680), (0x2000, 0x200A),
    (0x2028, 0x2029), (0x202F, 0x202F), (0x205F, 0x205F), (0x3000, 0x3000)]

def isBlank (c : Char) : Bool :=
  blankRanges.any fun range => decide (range.1 ≤ c.toNat ∧ c.toNat ≤ range.2)

def unitsOfChar (c : Char) : Nat := if c.toNat < 0x10000 then 1 else 2

def units16 (text : String) : Nat := text.toList.foldr (fun c units => unitsOfChar c + units) 0

end ParamSchema.Text
