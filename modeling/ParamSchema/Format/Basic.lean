import ParamSchema.Binary64.Basic
import ParamSchema.Format.DateTime

/-!
# Formats

The formats that strings and integers can be held to. Bytes are written in the
standard alphabet of base64 in groups of four, the last one padded with `=`; the
bits that padding leaves unused are zero.
-/

set_option autoImplicit false

namespace ParamSchema

namespace Format

def sextet? (c : Char) : Option Nat :=
  if 'A' ≤ c ∧ c ≤ 'Z' then some (c.toNat - 'A'.toNat)
  else if 'a' ≤ c ∧ c ≤ 'z' then some (c.toNat - 'a'.toNat + 26)
  else if c.isDigit then some (c.toNat - '0'.toNat + 52)
  else if c = '+' then some 62
  else if c = '/' then some 63
  else none

def isBase64 : List Char → Bool
  | [] => true
  | [a, b, '=', '='] => (sextet? a).isSome && (sextet? b).any fun bits => bits % 16 == 0
  | [a, b, c, '='] =>
    (sextet? a).isSome && (sextet? b).isSome && (sextet? c).any fun bits => bits % 4 == 0
  | a :: b :: c :: d :: rest =>
    (sextet? a).isSome && (sextet? b).isSome && (sextet? c).isSome && (sextet? d).isSome &&
      isBase64 rest
  | _ => false

end Format

inductive StringFormat where
  | dateTime
  | date
  | time
  | byte
  deriving DecidableEq

namespace StringFormat

def name : StringFormat → String
  | .dateTime => "date-time"
  | .date => "date"
  | .time => "time"
  | .byte => "byte"

def ofName? (name : String) : Option StringFormat :=
  [dateTime, date, time, byte].find? fun format => format.name == name

def read (format : StringFormat) (text : String) : Except Text.OutOfRange Bool :=
  match format with
  | .dateTime => Format.readDateTime (Text.bytes text)
  | .date => Format.readDate (Text.bytes text)
  | .time => Format.readTime (Text.bytes text)
  | .byte => .ok (Format.isBase64 text.toList)

def accepts (format : StringFormat) (text : String) : Bool :=
  match format.read text with
  | .ok accepted => accepted
  | .error _ => false

end StringFormat

inductive IntegerFormat where
  | int32
  | int64
  deriving DecidableEq

namespace IntegerFormat

def name : IntegerFormat → String
  | .int32 => "int32"
  | .int64 => "int64"

def ofName? (name : String) : Option IntegerFormat :=
  [int32, int64].find? fun format => format.name == name

/-- The least and the greatest value; `int64` stops where doubles skip integers. -/
def bounds : IntegerFormat → Int × Int
  | .int32 => (-2 ^ (31 : Nat), 2 ^ (31 : Nat) - 1)
  | .int64 => (-(2 ^ (53 : Nat) - 1), 2 ^ (53 : Nat) - 1)

def accepts (format : IntegerFormat) (x : Binary64) : Bool :=
  decide (format.bounds.1 * Binary64.one ≤ x.signedUnits ∧
    x.signedUnits ≤ format.bounds.2 * Binary64.one)

end IntegerFormat

end ParamSchema
