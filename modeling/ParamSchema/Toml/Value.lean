import ParamSchema.Format.DateTime
import ParamSchema.Power
import ParamSchema.Toml.Text

/-!
# Values in TOML

Strings, integers and booleans are kept. Of all other values only the form is
checked.
-/

set_option autoImplicit false

namespace ParamSchema.Toml

inductive Value where
  | string (value : String)
  | integer (value : Int)
  | boolean (value : Bool)
  | other
  deriving DecidableEq

def isDigits (isDigit : Char → Bool) : List Char → Bool
  | [] => false
  | [c] => isDigit c
  | c :: '_' :: rest => isDigit c && isDigits isDigit rest
  | c :: rest => isDigit c && isDigits isDigit rest

def isWhole (digits : List Char) : Bool :=
  isDigits Char.isDigit digits && (digits.head? != some '0' || digits.length == 1)

def dropSign : List Char → List Char
  | '+' :: rest | '-' :: rest => rest
  | text => text

def valueIn (base : Nat) (digits : List Char) : Nat :=
  (digits.filterMap Text.hexDigit?).foldl (fun n digit => base * n + digit) 0

def integer? (word : List Char) : Option Int :=
  let inBase (base : Nat) (digits : List Char) : Option Int :=
    if isDigits (fun c => (Text.hexDigit? c).any (· < base)) digits then
      some (valueIn base digits) else none
  let value : Option Int := match word with
    | '0' :: 'x' :: digits => inBase 16 digits
    | '0' :: 'o' :: digits => inBase 8 digits
    | '0' :: 'b' :: digits => inBase 2 digits
    | '-' :: digits => if isWhole digits then some (-(valueIn 10 digits : Int)) else none
    | word => if isWhole (dropSign word) then some (valueIn 10 (dropSign word)) else none
  value.filter fun n => decide (-2 ^ (63 : Nat) ≤ n ∧ n < 2 ^ (63 : Nat))

def isExponent : List Char → Bool
  | mark :: rest => (mark == 'e' || mark == 'E') && isDigits Char.isDigit (dropSign rest)
  | [] => false

def isExponentMark (c : Char) : Bool := c == 'e' || c == 'E'

/-- A number with a fraction or an exponent, or one of the names of infinity and no number. -/
def isFloat (word : List Char) : Bool :=
  let word := dropSign word
  word == "inf".toList || word == "nan".toList ||
    let whole := word.takeWhile fun c => c != '.' && !isExponentMark c
    isWhole whole && match word.drop whole.length with
      | '.' :: rest =>
        let fraction := rest.takeWhile fun c => !isExponentMark c
        isDigits Char.isDigit fraction &&
          (rest.length == fraction.length || isExponent (rest.drop fraction.length))
      | rest => isExponent rest

/-- A time of day with any number of decimals; a minute can have a leap second. -/
def isClock : List Char → Bool
  | h1 :: h2 :: ':' :: m1 :: m2 :: ':' :: s1 :: s2 :: rest =>
    ((Format.twoDigits? h1 h2).any (· ≤ 23)) && ((Format.twoDigits? m1 m2).any (· ≤ 59)) &&
      ((Format.twoDigits? s1 s2).any (· ≤ 60)) && match rest with
        | [] => true
        | '.' :: digits => !digits.isEmpty && digits.all Char.isDigit
        | _ => false
  | _ => false

def isOffset : List Char → Bool
  | ['Z'] | ['z'] => true
  | [sign, h1, h2, ':', m1, m2] =>
    (sign == '+' || sign == '-') && (Format.twoDigits? h1 h2).any (· ≤ 23) &&
      (Format.twoDigits? m1 m2).any (· ≤ 59)
  | _ => false

def isMoment (word : List Char) : Bool :=
  isClock word || Format.isDate (word.take 10) && match word.drop 10 with
    | [] => true
    | mark :: rest =>
      let clock := rest.takeWhile fun c => c.isDigit || c == ':' || c == '.'
      (mark == 'T' || mark == 't' || mark == ' ') && isClock clock &&
        (rest.length == clock.length || isOffset (rest.drop clock.length))

def isWordChar (c : Char) : Bool := c.isAlphanum || "_+-.:".toList.contains c

/-- An unquoted value. A blank can join a date and a time. -/
def word? (text : List Char) : Option (Value × List Char) :=
  let first := text.takeWhile isWordChar
  let rest := text.dropWhile isWordChar
  let (word, rest) := match rest with
    | ' ' :: d :: tail =>
      if Format.isDate first && d.isDigit then
        (first ++ ' ' :: (d :: tail).takeWhile isWordChar, (d :: tail).dropWhile isWordChar)
      else (first, rest)
    | _ => (first, rest)
  if word = "true".toList then some (.boolean true, rest)
  else if word = "false".toList then some (.boolean false, rest)
  else match integer? word with
    | some n => some (.integer n, rest)
    | none => if isFloat word || isMoment word then some (.other, rest) else none

def pair? (value : List Char → Option (Value × List Char)) (text : List Char) :
    Option (List String × Value × List Char) := do
  let (path, rest) ← key? [] text
  match rest with
  | '=' :: rest =>
    let (value, rest) ← value (skipBlanks rest)
    return (path, value, rest)
  | _ => none

def items? (value : List Char → Option (Value × List Char)) (text : List Char) :
    Option (List Char) :=
  match skipLines? text with
  | none => none
  | some (']' :: rest) => some rest
  | some start =>
    match (value start).bind fun (_, rest) => skipLines? rest with
    | some (',' :: rest) => if rest.length < text.length then items? value rest else none
    | some (']' :: rest) => some rest
    | _ => none
  termination_by text.length

def compatible (a b : List String) : Bool := !a.isPrefixOf b && !b.isPrefixOf a

def pairs? (value : List Char → Option (Value × List Char)) (paths : List (List String))
    (text : List Char) : Option (List Char) :=
  match pair? value text with
  | none => none
  | some (path, _, rest) =>
    if paths.all (compatible path) then
      match skipBlanks rest with
      | ',' :: rest => if rest.length < text.length then pairs? value (path :: paths) rest else none
      | '\x7d' :: rest => some rest
      | _ => none
    else none
  termination_by text.length

def maxNesting : Nat := 80

def valueAt? : Nat → List Char → Option (Value × List Char)
  | 0, _ => none
  | levels + 1, text =>
    match text with
    | '[' :: rest => (items? (valueAt? levels) rest).map (.other, ·)
    | '\x7b' :: rest =>
      match skipBlanks rest with
      | '\x7d' :: rest => some (.other, rest)
      | rest => (pairs? (valueAt? levels) [] rest).map (.other, ·)
    | '"' :: _ | '\'' :: _ => (string? text).map fun (value, rest) => (.string value, rest)
    | _ => word? text

def value? : List Char → Option (Value × List Char) := valueAt? maxNesting

end ParamSchema.Toml
