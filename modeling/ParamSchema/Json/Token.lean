import ParamSchema.Json.Basic
import ParamSchema.Text.Hex

/-!
# JSON tokens

A text is cut into marks, strings and words. A word is a longest run of
characters that are neither blank nor one of `"[]{},:`, so a number or literal
always ends before a blank, a mark, a string or the end of the text.
-/

set_option autoImplicit false

namespace ParamSchema.Json

inductive Token where
  | openArray
  | closeArray
  | openObject
  | closeObject
  | comma
  | colon
  | text (value : String)
  | literal (value : Json)
  | malformed

def decimalValue (digits : List Char) : Nat :=
  digits.foldl (fun n c => 10 * n + (c.toNat - '0'.toNat)) 0

def exponent? : List Char → Option Int
  | [] => some 0
  | mark :: rest =>
    if mark = 'e' ∨ mark = 'E' then
      let (negative, digits) := match rest with
        | '-' :: digits => (true, digits)
        | '+' :: digits => (false, digits)
        | digits => (false, digits)
      if digits.isEmpty ∨ ¬ digits.all Char.isDigit then none
      else some (if negative then -(decimalValue digits : Int) else decimalValue digits)
    else none

/-- The number that digits make behind the digits of `value`, as long as it fits 64 bits, and how
many digits are left out. -/
def significand (value : Nat) : List Char → Nat × Nat
  | [] => (value, 0)
  | c :: rest =>
    let next := 10 * value + (c.toNat - '0'.toNat)
    if next < 2 ^ (64 : Nat) then significand next rest else (value, rest.length + 1)

/-- The number written by a word. Of a number that is no integer of 64 bits a significand that
fits 64 bits is rounded to a double, which is shifted to its place then. -/
def numberOfWord? (word : List Char) : Option Number :=
  let (negative, unsigned) := match word with
    | '-' :: rest => (true, rest)
    | rest => (false, rest)
  let whole := unsigned.takeWhile Char.isDigit
  let rest := unsigned.dropWhile Char.isDigit
  if whole.isEmpty ∨ (whole.head? = some '0' ∧ 1 < whole.length) then none
  else
    let (value, left) := significand 0 whole
    if rest.isEmpty ∧ left = 0 then
      if negative ∧ value = 0 then some (.double { Binary64.zero with negative := true })
      else Number.ofInt? (if negative then -(value : Int) else value)
    else
      let (point, tail) := match rest with
        | '.' :: tail => (true, tail)
        | tail => (false, tail)
      let fraction := if point then tail.takeWhile Char.isDigit else []
      if point ∧ fraction.isEmpty then none
      else
        -- Digits of the fraction may fit where one of the whole number did not.
        let (value, cut) := significand value fraction
        (exponent? (tail.drop fraction.length)).bind fun exponent =>
          let places := exponent + left - (fraction.length - cut : Nat)
          ((Binary64.ofRatio? false value 1).bind (Binary64.shifted? · places)).map
            fun x => .double { x with negative }

def Token.ofWord (word : List Char) : Token :=
  if word = "null".toList then .literal .null
  else if word = "true".toList then .literal (.bool true)
  else if word = "false".toList then .literal (.bool false)
  else match numberOfWord? word with
    | some value => .literal (.number value)
    | none => .malformed

/-- The characters of a string given by 16-bit units and whole code points; a
surrogate must be half of a pair. -/
def charsOfUnits? : List Nat → Option (List Char)
  | [] => some []
  | high :: low :: rest =>
    if 0xD800 ≤ high ∧ high < 0xDC00 then
      if 0xDC00 ≤ low ∧ low < 0xE000 then
        (charsOfUnits? rest).map
          (Char.ofNat (0x10000 + (high - 0xD800) * 0x400 + (low - 0xDC00)) :: ·)
      else none
    else if 0xDC00 ≤ high ∧ high < 0xE000 then none
    else (charsOfUnits? (low :: rest)).map (Char.ofNat high :: ·)
  | [unit] => if 0xD800 ≤ unit ∧ unit < 0xE000 then none else some [Char.ofNat unit]

def escaped? : Char → Option Char
  | '"' => some '"'
  | '\\' => some '\\'
  | '/' => some '/'
  | 'b' => some '\x08'
  | 'f' => some '\x0c'
  | 'n' => some '\n'
  | 'r' => some '\r'
  | 't' => some '\t'
  | _ => none

/-- Where a scan stands. Units and characters are collected in reverse. -/
inductive Scan where
  | between
  | word (letters : List Char)
  | text (units : List Nat)
  | escape (units : List Nat)
  | unicode (units : List Nat) (missing : Nat) (value : Nat)

def isBlank (c : Char) : Bool := c == ' ' || c == '\n' || c == '\t' || c == '\r'

def Scan.outside (c : Char) : Scan × List Token :=
  if isBlank c then (.between, [])
  else match c with
    | '[' => (.between, [.openArray])
    | ']' => (.between, [.closeArray])
    | '\x7b' => (.between, [.openObject])
    | '\x7d' => (.between, [.closeObject])
    | ',' => (.between, [.comma])
    | ':' => (.between, [.colon])
    | '"' => (.text [], [])
    | c => (.word [c], [])

def endsWord (c : Char) : Bool := isBlank c || "\"[]\x7b\x7d,:".toList.contains c

def Scan.step : Scan → Char → Option (Scan × List Token)
  | .between, c => some (outside c)
  | .word letters, c =>
    if endsWord c then
      let (next, tokens) := outside c
      some (next, Token.ofWord letters.reverse :: tokens)
    else some (.word (c :: letters), [])
  | .text units, c =>
    if c = '"' then
      (charsOfUnits? units.reverse).map fun chars => (.between, [.text (String.ofList chars)])
    else if c = '\\' then some (.escape units, [])
    else if c.toNat < 0x20 then none
    else some (.text (c.toNat :: units), [])
  | .escape units, c =>
    if c = 'u' then some (.unicode units 4 0, [])
    else (escaped? c).map fun char => (.text (char.toNat :: units), [])
  | .unicode units missing value, c =>
    (Text.hexDigit? c).map fun digit =>
      if missing ≤ 1 then (.text ((16 * value + digit) :: units), [])
      else (.unicode units (missing - 1) (16 * value + digit), [])

def Scan.finish : Scan → List Token
  | .between => []
  | .word letters => [Token.ofWord letters.reverse]
  | _ => [.malformed]

def scanFrom (found : List Token) : Scan → List Char → List Token
  | scan, [] => (scan.finish.reverse ++ found).reverse
  | scan, c :: rest =>
    match scan.step c with
    | some (next, tokens) => scanFrom (tokens.reverse ++ found) next rest
    | none => (.malformed :: found).reverse

def tokens (text : String) : List Token := scanFrom [] .between text.toList

end ParamSchema.Json
