import ParamSchema.Json.Token
import ParamSchema.Text.Hex
import ParamSchema.Toml.Value

/-!
# Typed environment variables

A variable has the type that its text looks like: a boolean, a number, a
quoted string or character, a list or dictionary, and else a string. A text
that cannot be read so is a string as a whole.
-/

set_option autoImplicit false

namespace ParamSchema.CommandLine

def isSpace (c : Char) : Bool := c == ' ' || c == '\t' || c == '\n' || c == '\x0c' || c == '\r'

def isSeparator (c : Char) : Bool := ",\x7b\x7d[]".toList.contains c

/-- Digits around a point, at least one, and maybe an exponent. -/
def isPointNumber (word : List Char) : Bool :=
  let word := Toml.dropSign word
  let whole := word.takeWhile Char.isDigit
  match word.drop whole.length with
  | '.' :: rest =>
    let fraction := rest.takeWhile Char.isDigit
    (!whole.isEmpty || !fraction.isEmpty) && match rest.drop fraction.length with
      | [] => true
      | mark :: exponent =>
        let digits := Toml.dropSign exponent
        (mark == 'e' || mark == 'E') && !digits.isEmpty && digits.all Char.isDigit
  | _ => false

def wholeNumber? (word : List Char) : Option Int :=
  let digits := Toml.dropSign word
  if digits.isEmpty ∨ ¬ digits.all Char.isDigit then none
  else
    let n := Json.decimalValue digits
    if word.head? = some '-' then (if n ≤ 2 ^ (63 : Nat) then some (-(n : Int)) else none)
    else if n < 2 ^ (64 : Nat) then some n else none

def trim (text : List Char) : List Char :=
  ((text.dropWhile Text.isBlank).reverse.dropWhile Text.isBlank).reverse

def wordValue (word : List Char) : Toml.Value :=
  let word := trim word
  if isPointNumber word then .other
  else match wholeNumber? word with
    | some n => .integer n
    | none => .string (String.ofList word)

def quoted? (found : List Char) : List Char → Option (String × List Char)
  | [] => none
  | '"' :: rest => some (String.ofList found.reverse, rest)
  | '\\' :: c :: rest =>
    match c with
    | 'n' => quoted? ('\n' :: found) rest
    | 'r' => quoted? ('\r' :: found) rest
    | 't' => quoted? ('\t' :: found) rest
    | '0' => quoted? ('\x00' :: found) rest
    | c => quoted? (c :: found) rest
  | c :: rest => quoted? (c :: found) rest

/-- The items of a list or the entries of a dictionary, after the opening mark. -/
def series? (entry : List Char → Option (List Char)) (close : Char) (text : List Char) :
    Option (List Char) :=
  match text.dropWhile isSpace with
  | [] => none
  | c :: tail =>
    if c = close then some tail
    else
      match entry (c :: tail) with
      | some (',' :: rest) => if rest.length < text.length then series? entry close rest else none
      | some (c :: rest) => if c = close then some rest else none
      | _ => none
  termination_by text.length

def afterKey? (text : List Char) : Option (List Char) :=
  let name := text.takeWhile Toml.isKeyChar
  match (text.drop name.length).dropWhile isSpace with
  | '=' :: rest => if name.isEmpty then none else some rest
  | _ => none

def maxNesting : Nat := 1000

def typedAt? : Nat → List Char → Option (Toml.Value × List Char)
  | 0, _ => none
  | levels + 1, text =>
    let entry (text : List Char) : Option (List Char) := (typedAt? levels text).map Prod.snd
    let read : Option (Toml.Value × List Char) := match text.dropWhile isSpace with
      | 't' :: 'r' :: 'u' :: 'e' :: rest => some (.boolean true, rest)
      | 'f' :: 'a' :: 'l' :: 's' :: 'e' :: rest => some (.boolean false, rest)
      | '\x7b' :: rest =>
        (series? (fun text => (afterKey? text).bind entry) '\x7d' rest).map (.other, ·)
      | '[' :: rest => (series? entry ']' rest).map (.other, ·)
      | '"' :: rest => (quoted? [] rest).map fun (value, rest) => (.string value, rest)
      | '\'' :: c :: '\'' :: rest => some (.string (String.singleton c), rest)
      | '\'' :: _ => none
      | rest =>
        let word := rest.takeWhile fun c => !isSeparator c
        some (wordValue word, rest.drop word.length)
    read.map fun (value, rest) => (value, rest.dropWhile isSpace)

def typed (text : String) : Toml.Value :=
  match typedAt? maxNesting text.toList with
  | some (value, []) => value
  | _ => .string text

end ParamSchema.CommandLine
