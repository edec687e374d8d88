import ParamSchema.Text.Hex

/-!
# Text in TOML

Blanks, comments, line ends, keys, and the four kinds of strings.
-/

set_option autoImplicit false

namespace ParamSchema.Toml

def isBlank (c : Char) : Bool := c == ' ' || c == '\t'

def isControl (c : Char) : Bool := decide (c.toNat < 0x20) && c != '\t' || c.toNat == 0x7F

def skipBlanks (text : List Char) : List Char := text.dropWhile isBlank

def newline? : List Char → Option (List Char)
  | '\n' :: rest => some rest
  | '\r' :: '\n' :: rest => some rest
  | _ => none

def skipComment? : List Char → Option (List Char)
  | '#' :: text =>
    let rest := text.dropWhile fun c => !isControl c
    if rest.isEmpty || (newline? rest).isSome then some rest else none
  | text => some text

def endLine? (text : List Char) : Option (List Char) :=
  (skipComment? (skipBlanks text)).bind fun rest => if rest.isEmpty then some [] else newline? rest

def skipLines? (text : List Char) : Option (List Char) :=
  match skipComment? (skipBlanks text) with
  | none => none
  | some rest =>
    match newline? rest with
    | none => some rest
    | some next => if next.length < text.length then skipLines? next else none
  termination_by text.length

def codeEscape? (count : Nat) (text : List Char) : Option (Char × List Char) := do
  let digits ← (text.take count).mapM Text.hexDigit?
  if digits.length < count then none
  else
    let c ← Text.charOfCode? (digits.foldl (fun n digit => 16 * n + digit) 0)
    return (c, text.drop count)

def escape? : List Char → Option (Char × List Char)
  | 'b' :: rest => some ('\x08', rest)
  | 't' :: rest => some ('\t', rest)
  | 'n' :: rest => some ('\n', rest)
  | 'f' :: rest => some ('\x0c', rest)
  | 'r' :: rest => some ('\r', rest)
  | '"' :: rest => some ('"', rest)
  | '\\' :: rest => some ('\\', rest)
  | 'u' :: rest => codeEscape? 4 rest
  | 'U' :: rest => codeEscape? 8 rest
  | _ => none

/-- The rest of a string with escapes, on one line. The characters found come in reverse. -/
def basicString? (found : List Char) (text : List Char) : Option (String × List Char) :=
  match text with
  | [] => none
  | '"' :: rest => some (String.ofList found.reverse, rest)
  | '\\' :: rest =>
    match escape? rest with
    | none => none
    | some (c, next) => if next.length ≤ rest.length then basicString? (c :: found) next else none
  | c :: rest => if isControl c then none else basicString? (c :: found) rest
  termination_by text.length

def literalString? (found : List Char) : List Char → Option (String × List Char)
  | [] => none
  | '\'' :: rest => some (String.ofList found.reverse, rest)
  | c :: rest => if isControl c then none else literalString? (c :: found) rest

/-- The end of a string of several lines, after three quotes. Two more belong to the string. -/
def closeLines? (quote : Char) (found rest : List Char) : Option (String × List Char) :=
  let quotes := rest.takeWhile (· == quote)
  if quotes.length ≤ 2 then
    some (String.ofList (found.reverse ++ quotes), rest.drop quotes.length)
  else none

def skipSpace : List Char → List Char
  | ' ' :: rest | '\t' :: rest | '\n' :: rest => skipSpace rest
  | '\r' :: '\n' :: rest => skipSpace rest
  | rest => rest

/-- The rest of a string with escapes, on several lines. A backslash at the end of a line joins
it with the next text. -/
def basicLines? (found : List Char) (text : List Char) : Option (String × List Char) :=
  match text with
  | [] => none
  | '"' :: '"' :: '"' :: rest => closeLines? '"' found rest
  | '\\' :: rest =>
    if (newline? (skipBlanks rest)).isSome then
      if (skipSpace rest).length ≤ rest.length then basicLines? found (skipSpace rest) else none
    else
      match escape? rest with
      | none => none
      | some (c, next) => if next.length ≤ rest.length then basicLines? (c :: found) next else none
  | '\r' :: '\n' :: rest => basicLines? ('\n' :: found) rest
  | c :: rest => if isControl c && c != '\n' then none else basicLines? (c :: found) rest
  termination_by text.length

def literalLines? (found : List Char) : List Char → Option (String × List Char)
  | [] => none
  | '\'' :: '\'' :: '\'' :: rest => closeLines? '\'' found rest
  | '\r' :: '\n' :: rest => literalLines? ('\n' :: found) rest
  | c :: rest => if isControl c && c != '\n' then none else literalLines? (c :: found) rest

/-- A line end right after the opening quotes is not part of the string. -/
def dropNewline (text : List Char) : List Char := (newline? text).getD text

def string? : List Char → Option (String × List Char)
  | '"' :: '"' :: '"' :: rest => basicLines? [] (dropNewline rest)
  | '\'' :: '\'' :: '\'' :: rest => literalLines? [] (dropNewline rest)
  | '"' :: rest => basicString? [] rest
  | '\'' :: rest => literalString? [] rest
  | _ => none

def isKeyChar (c : Char) : Bool := c.isAlphanum || c == '_' || c == '-'

def simpleKey? : List Char → Option (String × List Char)
  | '"' :: rest => basicString? [] rest
  | '\'' :: rest => literalString? [] rest
  | text =>
    let name := text.takeWhile isKeyChar
    if name.isEmpty then none else some (String.ofList name, text.dropWhile isKeyChar)

def key? (found : List String) (text : List Char) : Option (List String × List Char) :=
  match simpleKey? (skipBlanks text) with
  | none => none
  | some (name, rest) =>
    match skipBlanks rest with
    | '.' :: next => if next.length < text.length then key? (name :: found) next else none
    | rest => some ((name :: found).reverse, rest)
  termination_by text.length

end ParamSchema.Toml
