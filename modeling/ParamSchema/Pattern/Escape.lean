import ParamSchema.Pattern.Tree
import ParamSchema.Text.Hex

/-!
# Blanks, numbers and escapes in patterns

Where a pattern ignores blanks, white space and comments from `#` to the end
of the line are skipped between its parts, and also between the digits of a
number and inside the name of a property.
-/

set_option autoImplicit false

namespace ParamSchema.Pattern

def skipBlanksFrom (comment : Bool) : List Char → List Char
  | [] => []
  | c :: rest =>
    if comment then skipBlanksFrom (c != '\n') rest
    else if Text.isBlank c then skipBlanksFrom false rest
    else if c = '#' then skipBlanksFrom true rest
    else c :: rest

def skipIgnored (ignoring : Bool) (text : List Char) : List Char :=
  if ignoring then skipBlanksFrom false text else text

/-- The first character that is not ignored. A comment hides only its mark and blanks. -/
def peekIgnoring (ignoring : Bool) (text : List Char) : Option Char :=
  let visible (text : List Char) := text.dropWhile Text.isBlank
  if ignoring then
    match visible text with
    | '#' :: rest => ((visible rest).head?).or text.head?
    | [] => text.head?
    | c :: _ => some c
  else text.head?

def hexDigits (ignoring : Bool) : Nat → Nat → List Char → Option (Nat × List Char)
  | 0, value, text => some (value, text)
  | count + 1, value, c :: rest =>
    (Text.hexDigit? c).bind fun digit =>
      hexDigits ignoring count (16 * value + digit) (skipIgnored ignoring rest)
  | _ + 1, _, [] => none

def hexInBraces (ignoring comment found : Bool) (value : Nat) : List Char → Option (Nat × List Char)
  | [] => none
  | c :: rest =>
    if comment then hexInBraces ignoring (c != '\n') found value rest
    else if ignoring && Text.isBlank c then hexInBraces ignoring false found value rest
    else if ignoring && c == '#' then hexInBraces ignoring true found value rest
    else if c = '\x7d' then if found then some (value, skipIgnored ignoring rest) else none
    else (Text.hexDigit? c).bind fun digit => hexInBraces ignoring false true (16 * value + digit) rest

def hexLetter? (ignoring : Bool) (mark : Char) (text : List Char) : Option (Letter × List Char) :=
  match skipIgnored ignoring text with
  | [] => none
  | '\x7b' :: rest => do
    let (code, rest) ← hexInBraces ignoring false false 0 rest
    return (⟨← Text.charOfCode? code, false⟩, rest)
  | text => do
    let count := if mark = 'x' then 2 else if mark = 'u' then 4 else 8
    let (code, rest) ← hexDigits ignoring count 0 text
    return (⟨← Text.charOfCode? code, mark == 'x'⟩, rest)

/-- The text up to a closing brace, without what the pattern ignores. -/
def nameInBraces (ignoring comment : Bool) (name : List Char) :
    List Char → Option (List Char × List Char)
  | [] => none
  | c :: rest =>
    if comment then nameInBraces ignoring (c != '\n') name rest
    else if ignoring && Text.isBlank c then nameInBraces ignoring false name rest
    else if ignoring && c == '#' then nameInBraces ignoring true name rest
    else if c = '\x7d' then some (name.reverse, rest)
    else nameInBraces ignoring false (c :: name) rest

def cutAt? (mark : List Char) : List Char → Option (List Char × List Char)
  | [] => none
  | c :: rest =>
    if mark.isPrefixOf (c :: rest) then some ([], (c :: rest).drop mark.length)
    else (cutAt? mark rest).map fun (before, after) => (c :: before, after)

/-- The query written inside braces. A property and its value are parted by `!=`, `:` or `=`,
which all mean the same. -/
def queryOfName (name : List Char) : Unicode.Query :=
  match (cutAt? ['!', '='] name).or ((cutAt? [':'] name).or (cutAt? ['='] name)) with
  | some (property, value) => .value (String.ofList property) (String.ofList value)
  | none => .name (String.ofList name)

def query? (ignoring : Bool) (text : List Char) : Option (Unicode.Query × List Char) :=
  match skipIgnored ignoring text with
  | [] => none
  | '\x7b' :: rest => (nameInBraces ignoring false [] rest).map fun (name, rest) =>
    (queryOfName name, rest)
  | c :: rest =>
    if c = '\\' then none
    else some (.name (String.singleton c), skipIgnored ignoring rest)

inductive Primitive where
  | letter (letter : Letter)
  | anchor (anchor : Anchor)
  | blank (negated : Bool)
  | property (negated : Bool) (query : Unicode.Query)

namespace Primitive

def toTree : Primitive → Tree
  | .letter l => .letter l
  | .anchor a => .anchor a
  | .blank negated => .blank negated
  | .property negated query => .property negated query

def toSetTree? : Primitive → Option SetTree
  | .letter l => some (.letter l)
  | .blank negated => some (.blank negated)
  | .property negated query => some (.property negated query)
  | .anchor _ => none

def letter? : Primitive → Option Letter
  | .letter l => some l
  | _ => none

end Primitive

/-- ASCII characters other than letters and digits may always be escaped, except `<` and `>`. -/
def isEscapable (c : Char) : Bool :=
  decide (c.toNat < 0x80) && !c.isAlphanum && c != '<' && c != '>'

def escape? (ignoring : Bool) : List Char → Option (Primitive × List Char)
  | [] => none
  | c :: rest =>
    let letter (char : Char) : Option (Primitive × List Char) := some (.letter ⟨char, false⟩, rest)
    match c with
    | 'x' | 'u' | 'U' => (hexLetter? ignoring c rest).map fun (letter, rest) => (.letter letter, rest)
    | 'p' | 'P' => (query? ignoring rest).map fun (query, rest) =>
        (.property (c == 'P') query, rest)
    | 's' => some (.blank false, rest)
    | 'S' => some (.blank true, rest)
    | 'a' => letter '\x07'
    | 'f' => letter '\x0c'
    | 't' => letter '\t'
    | 'n' => letter '\n'
    | 'r' => letter '\r'
    | 'v' => letter '\x0b'
    | 'A' => some (.anchor .textStart, rest)
    | 'z' => some (.anchor .textEnd, rest)
    | 'b' => some (.anchor .boundary, rest)
    | 'B' => some (.anchor .noBoundary, rest)
    | c => if isEscapable c then letter c else none

end ParamSchema.Pattern
