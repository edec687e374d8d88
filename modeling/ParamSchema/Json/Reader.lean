import ParamSchema.Json.Token

/-!
# Reading JSON

Tokens drive a stack of open arrays and objects. `read?` accepts one value;
`readAll` takes values one after another up to the first malformed text.
-/

set_option autoImplicit false

namespace ParamSchema.Json

/-- An open container: the items so far in reverse, or the members so far in reverse and the
current key. -/
inductive Frame where
  | array (items : List Json)
  | object (members : List (String × Json)) (key : String)

inductive Reading where
  | atValue (stack : List Frame)
  | atItem (stack : List Frame)
  | atMember (stack : List Frame)
  | atKey (members : List (String × Json)) (stack : List Frame)
  | atColon (members : List (String × Json)) (key : String) (stack : List Frame)
  | afterItem (items : List Json) (stack : List Frame)
  | afterMember (members : List (String × Json)) (stack : List Frame)
  | complete (value : Json)

def maxNesting : Nat := 127

namespace Reading

def close (value : Json) : List Frame → Reading
  | [] => .complete value
  | .array items :: stack => .afterItem (value :: items) stack
  | .object members key :: stack => .afterMember ((key, value) :: members) stack

def openContainer (stack : List Frame) (reading : Reading) : Option Reading :=
  if stack.length < maxNesting then some reading else none

def begin (stack : List Frame) : Token → Option Reading
  | .openArray => openContainer stack (.atItem stack)
  | .openObject => openContainer stack (.atMember stack)
  | .text value => some (close (.string value) stack)
  | .literal value => some (close value stack)
  | _ => none

def step : Reading → Token → Option Reading
  | .atValue stack, token => begin stack token
  | .atItem stack, .closeArray => some (close (.array []) stack)
  | .atItem stack, token => begin (.array [] :: stack) token
  | .atMember stack, .closeObject => some (close (.object []) stack)
  | .atMember stack, .text key => some (.atColon [] key stack)
  | .atKey members stack, .text key => some (.atColon members key stack)
  | .atColon members key stack, .colon => some (.atValue (.object members key :: stack))
  | .afterItem items stack, .comma => some (.atValue (.array items :: stack))
  | .afterItem items stack, .closeArray => some (close (.array items.reverse) stack)
  | .afterMember members stack, .comma => some (.atKey members stack)
  | .afterMember members stack, .closeObject => some (close (.object members.reverse) stack)
  | _, _ => none

end Reading

def ofTokens? (tokens : List Token) : Option Json :=
  match tokens.foldlM Reading.step (.atValue []) with
  | some (.complete value) => some value
  | _ => none

def read? (text : String) : Option Json := (ofTokens? (tokens text)).map merge

/-- The values written one after another, up to the first malformed text. -/
structure Sequence where
  values : List Json
  malformed : Bool

def readFrom (found : List Json) : Reading → List Token → Sequence
  | .atValue [], [] => ⟨found.reverse, false⟩
  | _, [] => ⟨found.reverse, true⟩
  | reading, token :: rest =>
    match reading.step token with
    | some (.complete value) => readFrom (value.merge :: found) (.atValue []) rest
    | some next => readFrom found next rest
    | none => ⟨found.reverse, true⟩

def readAll (text : String) : Sequence := readFrom [] (.atValue []) (tokens text)

end ParamSchema.Json
