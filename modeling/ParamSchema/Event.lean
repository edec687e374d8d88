import ParamSchema.Schema.Reader
import ParamSchema.Validation.Basic

/-!
# Events

What reading definitions and checking values reports on the way, for a log.
-/

set_option autoImplicit false

namespace ParamSchema

inductive Event where
  | parameterBuilt (name : String) (required : Bool)
  | combinatorsIgnored (path : Path) (honored : Combinator) (ignored : List Combinator)
  | valueRejected (path : Path) (code : Code)
  deriving DecidableEq

inductive Level where
  | trace
  | debug
  | warn
  deriving DecidableEq

def Level.name : Level → String
  | .trace => "TRACE"
  | .debug => "DEBUG"
  | .warn => "WARN"

namespace Event

def level : Event → Level
  | .parameterBuilt _ _ => .debug
  | .combinatorsIgnored _ _ _ => .warn
  | .valueRejected _ _ => .trace

def message : Event → String
  | .parameterBuilt _ _ => "parameter built"
  | .combinatorsIgnored _ _ _ => "multiple combinators declared, only the first is honored"
  | .valueRejected _ _ => "value rejected"

def keywordList (combinators : List Combinator) : String :=
  "[" ++ ", ".intercalate (combinators.map fun c => "\"" ++ c.keyword ++ "\"") ++ "]"

def fields : Event → List (String × String)
  | .parameterBuilt name required => [("name", name), ("required", toString required)]
  | .combinatorsIgnored path honored ignored =>
    [("path", path.text), ("honored", honored.keyword), ("ignored", keywordList ignored)]
  | .valueRejected path code => [("path", path.text), ("code", code.name)]

end Event

def Ambiguity.seenFrom (root : Path) (ambiguity : Ambiguity) : Event :=
  .combinatorsIgnored { root with steps := root.steps ++ ambiguity.steps } ambiguity.honored
    ambiguity.ignored

namespace Schema

def readAt (root : Path) (settings : Settings) (raw : Json) : Traced Event Violation Schema :=
  (ofJson settings raw).mapBoth (Ambiguity.seenFrom root) (Flaw.seenFrom root)

/-- Checks a value that stands at a path. A rejection is reported. -/
def checkAt (root : Path) (limit : Option Nat) (schema : Schema) (required : Bool)
    (value : Option Json) : Traced Event Violation (Option Json) :=
  match schema.validate limit required value with
  | .ok checked => pure checked
  | .error flaw =>
    ⟨[.valueRejected (flaw.seenFrom root).path flaw.code], .error (flaw.seenFrom root)⟩

end Schema

end ParamSchema
