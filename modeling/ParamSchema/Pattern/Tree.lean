import ParamSchema.Unicode.Query

/-!
# Pattern trees

A pattern as written: the tree that the parser builds, before flags are taken
into account.
-/

set_option autoImplicit false

namespace ParamSchema.Pattern

inductive Flag where
  | anyCase
  | multiLine
  | dotAll
  | swapGreed
  | unicode
  | crlf
  | ignoreBlank
  deriving DecidableEq

abbrev FlagChange := List (Flag × Bool)

/-- A literal character; one written as `\xNN` may stand for a byte. -/
structure Letter where
  char : Char
  isByte : Bool
  deriving DecidableEq

inductive Anchor where
  | lineStart
  | lineEnd
  | textStart
  | textEnd
  | boundary
  | noBoundary
  deriving DecidableEq

inductive AsciiClass where
  | alnum
  | alpha
  | ascii
  | blank
  | cntrl
  | digit
  | graph
  | lower
  | print
  | punct
  | space
  | upper
  | word
  | xdigit
  deriving DecidableEq

inductive SetOperation where
  | inter
  | diff
  | symmDiff
  deriving DecidableEq

inductive SetTree where
  | empty
  | letter (letter : Letter)
  | range (first last : Letter)
  | ascii (negated : Bool) (name : AsciiClass)
  | blank (negated : Bool)
  | property (negated : Bool) (query : Unicode.Query)
  | bracketed (negated : Bool) (body : SetTree)
  | union (items : List SetTree)
  | operation (op : SetOperation) (left right : SetTree)

inductive Tree where
  | empty
  | flags (change : FlagChange)
  | letter (letter : Letter)
  | dot
  | anchor (anchor : Anchor)
  | blank (negated : Bool)
  | property (negated : Bool) (query : Unicode.Query)
  | bracketed (negated : Bool) (body : SetTree)
  | repetition (body : Tree) (least : Nat) (most : Option Nat)
  | group (change : FlagChange) (body : Tree)
  | alternatives (branches : List Tree)
  | sequence (items : List Tree)

namespace SetTree

def ofItems : List SetTree → SetTree
  | [] => .empty
  | [item] => item
  | items => .union items

mutual

def nesting : SetTree → Nat
  | .bracketed _ body => nesting body + 1
  | .union items => nestingAll items + 1
  | .operation _ left right => max (nesting left) (nesting right) + 1
  | _ => 0

def nestingAll : List SetTree → Nat
  | [] => 0
  | item :: rest => max (nesting item) (nestingAll rest)

end

end SetTree

namespace Tree

def ofItems : List Tree → Tree
  | [] => .empty
  | [item] => item
  | items => .sequence items

def ofBranches : List Tree → Tree
  | [branch] => branch
  | branches => .alternatives branches

mutual

/-- How deep groups, repetitions, sequences, alternatives and brackets are nested. -/
def nesting : Tree → Nat
  | .bracketed _ body => body.nesting + 1
  | .repetition body _ _ => nesting body + 1
  | .group _ body => nesting body + 1
  | .alternatives branches => nestingAll branches + 1
  | .sequence items => nestingAll items + 1
  | _ => 0

def nestingAll : List Tree → Nat
  | [] => 0
  | item :: rest => max (nesting item) (nestingAll rest)

end

end Tree

end ParamSchema.Pattern
