import ParamSchema.Pattern.Parser
import ParamSchema.Pattern.Regex

/-!
# Meaning of pattern trees

Resolves flags, classes and anchors of a tree into a regular expression. Flags
set inside a group hold to its end, across branches. Without the flag
`unicode` only ASCII classes can be written, so that matching never splits a
character.
-/

set_option autoImplicit false

namespace ParamSchema.Pattern

structure Mode where
  anyCase : Bool := false
  multiLine : Bool := false
  dotAll : Bool := false
  unicode : Bool := true
  crlf : Bool := false

namespace Mode

def set (mode : Mode) : Flag × Bool → Mode
  | (.anyCase, value) => { mode with anyCase := value }
  | (.multiLine, value) => { mode with multiLine := value }
  | (.dotAll, value) => { mode with dotAll := value }
  | (.unicode, value) => { mode with unicode := value }
  | (.crlf, value) => { mode with crlf := value }
  | (.swapGreed, _) | (.ignoreBlank, _) => mode

def apply (mode : Mode) (change : FlagChange) : Mode := change.foldl set mode

def fold (mode : Mode) (set : Unicode.CodeSet) : Unicode.CodeSet :=
  if mode.anyCase then (if mode.unicode then .anyCase set else .anyAsciiCase set) else set

/-- Turns a set round if asked to, which only Unicode sets allow. -/
def negate? (mode : Mode) (negated : Bool) (set : Unicode.CodeSet) : Option Unicode.CodeSet :=
  if negated then (if mode.unicode then some (.compl set) else none) else some set

def code? (mode : Mode) (letter : Letter) : Option Nat :=
  if !mode.unicode && letter.isByte && decide (0x80 ≤ letter.char.toNat) then none
  else some letter.char.toNat

def setCode? (mode : Mode) (letter : Letter) : Option Nat :=
  if mode.unicode || decide (letter.char.toNat < 0x80) then some letter.char.toNat else none

end Mode

def AsciiClass.toSet : AsciiClass → Unicode.CodeSet
  | .alnum => .ranges [(0x30, 0x39), (0x41, 0x5A), (0x61, 0x7A)]
  | .alpha => .ranges [(0x41, 0x5A), (0x61, 0x7A)]
  | .ascii => .ranges [(0, 0x7F)]
  | .blank => .ranges [(0x09, 0x09), (0x20, 0x20)]
  | .cntrl => .ranges [(0, 0x1F), (0x7F, 0x7F)]
  | .digit => .ranges [(0x30, 0x39)]
  | .graph => .ranges [(0x21, 0x7E)]
  | .lower => .ranges [(0x61, 0x7A)]
  | .print => .ranges [(0x20, 0x7E)]
  | .punct => .ranges [(0x21, 0x2F), (0x3A, 0x40), (0x5B, 0x60), (0x7B, 0x7E)]
  | .space => .ranges [(0x09, 0x0D), (0x20, 0x20)]
  | .upper => .ranges [(0x41, 0x5A)]
  | .word => asciiWordSet
  | .xdigit => .ranges [(0x30, 0x39), (0x41, 0x46), (0x61, 0x66)]

def SetOperation.apply (a b : Unicode.CodeSet) : SetOperation → Unicode.CodeSet
  | .inter => .inter a b
  | .diff => .diff a b
  | .symmDiff => .symmDiff a b

def blankSet? (mode : Mode) (negated : Bool) : Option Unicode.CodeSet :=
  mode.negate? negated (if mode.unicode then .ranges Text.blankRanges else AsciiClass.space.toSet)

def propertySet? (mode : Mode) (negated : Bool) (query : Unicode.Query) :
    Option Unicode.CodeSet :=
  if mode.unicode then query.toSet?.bind fun set => mode.negate? negated (mode.fold set) else none

namespace SetTree

mutual

/-- The set that brackets stand for, before case is ignored. -/
def toSet? (mode : Mode) : SetTree → Option Unicode.CodeSet
  | .empty => some .empty
  | .letter l => (mode.setCode? l).map .single
  | .range first last => do
    return .ranges [(← mode.setCode? first, ← mode.setCode? last)]
  | .ascii negated name => mode.negate? negated (mode.fold name.toSet)
  | .blank negated => blankSet? mode negated
  | .property negated query => propertySet? mode negated query
  | .bracketed negated body => (toSet? mode body).bind fun set => mode.negate? negated (mode.fold set)
  | .union items => toUnion? mode items
  | .operation op left right => do
    return op.apply (mode.fold (← toSet? mode left)) (mode.fold (← toSet? mode right))

def toUnion? (mode : Mode) : List SetTree → Option Unicode.CodeSet
  | [] => some .empty
  | item :: rest => do return .union (← toSet? mode item) (← toUnion? mode rest)

end

end SetTree

def dotSet? (mode : Mode) : Option Unicode.CodeSet :=
  if mode.unicode then
    some (.compl (if mode.dotAll then .empty
      else if mode.crlf then .ranges [(0x0A, 0x0A), (0x0D, 0x0D)]
      else .single 0x0A))
  else none

def Anchor.toAssertion (mode : Mode) : Anchor → Assertion
  | .lineStart => if mode.multiLine then .lineStart mode.crlf else .textStart
  | .lineEnd => if mode.multiLine then .lineEnd mode.crlf else .textEnd
  | .textStart => .textStart
  | .textEnd => .textEnd
  | .boundary => .boundary (!mode.unicode) false
  | .noBoundary => .boundary (!mode.unicode) true

namespace Tree

def ofSet? (mode : Mode) (set : Option Unicode.CodeSet) : Option (Regex Atom × Mode) :=
  set.map fun set => (.atom (.char set), mode)

mutual

def toRegex? (mode : Mode) : Tree → Option (Regex Atom × Mode)
  | .empty => some (.empty, mode)
  | .flags change => some (.empty, mode.apply change)
  | .letter l => ofSet? mode ((mode.code? l).map fun code => mode.fold (.single code))
  | .dot => ofSet? mode (dotSet? mode)
  | .anchor a => some (.atom (.assertion (a.toAssertion mode)), mode)
  | .blank negated => ofSet? mode (blankSet? mode negated)
  | .property negated query => ofSet? mode (propertySet? mode negated query)
  | .bracketed negated body =>
    ofSet? mode ((body.toSet? mode).bind fun set => mode.negate? negated (mode.fold set))
  | .repetition body least most =>
    (toRegex? mode body).map fun (regex, mode) => (.repeated regex least most, mode)
  | .group change body => (toRegex? (mode.apply change) body).map fun (regex, _) => (regex, mode)
  | .alternatives branches => joinAll? .alt mode branches
  | .sequence items => joinAll? .seq mode items

def joinAll? (join : Regex Atom → Regex Atom → Regex Atom) (mode : Mode) :
    List Tree → Option (Regex Atom × Mode)
  | [] => some (.empty, mode)
  | [tree] => toRegex? mode tree
  | tree :: rest => do
    let (first, mode) ← toRegex? mode tree
    let (second, mode) ← joinAll? join mode rest
    return (join first second, mode)

end

end Tree

def encodedLength (code : Nat) : Nat :=
  if code < 0x80 then 1 else if code < 0x800 then 2 else if code < 0x10000 then 3 else 4

def setSize : Unicode.CodeSet → Nat
  | .ranges list => (list.map fun range =>
      if range.2 < 0x80 then 8 else 24 + 16 * encodedLength range.2).sum
  | .union a b | .inter a b | .diff a b | .symmDiff a b => setSize a + setSize b
  | .compl a => setSize a + 304
  | .anyCase a | .anyAsciiCase a => 2 * setSize a

/-- An estimate of the size of the automaton of an atom. A single character takes one state for
each of its bytes. -/
def Atom.size : Atom → Nat
  | .char (.ranges [(first, last)]) =>
    if first = last then 32 * encodedLength first else 64 + setSize (.ranges [(first, last)])
  | .char set => 64 + setSize set
  | .assertion _ => 32

def Regex.consumes : Regex Atom → Bool
  | .empty | .atom (.assertion _) => false
  | .atom (.char _) => true
  | .seq first second | .alt first second => first.consumes || second.consumes
  | .repeated body _ most => body.consumes && most != some 0

/-- An estimate of the size of the automaton of an expression. What matches only the empty text
is repeated once at most. -/
def Regex.size : Regex Atom → Nat
  | .empty => 32
  | .atom a => a.size
  | .seq first second => first.size + second.size
  | .alt first second => first.size + second.size + 8
  | .repeated body least most =>
    if !body.consumes then body.size
    else match most with
      | none => max least 1 * body.size + 40
      | some most => most * body.size + (most - least) * 40

def maxSize : Nat := 10 * 2 ^ (20 : Nat)

def Regex.ofText? (text : String) : Option (Regex Atom) :=
  (Tree.ofText? text).bind fun tree =>
    ((tree.toRegex? {}).map Prod.fst).filter fun regex => decide (regex.size ≤ maxSize)

end ParamSchema.Pattern
