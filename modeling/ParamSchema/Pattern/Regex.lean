import ParamSchema.Power
import ParamSchema.Unicode.Query

/-!
# Regular expressions

Matching computes, for a set of positions in a text, the set of positions that
can be reached from it. A set of positions is a number whose bit `i` stands for
the position before the character `i`.
-/

set_option autoImplicit false

namespace ParamSchema.Pattern

inductive Assertion where
  | textStart
  | textEnd
  | lineStart (crlf : Bool)
  | lineEnd (crlf : Bool)
  | boundary (ascii negated : Bool)
  deriving DecidableEq

inductive Atom where
  | char (set : Unicode.CodeSet)
  | assertion (assertion : Assertion)

inductive Regex (α : Type) where
  | empty
  | atom (atom : α)
  | seq (first second : Regex α)
  | alt (first second : Regex α)
  | repeated (body : Regex α) (least : Nat) (most : Option Nat)

def asciiWordSet : Unicode.CodeSet := .ranges [(0x30, 0x39), (0x41, 0x5A), (0x5F, 0x5F), (0x61, 0x7A)]

def isWord (ascii : Bool) (c : Option Char) : Bool :=
  c.any fun c => (if ascii then asciiWordSet else Unicode.wordSet).contains c.toNat

/-- Whether an assertion holds between two neighbours; at an end of the text there is none. -/
def Assertion.holds : Assertion → Option Char → Option Char → Bool
  | .textStart, before, _ => before.isNone
  | .textEnd, _, after => after.isNone
  | .lineStart false, before, _ => before.isNone || before == some '\n'
  | .lineEnd false, _, after => after.isNone || after == some '\n'
  | .lineStart true, before, after =>
    before.isNone || before == some '\n' || before == some '\r' && after != some '\n'
  | .lineEnd true, before, after =>
    after.isNone || after == some '\r' || after == some '\n' && before != some '\r'
  | .boundary ascii negated, before, after => (isWord ascii before != isWord ascii after) != negated

def positions (test : Option Char → Option Char → Bool) (before : Option Char) : List Char → Nat
  | [] => (test before none).toNat
  | c :: rest => (test before (some c)).toNat + 2 * positions test (some c) rest

/-- How an atom moves through one text: over a character or not at all, from certain positions. -/
inductive Move where
  | step (places : Nat)
  | stay (places : Nat)

def Move.image (reached : Nat) : Move → Nat
  | .step places => 2 * (reached &&& places)
  | .stay places => reached &&& places

def Atom.move (text : List Char) : Atom → Move
  | .char set => .step (positions (fun _ after => after.any fun c => set.contains c.toNat) none text)
  | .assertion a => .stay (positions a.holds none text)

namespace Regex

def map {α β : Type} (f : α → β) : Regex α → Regex β
  | .empty => .empty
  | .atom a => .atom (f a)
  | .seq first second => .seq (first.map f) (second.map f)
  | .alt first second => .alt (first.map f) (second.map f)
  | .repeated body least most => .repeated (body.map f) least most

def iterate (f : Nat → Nat) : Nat → Nat → Nat
  | 0, reached => reached
  | count + 1, reached => if f reached = reached then reached else iterate f count (f reached)

/-- The positions reached from a set of positions in a text with `length` characters. No more
than `length + 1` rounds add a position. -/
def image (length : Nat) : Regex Move → Nat → Nat
  | .empty, reached => reached
  | .atom move, reached => move.image reached
  | .seq first second, reached => image length second (image length first reached)
  | .alt first second, reached => image length first reached ||| image length second reached
  | .repeated body least most, reached =>
    iterate (fun reached => reached ||| image length body reached)
      (most.elim (length + 1) (· - least)) (iterate (image length body) least reached)

def isMatch (regex : Regex Atom) (text : List Char) : Bool :=
  image text.length (regex.map (Atom.move text)) (2 ^ (text.length + 1) - 1) != 0

end Regex

end ParamSchema.Pattern
