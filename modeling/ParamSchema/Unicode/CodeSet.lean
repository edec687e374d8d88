import ParamSchema.Unicode.Folding

/-!
# Sets of code points

Sets built from ranges by the usual operations and by closing under case, and
two written forms of ranges: runs that cover all code points in order, and
hexadecimal ranges.
-/

set_option autoImplicit false

namespace ParamSchema.Unicode

inductive CodeSet where
  | ranges (list : List (Nat × Nat))
  | union (a b : CodeSet)
  | inter (a b : CodeSet)
  | diff (a b : CodeSet)
  | symmDiff (a b : CodeSet)
  | compl (a : CodeSet)
  | anyCase (a : CodeSet)
  | anyAsciiCase (a : CodeSet)

namespace CodeSet

def empty : CodeSet := .ranges []

def single (code : Nat) : CodeSet := .ranges [(code, code)]

def contains : CodeSet → Nat → Bool
  | .ranges list, code => list.any fun range => decide (range.1 ≤ code ∧ code ≤ range.2)
  | .union a b, code => a.contains code || b.contains code
  | .inter a b, code => a.contains code && b.contains code
  | .diff a b, code => a.contains code && !b.contains code
  | .symmDiff a b, code => a.contains code != b.contains code
  | .compl a, code => !a.contains code
  | .anyCase a, code => (caseClass code).any a.contains
  | .anyAsciiCase a, code => (asciiCaseClass code).any a.contains

def words (text : String) : List String :=
  ((text.splitOn "\n").flatMap fun line => line.splitOn " ").filter fun word => word ≠ ""

/-- The runs with one of the given names; a run is written as its name, of `width` letters, and
its length. -/
def ofRuns (width : Nat) (names : List String) (text : String) : CodeSet :=
  let step (state : Nat × List (Nat × Nat)) (run : String) :=
    let name := String.ofList (run.toList.take width)
    let next := state.1 + (run.toList.drop width).foldl (fun n c => 10 * n + (c.toNat - 48)) 0
    (next, if names.contains name then (state.1, next - 1) :: state.2 else state.2)
  .ranges ((words text).foldl step (0, [])).2.reverse

def hexValue (digits : String) : Nat :=
  digits.toList.foldl (fun n c => 16 * n + if c.isDigit then c.toNat - 48 else c.toNat - 55) 0

def ofText (text : String) : CodeSet :=
  .ranges ((words text).map fun range =>
    match range.splitOn "-" with
    | [first, last] => (hexValue first, hexValue last)
    | _ => (hexValue range, hexValue range))

end CodeSet

end ParamSchema.Unicode
