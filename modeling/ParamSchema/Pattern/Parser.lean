import ParamSchema.Pattern.Brackets
import ParamSchema.Power

/-!
# Reading patterns

A pattern is read part by part, with the groups that are still open kept on a
stack. Branches and items are collected in reverse.
-/

set_option autoImplicit false

namespace ParamSchema.Pattern

/-- An open group: what stands before it, the flags that it changes, and whether blanks are
ignored outside. -/
structure GroupFrame where
  items : List Tree
  branches : List Tree
  change : FlagChange
  ignoring : Bool

structure Parsing where
  items : List Tree := []
  branches : List Tree := []
  frames : List GroupFrame := []
  ignoring : Bool := false
  names : List (List Char) := []

def maxNesting : Nat := 250

def maxRepetition : Nat := 2 ^ (32 : Nat) - 1

def Flag.ofChar? : Char → Option Flag
  | 'i' => some .anyCase
  | 'm' => some .multiLine
  | 's' => some .dotAll
  | 'U' => some .swapGreed
  | 'u' => some .unicode
  | 'R' => some .crlf
  | 'x' => some .ignoreBlank
  | _ => none

/-- The flags after `(?`, whether a group follows them, and the text after `:` or `)`. A hyphen
clears the flags after it. -/
def flags? (negated dangling : Bool) (change : FlagChange) :
    List Char → Option (FlagChange × Bool × List Char)
  | [] => none
  | ':' :: rest => if dangling then none else some (change.reverse, true, rest)
  | ')' :: rest => if dangling then none else some (change.reverse, false, rest)
  | '-' :: rest => if negated then none else flags? true true change rest
  | c :: rest =>
    (Flag.ofChar? c).bind fun flag =>
      if change.any fun entry => entry.1 == flag then none
      else flags? negated false ((flag, !negated) :: change) rest

/-- A name begins with a letter or underscore; digits, dots and brackets may follow. -/
def isNameChar (first : Bool) (c : Char) : Bool :=
  c == '_' || Unicode.alphabeticSet.contains c.toNat ||
    !first && (c == '.' || c == '[' || c == ']' || Unicode.numericSet.contains c.toNat)

def groupName? (name : List Char) : List Char → Option (List Char × List Char)
  | [] => none
  | '>' :: rest => if name.isEmpty then none else some (name.reverse, rest)
  | c :: rest => if isNameChar name.isEmpty c then groupName? (c :: name) rest else none

def digitsFrom (ignoring comment : Bool) (digits : List Char) : List Char → List Char × List Char
  | [] => (digits.reverse, [])
  | c :: rest =>
    if comment then digitsFrom ignoring (c != '\n') digits rest
    else if ignoring && Text.isBlank c then digitsFrom ignoring false digits rest
    else if ignoring && c == '#' then digitsFrom ignoring true digits rest
    else if c.isDigit then digitsFrom ignoring false (c :: digits) rest
    else (digits.reverse, c :: rest)

def repetitionCount? (ignoring : Bool) (text : List Char) : Option (Nat × List Char) :=
  let (digits, rest) := digitsFrom ignoring false [] (text.dropWhile Text.isBlank)
  let value := digits.foldl (fun n c => 10 * n + (c.toNat - '0'.toNat)) 0
  if digits.isEmpty ∨ maxRepetition < value then none
  else some (value, rest.dropWhile Text.isBlank)

def repetitionRange? (ignoring : Bool) (text : List Char) :
    Option (Nat × Option Nat × List Char) := do
  let (least, rest) ← repetitionCount? ignoring (skipIgnored ignoring text)
  match rest with
  | '\x7d' :: rest => return (least, some least, rest)
  | ',' :: rest =>
    match skipIgnored ignoring rest with
    | '\x7d' :: rest => return (least, none, rest)
    | rest =>
      let (most, rest) ← repetitionCount? ignoring rest
      match rest with
      | '\x7d' :: rest => if least ≤ most then some (least, some most, rest) else none
      | _ => none
  | _ => none

/-- A question mark after a repetition makes it prefer fewer rounds. What matches is the same. -/
def dropLazy : List Char → List Char
  | '?' :: rest => rest
  | rest => rest

namespace Parsing

def push (state : Parsing) (item : Tree) : Parsing := { state with items := item :: state.items }

def repeatLast? (state : Parsing) (least : Nat) (most : Option Nat) : Option Parsing :=
  match state.items with
  | [] | .flags _ :: _ => none
  | item :: items => some { state with items := .repetition item least most :: items }

def body (state : Parsing) : Tree :=
  .ofBranches (Tree.ofItems state.items.reverse :: state.branches).reverse

def openGroup (state : Parsing) (change : FlagChange) : Parsing where
  items := []
  branches := []
  frames := ⟨state.items, state.branches, change, state.ignoring⟩ :: state.frames
  ignoring := (change.lookup .ignoreBlank).getD state.ignoring
  names := state.names

def closeGroup? (state : Parsing) : Option Parsing :=
  match state.frames with
  | [] => none
  | frame :: frames => some
    { items := .group frame.change state.body :: frame.items
      branches := frame.branches
      frames
      ignoring := frame.ignoring
      names := state.names }

def setFlags (state : Parsing) (change : FlagChange) : Parsing :=
  { state.push (.flags change) with
    ignoring := (change.lookup .ignoreBlank).getD state.ignoring }

def named? (state : Parsing) (text : List Char) : Option (Parsing × List Char) :=
  (groupName? [] text).bind fun (name, rest) =>
    if state.names.contains name then none
    else some ({ state.openGroup [] with names := name :: state.names }, rest)

/-- What an opening parenthesis begins. There is no looking around. -/
def group? (state : Parsing) (text : List Char) : Option (Parsing × List Char) :=
  match skipIgnored state.ignoring text with
  | '?' :: '=' :: _ | '?' :: '!' :: _ | '?' :: '<' :: '=' :: _ | '?' :: '<' :: '!' :: _ => none
  | '?' :: 'P' :: '<' :: rest => state.named? rest
  | '?' :: '<' :: rest => state.named? rest
  | '?' :: rest =>
    (flags? false false [] rest).bind fun (change, isGroup, rest) =>
      if isGroup then some (state.openGroup change, rest)
      else if change.isEmpty then none
      else some (state.setFlags change, rest)
  | rest => some (state.openGroup [], rest)

def step? (state : Parsing) : List Char → Option (Parsing × List Char)
  | [] => none
  | c :: rest =>
    match c with
    | '(' => state.group? rest
    | ')' => state.closeGroup?.map (·, rest)
    | '|' => some ({ state with
        items := [], branches := Tree.ofItems state.items.reverse :: state.branches }, rest)
    | '[' => (brackets? state.ignoring rest).map fun (item, rest) => (state.push item, rest)
    | '?' => (state.repeatLast? 0 (some 1)).map (·, dropLazy rest)
    | '*' => (state.repeatLast? 0 none).map (·, dropLazy rest)
    | '+' => (state.repeatLast? 1 none).map (·, dropLazy rest)
    | '\x7b' => do
      let (least, most, rest) ← repetitionRange? state.ignoring rest
      return (← state.repeatLast? least most, dropLazy (skipIgnored state.ignoring rest))
    | '\\' => (escape? state.ignoring rest).map fun (item, rest) => (state.push item.toTree, rest)
    | '.' => some (state.push .dot, rest)
    | '^' => some (state.push (.anchor .lineStart), rest)
    | '$' => some (state.push (.anchor .lineEnd), rest)
    | c => some (state.push (.letter ⟨c, false⟩), rest)

def run? (state : Parsing) (text : List Char) : Option Tree :=
  match skipIgnored state.ignoring text with
  | [] => if state.frames.isEmpty then some state.body else none
  | c :: rest =>
    match state.step? (c :: rest) with
    | some (next, rest) => if rest.length < text.length then next.run? rest else none
    | none => none
  termination_by text.length

end Parsing

namespace Tree

def ofText? (text : String) : Option Tree :=
  (Parsing.run? {} text.toList).filter fun tree => decide (tree.nesting ≤ maxNesting)

end Tree

end ParamSchema.Pattern
