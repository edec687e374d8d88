import ParamSchema.Text.Bytes

/-!
# The dialect of schemas

Schemas write patterns in the dialect of ECMAScript. It differs from the
dialect of the matcher in a few places, which are adapted: `\d`, `\w` and
`\b` know ASCII only, `\b` in brackets is a backspace, `[`, `&` and `~` in
brackets are letters, `[]` matches nothing and `[^]` anything, and an escaped
punctuation mark is itself.

A pattern is adapted in turns, each of which reads a few characters and adds to
the text that is written. Brackets are opened before it is seen whether they
are closed at once; if they are, their opening is cut off again.
-/

set_option autoImplicit false

namespace ParamSchema.Pattern

def isPunctuation (c : Char) : Bool :=
  decide (0x20 < c.toNat ∧ c.toNat < 0x7F) && !c.isAlphanum

def isMark (c : Char) : Bool := "\\.+*?()|[]\x7b\x7d^$#&-~".toList.contains c

/-- A named ASCII class, in brackets of its own unless it stands in brackets already. -/
def namedClass (inside : Bool) (name : String) : List Char :=
  ((if inside then "[:" else "[[:") ++ name ++ if inside then ":]" else ":]]").toList

def adaptEscape (inside : Bool) (c : Char) : List Char :=
  match c with
  | 'd' => namedClass inside "digit"
  | 'D' => namedClass inside "^digit"
  | 'w' => namedClass inside "word"
  | 'W' => namedClass inside "^word"
  | 'b' => (if inside then "\\x08" else "(?-u:\\b)").toList
  | c => if isPunctuation c && !isMark c then [c] else ['\\', c]

def opening (negated : Bool) : List Char := if negated then ['[', '^'] else ['[']

def openingLength (negated : Bool) : Nat := if negated then 2 else 1

def emptyClass (negated : Bool) : List Char := (if negated then "[\\s\\S]" else "[^\\s\\S]").toList

structure Adapting where
  written : String := ""
  inside : Bool := false

namespace Adapting

def write (state : Adapting) (text : List Char) : Adapting :=
  { state with written := state.written ++ String.ofList text }

theorem length_before_opening (written : String) (negated : Bool) :
    (written ++ String.ofList (opening negated)).utf8ByteSize - openingLength negated =
      written.utf8ByteSize := by
  have hOpening : (String.ofList (opening negated)).utf8ByteSize = openingLength negated := by
    cases negated <;> rfl
  rw [String.utf8ByteSize_append, hOpening, Nat.add_sub_cancel]

theorem isValid_before_opening (written : String) (negated : Bool) :
    String.Pos.Raw.IsValid (written ++ String.ofList (opening negated))
      ⟨(written ++ String.ofList (opening negated)).utf8ByteSize - openingLength negated⟩ := by
  rw [length_before_opening]
  exact Text.isValid_append _ _

/-- Opens brackets, after what opens them. If they are closed at once, the opening is cut off. -/
def openBrackets (state : Adapting) (negated : Bool) (rest : List Char) : Adapting × List Char :=
  let opened := state.written ++ String.ofList (opening negated)
  match rest with
  | ']' :: rest =>
    let kept := Text.truncate opened (opened.utf8ByteSize - openingLength negated)
      (isValid_before_opening state.written negated)
    (write ⟨kept, false⟩ (emptyClass negated), rest)
  | rest => (⟨opened, true⟩, rest)

/-- Reads a character, and those after it that belong to it. A backslash at the end is left for
the reader to refuse. -/
def turn (state : Adapting) (c : Char) (rest : List Char) : Adapting × List Char :=
  match c, rest with
  | '\\', [] => (state.write ['\\'], [])
  | '\\', escaped :: rest => (state.write (adaptEscape state.inside escaped), rest)
  | '[', rest =>
    if state.inside then (state.write ['\\', '['], rest)
    else match rest with
      | '^' :: rest => state.openBrackets true rest
      | rest => state.openBrackets false rest
  | ']', rest => ({ state with inside := false }.write [']'], rest)
  | c, rest =>
    if state.inside && (c == '&' || c == '~') then (state.write ['\\', c], rest)
    else (state.write [c], rest)

theorem length_openBrackets (state : Adapting) (negated : Bool) (rest : List Char) :
    (state.openBrackets negated rest).2.length ≤ rest.length := by
  unfold openBrackets
  split <;> simp

theorem length_turn (state : Adapting) (c : Char) (rest : List Char) :
    (state.turn c rest).2.length ≤ rest.length := by
  unfold turn
  split
  case h_3 =>
    split
    · exact Nat.le_refl _
    · split
      · exact Nat.le_trans (length_openBrackets ..) (Nat.le_succ _)
      · exact length_openBrackets ..
  case h_5 => split <;> exact Nat.le_refl _
  all_goals simp

def run (state : Adapting) : List Char → Adapting
  | [] => state
  | c :: rest => run (state.turn c rest).1 (state.turn c rest).2
  termination_by text => text.length
  decreasing_by exact Nat.lt_succ_of_le (length_turn state c rest)

end Adapting

def adapt (source : String) : String := (Adapting.run {} source.toList).written

end ParamSchema.Pattern
