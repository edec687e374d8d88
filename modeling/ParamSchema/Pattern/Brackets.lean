import ParamSchema.Pattern.Escape

/-!
# Brackets in patterns

Reads what stands between `[` and `]`: letters, ranges, escapes, named ASCII
classes, nested brackets, and operations between them, which associate to the
left and bind weaker than juxtaposition.
-/

set_option autoImplicit false

namespace ParamSchema.Pattern

/-- An open bracket with the items around it, or an operation that waits for its right side. -/
inductive SetFrame where
  | bracket (outer : List SetTree) (negated : Bool)
  | operation (op : SetOperation) (left : SetTree)

namespace AsciiClass

def name : AsciiClass → String
  | .alnum => "alnum"
  | .alpha => "alpha"
  | .ascii => "ascii"
  | .blank => "blank"
  | .cntrl => "cntrl"
  | .digit => "digit"
  | .graph => "graph"
  | .lower => "lower"
  | .print => "print"
  | .punct => "punct"
  | .space => "space"
  | .upper => "upper"
  | .word => "word"
  | .xdigit => "xdigit"

def all : List AsciiClass :=
  [.alnum, .alpha, .ascii, .blank, .cntrl, .digit, .graph, .lower, .print, .punct, .space,
    .upper, .word, .xdigit]

def ofName? (name : String) : Option AsciiClass := all.find? fun entry => entry.name == name

end AsciiClass

def asciiClass? : List Char → Option (Bool × AsciiClass × List Char)
  | ':' :: text => do
    let (negated, text) := match text with
      | '^' :: text => (true, text)
      | text => (false, text)
    let (name, rest) ← cutAt? [':'] text
    match rest with
    | ']' :: rest => return (negated, ← AsciiClass.ofName? (String.ofList name), rest)
    | _ => none
  | _ => none

def leadingHyphens (ignoring comment : Bool) (count : Nat) : List Char → Nat × List Char
  | [] => (count, [])
  | c :: rest =>
    if comment then leadingHyphens ignoring (c != '\n') count rest
    else if ignoring && Text.isBlank c then leadingHyphens ignoring false count rest
    else if ignoring && c == '#' then leadingHyphens ignoring true count rest
    else if c = '-' then leadingHyphens ignoring false (count + 1) rest
    else (count, c :: rest)

/-- The start of brackets, after the opening one: whether they are negated, and the items that
stand there only as letters, in reverse. -/
def openBracket (ignoring : Bool) (text : List Char) : Bool × List SetTree × List Char :=
  let (negated, text) := match skipIgnored ignoring text with
    | '^' :: text => (true, text)
    | text => (false, text)
  match leadingHyphens ignoring false 0 text with
  | (0, ']' :: rest) => (negated, [.letter ⟨']', false⟩], rest)
  | (count, rest) => (negated, List.replicate count (.letter ⟨'-', false⟩), rest)

def setItem? (ignoring : Bool) : List Char → Option (Primitive × List Char)
  | [] => none
  | '\\' :: rest => escape? ignoring rest
  | c :: rest => some (.letter ⟨c, false⟩, rest)

def setRange? (ignoring : Bool) (text : List Char) : Option (SetTree × List Char) := do
  let (first, rest) ← setItem? ignoring text
  let rest := skipIgnored ignoring rest
  let single := first.toSetTree?.map (·, rest)
  match rest with
  | '-' :: tail =>
    match peekIgnoring ignoring tail with
    | some ']' | some '-' => single
    | _ =>
      let (last, rest) ← setItem? ignoring (skipIgnored ignoring tail)
      let first ← first.letter?
      let last ← last.letter?
      if first.char ≤ last.char then some (.range first last, rest) else none
  | _ => single

def closeOperation (right : SetTree) : List SetFrame → SetTree × List SetFrame
  | .operation op left :: frames => (.operation op left right, frames)
  | frames => (right, frames)

inductive SetProgress where
  | inside (items : List SetTree) (frames : List SetFrame)
  | closed (negated : Bool) (body : SetTree)

/-- Starts an operation, whose left side is what stands before it. -/
def openOperation (op : SetOperation) (items : List SetTree) (frames : List SetFrame) :
    SetProgress :=
  let (left, frames) := closeOperation (.ofItems items.reverse) frames
  .inside [] (.operation op left :: frames)

/-- Reads one part of brackets. The innermost frame comes first, items come in reverse. -/
def setStep? (ignoring : Bool) (items : List SetTree) (frames : List SetFrame) :
    List Char → Option (SetProgress × List Char)
  | [] => none
  | '[' :: rest =>
    match asciiClass? rest with
    | some (negated, name, rest) => some (.inside (.ascii negated name :: items) frames, rest)
    | none =>
      let (negated, inner, rest) := openBracket ignoring rest
      some (.inside inner (.bracket items negated :: frames), rest)
  | ']' :: rest =>
    match closeOperation (.ofItems items.reverse) frames with
    | (body, [.bracket _ negated]) => some (.closed negated body, rest)
    | (body, .bracket outer negated :: frames) =>
      some (.inside (.bracketed negated body :: outer) frames, rest)
    | _ => none
  | '&' :: '&' :: rest => some (openOperation .inter items frames, rest)
  | '-' :: '-' :: rest => some (openOperation .diff items frames, rest)
  | '~' :: '~' :: rest => some (openOperation .symmDiff items frames, rest)
  | text => (setRange? ignoring text).map fun (item, rest) => (.inside (item :: items) frames, rest)

def setFrom? (ignoring : Bool) (items : List SetTree) (frames : List SetFrame)
    (text : List Char) : Option (Tree × List Char) :=
  match setStep? ignoring items frames (skipIgnored ignoring text) with
  | some (.inside items frames, rest) =>
    if rest.length < text.length then setFrom? ignoring items frames rest else none
  | some (.closed negated body, rest) => some (.bracketed negated body, rest)
  | none => none
  termination_by text.length

def brackets? (ignoring : Bool) (text : List Char) : Option (Tree × List Char) :=
  let (negated, items, rest) := openBracket ignoring text
  setFrom? ignoring items [.bracket [] negated] rest

end ParamSchema.Pattern
