import ParamSchema.Text.Hex

/-!
# Message templates

A template is text with placeholders `{{key}}`, blanks allowed inside the
braces. Placeholders are found from left to right in one pass, so inserted
text is never scanned.
-/

set_option autoImplicit false

namespace ParamSchema.Template

/-- A part of a template: one character of text, or a placeholder as written with its key. -/
inductive Piece where
  | char (c : Char)
  | placeholder (written : List Char) (key : List Char)
  deriving DecidableEq

def isKeyChar (c : Char) : Bool := c.isAlphanum || c == '_'

def placeholder? : List Char → Option (List Char × List Char)
  | '\x7b' :: '\x7b' :: rest =>
    let inner := rest.dropWhile Text.isBlank
    let key := inner.takeWhile isKeyChar
    match (inner.dropWhile isKeyChar).dropWhile Text.isBlank with
    | '\x7d' :: '\x7d' :: rest => if key.isEmpty then none else some (key, rest)
    | _ => none
  | _ => none

theorem placeholder?_length {text key rest : List Char} (h : placeholder? text = some (key, rest)) :
    rest.length < text.length := by
  unfold placeholder? at h
  split at h
  · rename_i inner
    dsimp only at h
    split at h
    · rename_i tail hClose
      split at h
      · cases h
      · simp only [Option.some.injEq, Prod.mk.injEq] at h
        obtain ⟨_, rfl⟩ := h
        have hLength := congrArg List.length hClose
        have hTail := (((inner.dropWhile Text.isBlank).dropWhile isKeyChar).dropWhile_sublist
          Text.isBlank).length_le
        have hKey := ((inner.dropWhile Text.isBlank).dropWhile_sublist isKeyChar).length_le
        have hBlank := (inner.dropWhile_sublist Text.isBlank).length_le
        simp only [List.length_cons] at hLength ⊢
        omega
    · cases h
  · cases h

def pieces : List Char → List Piece
  | [] => []
  | c :: text =>
    match _hFound : placeholder? (c :: text) with
    | some (key, rest) =>
      .placeholder ((c :: text).take ((c :: text).length - rest.length)) key :: pieces rest
    | none => .char c :: pieces text
  termination_by text => text.length
  decreasing_by
    · exact placeholder?_length _hFound
    · simp

/-- What stands for a placeholder: the first parameter of that key, else the name for the key
`name`, else the placeholder as written. -/
def Piece.fill (name : String) (params : List (String × String)) : Piece → List Char
  | .char c => [c]
  | .placeholder written key =>
    match params.lookup (String.ofList key) with
    | some value => value.toList
    | none => if String.ofList key = "name" then name.toList else written

def substitute (template name : String) (params : List (String × String)) : String :=
  String.ofList ((pieces template.toList).flatMap (Piece.fill name params))

def keys (template : String) : List String :=
  (pieces template.toList).filterMap fun
    | .char _ => none
    | .placeholder _ key => some (String.ofList key)

end ParamSchema.Template
