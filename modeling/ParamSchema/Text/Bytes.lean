/-!
# Bytes of a text

A text in UTF-8, read by byte offsets. Reading outside the text is a fault.
-/

set_option autoImplicit false

namespace ParamSchema.Text

structure OutOfRange where
  offset : Nat
  length : Nat

def bytes (text : String) : List UInt8 := text.toUTF8.data.toList

def byteAt (bytes : List UInt8) (offset : Nat) : Except OutOfRange UInt8 :=
  if h : offset < bytes.length then .ok bytes[offset] else .error ⟨offset, bytes.length⟩

def bytesFrom (bytes : List UInt8) (offset : Nat) : Except OutOfRange (List UInt8) :=
  if offset ≤ bytes.length then .ok (bytes.drop offset) else .error ⟨offset, bytes.length⟩

def isBoundary (bytes : List UInt8) (offset : Nat) : Bool :=
  offset == 0 || match bytes[offset]? with
    | some byte => decide (byte < 128 ∨ 192 ≤ byte)
    | none => offset == bytes.length

def bytesBefore? (bytes : List UInt8) (offset : Nat) : Option (List UInt8) :=
  if isBoundary bytes offset then some (bytes.take offset) else none

theorem isValid_append (kept cut : String) :
    String.Pos.Raw.IsValid (kept ++ cut) ⟨kept.utf8ByteSize⟩ :=
  String.Pos.Raw.isValid_iff_exists_append.mpr ⟨kept, cut, rfl, rfl⟩

/-- The text cut to a number of bytes, which must not end within a character. -/
def truncate (text : String) (length : Nat) (hLength : String.Pos.Raw.IsValid text ⟨length⟩) :
    String :=
  (text.sliceTo ⟨⟨length⟩, hLength⟩).copy

end ParamSchema.Text
