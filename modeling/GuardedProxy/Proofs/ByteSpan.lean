import GuardedProxy.Text.Trim
import Mathlib.Data.String.Basic

/-!
# Spans of bytes

A place in a text is given by the bytes of the UTF-8 encoding that stand before it. A piece of the
text takes up the bytes from one place to another. A text is edited by naming the bytes that are to
be replaced, from left to right, together with what replaces them.
-/

namespace GuardedProxy.Text

theorem byteLength_eq_utf8Len (cs : List Char) : byteLength cs = String.utf8Len cs := by
  induction cs with
  | nil => rfl
  | cons c cs ih => rw [byteLength_cons, String.utf8Len_cons, ih, Nat.add_comm]

theorem byteLength_toList (text : String) : byteLength text.toList = text.utf8ByteSize := by
  rw [byteLength_eq_utf8Len, String.utf8Len_toList]

theorem byteLength_pos {cs : List Char} (hne : cs ≠ []) : 0 < byteLength cs := by
  rw [byteLength_eq_utf8Len, Nat.pos_iff_ne_zero, Ne, String.utf8Len_eq_zero]
  exact hne

/-- The bytes from `start` to `stop` are those of the piece, which stands between the two others. -/
structure Divides (text : String) (start stop : Nat) (left piece right : List Char) : Prop where
  toList_eq : text.toList = left ++ piece ++ right
  start_eq : start = byteLength left
  stop_eq : stop = start + byteLength piece

/-- The bytes of the text from one place to another. -/
def slice (text : String) (start stop : Nat) : String :=
  String.Pos.Raw.extract text ⟨start⟩ ⟨stop⟩

namespace Divides

variable {text : String} {start stop : Nat} {left piece right : List Char}
  (hdivides : Divides text start stop left piece right)
include hdivides

theorem slice_eq : slice text start stop = String.ofList piece := by
  obtain ⟨htext, rfl, rfl⟩ := hdivides
  rw [slice, ← String.ofList_toList (s := text), htext, byteLength_eq_utf8Len,
    byteLength_eq_utf8Len]
  exact String.extract_of_valid left piece right

/-- A piece begins and ends at the boundaries of characters. -/
theorem isValid :
    (String.Pos.Raw.mk start).IsValid text ∧ (String.Pos.Raw.mk stop).IsValid text := by
  obtain ⟨htext, rfl, rfl⟩ := hdivides
  have hends (front back : List Char) (hsplit : text.toList = front ++ back) :
      (String.Pos.Raw.mk (byteLength front)).IsValid text := by
    rw [String.Pos.Raw.isValid_iff_exists_append]
    refine ⟨String.ofList front, String.ofList back, ?_, ?_⟩
    · rw [← String.ofList_append, ← hsplit, String.ofList_toList]
    · rw [String.rawEndPos_ofList, byteLength_eq_utf8Len]
  constructor
  · apply hends left (piece ++ right)
    rw [htext, List.append_assoc]
  · rw [← byteLength_append]
    exact hends (left ++ piece) right htext

theorem stop_le : stop ≤ text.utf8ByteSize := by
  obtain ⟨htext, rfl, rfl⟩ := hdivides
  rw [← byteLength_toList, htext, byteLength_append, byteLength_append]
  exact Nat.le_add_right _ _

end Divides

/-- Bytes of a text and what replaces them. -/
structure Edit where
  start : Nat
  stop : Nat
  new : String
deriving DecidableEq, Repr

/-- The text from the byte `last` on, with the edits made. They are given from left to right. -/
def edited (text : String) (last : Nat) : List Edit → String
  | [] => slice text last text.utf8ByteSize
  | edit :: edits => slice text last edit.start ++ edit.new ++ edited text edit.stop edits

end GuardedProxy.Text
