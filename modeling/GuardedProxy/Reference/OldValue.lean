import GuardedProxy.Reference.Parentheses
import GuardedProxy.Reference.Segment

/-!
# References to old values

`Contract.OldValue(x)`, or `Contract.OldValue<T>(x)`, stands for the value that the identifier `x`
has on entry. A snapshot taken on entry keeps that value in a variable of its own, which then
replaces the reference.
-/

namespace GuardedProxy

/-- Keeps the value of an identifier in a variable. -/
structure Snapshot where
  identifier : String
  variableName : String
deriving DecidableEq, Repr

namespace Snapshot

def suffix : String := "_old"

/-- The variable that keeps the old value of an identifier. -/
def variableFor (identifier : String) : String := identifier ++ suffix

def ofIdentifier (identifier : String) : Snapshot := ⟨identifier, variableFor identifier⟩

end Snapshot

namespace OldValue

def word : List Char := "Contract.OldValue".toList

theorem word_ne_nil : word ≠ [] := by decide

/-- Reads a reference off the front of a text and gives the identifier in its parentheses. -/
def read (cs : List Char) : Option (FrontReference String) := do
  let rest ← Reference.readWord word cs
  let (type, rest) ← Reference.skipTypeArgument rest
  let (identifier, parentheses, rest) ← Reference.readIdentifierInParentheses rest
  some ⟨String.ofList identifier, word ++ type ++ parentheses, rest⟩

theorem exists_of_read {cs : List Char} {front : FrontReference String} (h : read cs = some front) :
    ∃ inside, front.text = word ++ inside ∧ front.text ++ front.rest = cs := by
  simp only [read, Option.bind_eq_bind, Option.bind_eq_some_iff] at h
  obtain ⟨_, hword, ⟨type, _⟩, htype, ⟨_, parentheses, _⟩, hparentheses, hfront⟩ := h
  obtain rfl := Option.some.inj hfront
  dsimp only at htype hparentheses ⊢
  refine ⟨type ++ parentheses, List.append_assoc .., ?_⟩
  rw [← Reference.eq_append_of_readWord hword, ← Reference.eq_append_of_skipTypeArgument htype,
    ← Reference.eq_append_of_readIdentifierInParentheses hparentheses]
  simp only [List.append_assoc]

def opening : Opening where
  text := word
  endsWord := true
  ne_nil := word_ne_nil
  head_not_mem_tail := by decide

/-- What follows the word in a reference ends it. -/
theorem begins_of_read {cs : List Char} {front : FrontReference String}
    (h : read cs = some front) : opening.begins cs = true := by
  simp only [read, Option.bind_eq_bind, Option.bind_eq_some_iff] at h
  obtain ⟨rest, hword, ⟨type, after⟩, htype, ⟨_, _, _⟩, hparentheses, -⟩ := h
  have hbehind : rest.head?.any Text.isWordChar = false := by
    unfold Reference.skipTypeArgument at htype
    split at htype
    · rename_i hangle
      rw [hangle]
      decide
    · obtain ⟨rfl, rfl⟩ : [] = type ∧ rest = after := by simpa using htype
      exact Reference.any_head?_of_readIdentifierInParentheses hparentheses
  rw [← Reference.eq_append_of_readWord hword, Opening.begins]
  simp [opening, hbehind]

def pattern : ReferencePattern String where
  opening := opening
  read := read
  begins_of_read := begins_of_read
  append_of_read h := by
    obtain ⟨_, _, happend⟩ := exists_of_read h
    exact happend
  ne_nil_of_read h := by
    obtain ⟨_, htext, _⟩ := exists_of_read h
    exact htext ▸ List.append_ne_nil_of_left_ne_nil word_ne_nil _

def segments (condition : String) : List (Segment String) :=
  Segment.ofCondition pattern condition

/-- The references of a condition with their places and identifiers, from left to right. -/
def references (condition : String) : List (Located String) :=
  Segment.locate 0 (segments condition)

/-- One snapshot for each reference, repeated identifiers included. -/
def snapshots (condition : String) : List Snapshot :=
  (references condition).map fun reference ↦ Snapshot.ofIdentifier reference.value

/-- The condition with each reference replaced by the variable of its snapshot. -/
def substitute (condition : String) : String :=
  String.ofList
    (Segment.substitute (fun identifier ↦ (Snapshot.variableFor identifier).toList)
      (segments condition))

end OldValue

end GuardedProxy
