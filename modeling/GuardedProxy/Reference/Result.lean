import GuardedProxy.Reference.Parentheses
import GuardedProxy.Reference.Segment

/-!
# References to the result

`Contract.Result<T>()` stands for the value that the member returns. Blanks may stand before and
inside its parentheses.
-/

namespace GuardedProxy.ResultReference

def word : List Char := "Contract.Result".toList

theorem word_ne_nil : word ≠ [] := by decide

/-- Reads a reference off the front of a text and gives its type argument, brackets included. -/
def read (cs : List Char) : Option (FrontReference (List Char)) := do
  let rest ← Reference.readWord word cs
  let (type, rest) ← Reference.readTypeArgument rest
  let (parentheses, rest) ← Reference.readEmptyParentheses rest
  some ⟨type, word ++ type ++ parentheses, rest⟩

theorem exists_of_read {cs : List Char} {front : FrontReference (List Char)}
    (h : read cs = some front) :
    ∃ inside, front.text = word ++ inside ∧ front.text ++ front.rest = cs := by
  simp only [read, Option.bind_eq_bind, Option.bind_eq_some_iff] at h
  obtain ⟨_, hword, ⟨type, _⟩, htype, ⟨parentheses, _⟩, hparentheses, hfront⟩ := h
  obtain rfl := Option.some.inj hfront
  dsimp only at htype hparentheses ⊢
  refine ⟨type ++ parentheses, List.append_assoc .., ?_⟩
  rw [← Reference.eq_append_of_readWord hword, ← Reference.eq_append_of_readTypeArgument htype,
    ← Reference.eq_append_of_readEmptyParentheses hparentheses]
  simp only [List.append_assoc]

def opening : Opening where
  text := "Contract.Result<".toList
  endsWord := false
  ne_nil := by decide
  head_not_mem_tail := by decide

/-- A reference has a type argument, so its opening goes up to the angle bracket. -/
theorem begins_of_read {cs : List Char} {front : FrontReference (List Char)}
    (h : read cs = some front) : opening.begins cs = true := by
  simp only [read, Option.bind_eq_bind, Option.bind_eq_some_iff] at h
  obtain ⟨rest, hword, ⟨type, _⟩, htype, -⟩ := h
  obtain ⟨after, rfl⟩ := List.head?_eq_some_iff.mp (Reference.head?_of_readTypeArgument htype)
  rw [← Reference.eq_append_of_readWord hword]
  rfl

def pattern : ReferencePattern (List Char) where
  opening := opening
  read := read
  begins_of_read := begins_of_read
  append_of_read h := by
    obtain ⟨_, _, happend⟩ := exists_of_read h
    exact happend
  ne_nil_of_read h := by
    obtain ⟨_, htext, _⟩ := exists_of_read h
    exact htext ▸ List.append_ne_nil_of_left_ne_nil word_ne_nil _

def segments (condition : String) : List (Segment (List Char)) :=
  Segment.ofCondition pattern condition

/-- The references of a condition with their places and type arguments, from left to right. -/
def references (condition : String) : List (Located (List Char)) :=
  Segment.locate 0 (segments condition)

/-- Whether the condition refers to the result. -/
def occursIn (condition : String) : Bool := (segments condition).any Segment.isReference

/-- The condition with the given text in place of every reference. -/
def substitute (replacement condition : String) : String :=
  String.ofList (Segment.substitute (fun _ ↦ replacement.toList) (segments condition))

end GuardedProxy.ResultReference
