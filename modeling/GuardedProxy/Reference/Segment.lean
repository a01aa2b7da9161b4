import GuardedProxy.Text.Trim

/-!
# References inside a condition

A condition is searched for references from left to right and divided into them and the single
characters between them. A reference begins with the opening of its kind, where no word reaches into
it. The search goes on behind what it has read, or behind the opening when nothing can be read
there.
-/

namespace GuardedProxy

/-- A reference read off the front of a text, and what follows it there. -/
structure FrontReference (α : Type) where
  value : α
  text : List Char
  rest : List Char
deriving DecidableEq, Repr

/-- What every reference of a kind begins with. The first character does not occur again, so no
opening begins inside of another. -/
structure Opening where
  text : List Char
  /-- Whether no word character may follow. -/
  endsWord : Bool
  ne_nil : text ≠ []
  head_not_mem_tail : text.head ne_nil ∉ text.tail

/-- Whether the text begins with the opening. -/
def Opening.begins (opening : Opening) (cs : List Char) : Bool :=
  opening.text.isPrefixOf cs &&
    !(opening.endsWord && (cs.drop opening.text.length).head?.any Text.isWordChar)

/-- A kind of reference: how one begins and how it is read off the front of a text. It takes up some
of the text, and nothing between it and what follows is lost. -/
structure ReferencePattern (α : Type) where
  opening : Opening
  read : List Char → Option (FrontReference α)
  begins_of_read : ∀ {cs front}, read cs = some front → opening.begins cs = true
  append_of_read : ∀ {cs front}, read cs = some front → front.text ++ front.rest = cs
  ne_nil_of_read : ∀ {cs front}, read cs = some front → front.text ≠ []

theorem ReferencePattern.length_of_read {α : Type} (pattern : ReferencePattern α) {cs : List Char}
    {front : FrontReference α} (h : pattern.read cs = some front) :
    front.rest.length < cs.length := by
  have hpositive := List.length_pos_iff.mpr (pattern.ne_nil_of_read h)
  rw [← pattern.append_of_read h, List.length_append]
  omega

inductive Segment (α : Type)
  | plain (c : Char)
  | reference (value : α) (text : List Char)
deriving DecidableEq, Repr

/-- A reference together with the bytes of the condition that it takes up. -/
structure Located (α : Type) where
  start : Nat
  stop : Nat
  text : List Char
  value : α
deriving DecidableEq, Repr

namespace Segment

variable {α : Type}

def text : Segment α → List Char
  | plain c => [c]
  | reference _ text => text

/-- Whether a word character stands just behind the text. -/
def endsInWord (inWord : Bool) : List Char → Bool
  | [] => inWord
  | c :: cs => endsInWord (Text.isWordChar c) cs

/-- Divides a text. The flag tells whether a word character stands just before it. -/
def scan (pattern : ReferencePattern α) (inWord : Bool) (cs : List Char) : List (Segment α) :=
  match cs with
  | [] => []
  | c :: rest =>
    if !inWord && pattern.opening.begins (c :: rest) then
      match _h : pattern.read (c :: rest) with
      | some front => reference front.value front.text :: scan pattern false front.rest
      | none =>
        pattern.opening.text.map plain ++
          scan pattern (endsInWord false pattern.opening.text)
            ((c :: rest).drop pattern.opening.text.length)
    else
      plain c :: scan pattern (Text.isWordChar c) rest
termination_by cs.length
decreasing_by
  · exact pattern.length_of_read _h
  · have hpositive := List.length_pos_iff.mpr pattern.opening.ne_nil
    rw [List.length_drop, List.length_cons]
    omega
  · simp

def ofCondition (pattern : ReferencePattern α) (condition : String) : List (Segment α) :=
  scan pattern false condition.toList

/-- The condition with every reference replaced. -/
def substitute (replacement : α → List Char) (segments : List (Segment α)) : List Char :=
  segments.flatMap fun
    | plain c => [c]
    | reference value _ => replacement value

/-- The references with their places, where `offset` bytes come before the segments. -/
def locate (offset : Nat) : List (Segment α) → List (Located α)
  | [] => []
  | plain c :: rest => locate (offset + c.utf8Size) rest
  | reference value text :: rest =>
    ⟨offset, offset + Text.byteLength text, text, value⟩ ::
      locate (offset + Text.byteLength text) rest

def isReference : Segment α → Bool
  | plain _ => false
  | reference _ _ => true

end Segment

end GuardedProxy
