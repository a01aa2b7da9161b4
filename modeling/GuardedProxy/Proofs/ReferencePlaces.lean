import GuardedProxy.Proofs.ReferenceRewrite
import GuardedProxy.Proofs.SegmentPlaces

/-!
# Where the references of a condition stand

What a reference is can be said without the reader: which word stands at a word boundary, which
bracket closes its type argument, and what stands in its parentheses. Exactly the references of a
condition are found, each with the bytes that it takes up, but for those that begin inside of
another. Rewriting a condition changes these bytes and nothing else.
-/

namespace GuardedProxy

open Segment

/-- Whether the text begins with a word character. -/
def beginsInWord : List Char → Bool
  | [] => false
  | c :: _ => Text.isWordChar c

/-- Exactly one of the two characters at which the texts meet is a word character. Where a text is
empty, it has none. -/
def WordBoundary (left right : List Char) : Prop := endsInWord false left ≠ beginsInWord right

theorem wordBoundary_iff {left right : List Char} (hright : beginsInWord right = true) :
    WordBoundary left right ↔ endsInWord false left = false := by
  rw [WordBoundary, hright, Ne, Bool.not_eq_true]

namespace ResultReference

/-- The bytes from `start` to `stop` are a reference to the result: `Contract.Result` at a word
boundary, a type argument up to the bracket that closes it, and parentheses that hold blanks. -/
def StandsAt (text : String) (start stop : Nat) (type : List Char) : Prop :=
  ∃ left inside before within right,
    Text.Divides text start stop left (word ++ type ++ (before ++ '(' :: within ++ [')'])) right ∧
    WordBoundary left (word ++ type) ∧
    type = '<' :: inside ++ ['>'] ∧
    TypeArgument.read (type ++ (before ++ '(' :: within ++ [')'] ++ right)) =
      some (inside, before ++ '(' :: within ++ [')'] ++ right) ∧
    IsBlank before ∧ IsBlank within

/-- The reader of references to the result finds what stands in the text. -/
theorem standsAt_iff {text : String} {start stop : Nat} {type : List Char} :
    StandsAt text start stop type ↔ pattern.StandsIn text start stop type := by
  have hword (rest : List Char) : beginsInWord (word ++ rest) = true := rfl
  constructor
  · rintro ⟨left, inside, before, within, right, hdivides, hboundary, rfl, htype, hbefore, hwithin⟩
    rw [wordBoundary_iff (hword _)] at hboundary
    refine ⟨left, ⟨_, _, right⟩, hdivides, hboundary, read_eq_some_iff.mpr ?_, rfl⟩
    exact ⟨inside, before, within, (TypeArgument.read_eq_some_iff.mp htype).2, hbefore, hwithin,
      rfl, rfl, rfl⟩
  · rintro ⟨left, front, hdivides, hleft, hread, rfl⟩
    obtain ⟨inside, before, within, hinside, hbefore, hwithin, hvalue, htext, -⟩ :=
      read_eq_some_iff.mp hread
    rw [htext, ← hvalue] at hdivides
    refine ⟨left, inside, before, within, front.rest, hdivides, ?_, hvalue, ?_, hbefore, hwithin⟩
    · exact (wordBoundary_iff (hword _)).mpr hleft
    · refine TypeArgument.read_eq_some_iff.mpr ⟨?_, hinside⟩
      rw [hvalue, List.append_assoc, List.singleton_append]

theorem endsOutsideWords : pattern.EndsOutsideWords := by
  intro cs front hread
  obtain ⟨inside, before, within, -, -, -, -, htext, -⟩ := read_eq_some_iff.mp hread
  rw [htext, ← List.append_assoc, ← List.append_assoc, endsInWord_append_singleton]
  decide

theorem occursIn_iff {condition : String} :
    occursIn condition = true ↔ references condition ≠ [] := by
  constructor
  · intro hoccurs hnil
    obtain ⟨segment, hmem, hreference⟩ := List.any_eq_true.mp hoccurs
    cases segment with
    | plain c => exact absurd hreference Bool.false_ne_true
    | reference value text =>
      obtain ⟨found, hfound, -⟩ := exists_mem_locate_iff.mpr hmem
      rw [references] at hnil
      exact absurd (hnil ▸ hfound) List.not_mem_nil
  · intro hne
    by_contra hnone
    exact hne (locate_eq_nil (Bool.eq_false_iff.mpr hnone))

/-- The references to the result that are found are those that stand in the condition. -/
theorem listsAll_references (condition : String) :
    ListsAll condition (StandsAt condition) (references condition) := by
  apply (listsAll_locate endsOutsideWords condition).congr
  intro start stop type
  exact standsAt_iff

theorem exists_standsAt_iff {condition : String} :
    (∃ start stop type, StandsAt condition start stop type) ↔ occursIn condition = true := by
  have hall := listsAll_references condition
  rw [occursIn_iff]
  constructor
  · rintro ⟨start, stop, type, hstands⟩
    rcases hall.complete start stop type hstands with ⟨found, hfound, -⟩ | ⟨found, hfound, -⟩
    · exact List.ne_nil_of_mem hfound
    · exact List.ne_nil_of_mem hfound
  · intro hne
    obtain ⟨found, hfound⟩ := List.exists_mem_of_ne_nil _ hne
    exact ⟨found.start, found.stop, found.value, hall.sound found hfound⟩

theorem substitute_eq_edited (replacement condition : String) :
    substitute replacement condition =
      Text.edited condition 0 ((references condition).map fun found ↦
        ⟨found.start, found.stop, replacement⟩) := by
  have hedit : edit (fun _ : List Char ↦ replacement.toList) =
      fun found ↦ ⟨found.start, found.stop, replacement⟩ := by
    funext found
    rw [edit, String.ofList_toList]
  rw [← hedit]
  exact (edited_locate _ (spelling_segments condition)).symm

/-- The references to the result in a condition are exactly those that are found, and no bytes but
theirs change when they are replaced. -/
theorem exact_references (condition : String) :
    ListsAll condition (StandsAt condition) (references condition) ∧
      (occursIn condition = true ↔ references condition ≠ []) ∧
      ∀ replacement, substitute replacement condition =
        Text.edited condition 0 ((references condition).map fun found ↦
          ⟨found.start, found.stop, replacement⟩) := by
  refine ⟨listsAll_references condition, occursIn_iff, ?_⟩
  intro replacement
  exact substitute_eq_edited replacement condition

end ResultReference

namespace OldValue

/-- A call for an old value up to its argument: `Contract.OldValue` between word boundaries, a type
argument up to the bracket that closes it or none, and a parenthesis with blanks around it. -/
def OpensCall (left opening right : List Char) : Prop :=
  ∃ type before inside, opening = word ++ type ++ (before ++ '(' :: inside) ∧
    WordBoundary left (word ++ type) ∧
    WordBoundary (left ++ word) (type ++ (before ++ '(' :: inside)) ∧
    (type = [] ∨ ∃ inner, TypeArgument.read (type ++ (before ++ '(' :: inside ++ right)) =
      some (inner, before ++ '(' :: inside ++ right)) ∧
    IsBlank before ∧ IsBlank inside

/-- The bytes from `start` to `stop` are a reference to the old value of the identifier: a call that
has the identifier as its argument, with blanks around it. -/
def StandsAt (text : String) (start stop : Nat) (identifier : String) : Prop :=
  ∃ left opening after right,
    Text.Divides text start stop left (opening ++ identifier.toList ++ (after ++ [')'])) right ∧
    OpensCall left opening (identifier.toList ++ (after ++ [')']) ++ right) ∧
    IsIdentifier identifier.toList ∧ IsBlank after

/-- A type argument, or none. -/
def IsTypeHint (type : List Char) : Prop :=
  type = [] ∨ ∃ inner, TypeArgument.Balanced inner ∧ type = '<' :: inner ++ ['>']

/-- The text of a call up to its argument. -/
def IsOpening (opening : List Char) : Prop :=
  ∃ type before inside, opening = word ++ type ++ (before ++ '(' :: inside) ∧
    IsTypeHint type ∧ IsBlank before ∧ IsBlank inside

/-- A type argument ends where the bracket closes, whatever follows. -/
theorem exists_read_iff {type rest : List Char} :
    (∃ inner, TypeArgument.read (type ++ rest) = some (inner, rest)) ↔
      ∃ inner, TypeArgument.Balanced inner ∧ type = '<' :: inner ++ ['>'] := by
  apply exists_congr
  intro inner
  rw [TypeArgument.read_eq_some_iff, and_comm, List.append_cons, List.append_cancel_right_eq]

/-- An angle bracket, a blank or a parenthesis follows the word, and each of them ends it. -/
theorem beginsInWord_behind_word {type before : List Char} (inside : List Char)
    (htype : IsTypeHint type) (hbefore : IsBlank before) :
    beginsInWord (type ++ (before ++ '(' :: inside)) = false := by
  rcases htype with rfl | ⟨inner, -, rfl⟩
  · cases before with
    | nil => exact (by decide : Text.isWordChar '(' = false)
    | cons blank before =>
      exact Text.not_isWordChar_of_isBlank (hbefore blank List.mem_cons_self)
  · exact (by decide : Text.isWordChar '<' = false)

/-- The boundary behind the word need not be tested: what may follow the word ends it. -/
theorem opensCall_iff {left opening right : List Char} :
    OpensCall left opening right ↔ endsInWord false left = false ∧ IsOpening opening := by
  have hword (rest : List Char) : beginsInWord (word ++ rest) = true := rfl
  have hbehind : endsInWord false (left ++ word) = true := by
    rw [endsInWord_append]
    rfl
  constructor
  · rintro ⟨type, before, inside, hopening, hleft, -, htype, hbefore, hinside⟩
    exact ⟨(wordBoundary_iff (hword type)).mp hleft, type, before, inside, hopening,
      htype.imp_right exists_read_iff.mp, hbefore, hinside⟩
  · rintro ⟨hleft, type, before, inside, hopening, htype, hbefore, hinside⟩
    refine ⟨type, before, inside, hopening, (wordBoundary_iff (hword type)).mpr hleft, ?_,
      htype.imp_right exists_read_iff.mpr, hbefore, hinside⟩
    rw [WordBoundary, hbehind, beginsInWord_behind_word inside htype hbefore]
    exact Bool.false_ne_true.symm

/-- The reader of references to old values finds what stands in the text. -/
theorem standsAt_iff {text : String} {start stop : Nat} {identifier : String} :
    StandsAt text start stop identifier ↔ pattern.StandsIn text start stop identifier := by
  constructor
  · rintro ⟨left, opening, after, right, hdivides, hopens, hidentifier, hafter⟩
    obtain ⟨hleft, type, before, inside, rfl, htype, hbefore, hinside⟩ := opensCall_iff.mp hopens
    refine ⟨left, ⟨identifier, _, right⟩, hdivides, hleft, read_eq_some_iff.mpr ?_, rfl⟩
    exact ⟨type, before, inside, identifier.toList, after, htype, hbefore, hinside, hafter,
      hidentifier, String.ofList_toList.symm, by simp, rfl⟩
  · rintro ⟨left, front, hdivides, hleft, hread, rfl⟩
    obtain ⟨type, before, inside, name, after, htype, hbefore, hinside, hafter, hname, hvalue,
      htext, -⟩ := read_eq_some_iff.mp hread
    have hidentifier : front.value.toList = name := by
      rw [hvalue, String.toList_ofList]
    refine ⟨left, word ++ type ++ (before ++ '(' :: inside), after, front.rest, ?_,
      opensCall_iff.mpr ⟨hleft, type, before, inside, rfl, htype, hbefore, hinside⟩,
      hidentifier ▸ hname, hafter⟩
    rw [htext, ← hidentifier] at hdivides
    simpa using hdivides

theorem endsOutsideWords : pattern.EndsOutsideWords := by
  intro cs front hread
  obtain ⟨type, before, inside, name, after, -, -, -, -, -, -, htext, -⟩ :=
    read_eq_some_iff.mp hread
  rw [htext, ← List.append_assoc, endsInWord_append_singleton]
  decide

/-- What replaces a reference. -/
def variableText (identifier : String) : List Char := (Snapshot.variableFor identifier).toList

/-- Where a place of the condition comes to stand when its references are replaced. -/
def newPlace (condition : String) (place : Nat) : Nat :=
  moved variableText (references condition) place

/-- The references to old values that are found are those that stand in the condition. -/
theorem listsAll_references (condition : String) :
    ListsAll condition (StandsAt condition) (references condition) := by
  apply (listsAll_locate endsOutsideWords condition).congr
  intro start stop identifier
  exact standsAt_iff

theorem substitute_eq_edited (condition : String) :
    substitute condition =
      Text.edited condition 0 ((references condition).map fun found ↦
        ⟨found.start, found.stop, found.value ++ "_old"⟩) := by
  have hedit : edit variableText =
      fun found ↦ ⟨found.start, found.stop, found.value ++ "_old"⟩ := by
    funext found
    exact congrArg _ String.ofList_toList
  rw [← hedit]
  exact (edited_locate variableText (spelling_segments condition)).symm

/-- The references can be put back where their variables stand. -/
theorem edited_substitute (condition : String) :
    Text.edited (substitute condition) 0 ((references condition).map fun found ↦
      ⟨newPlace condition found.start,
        newPlace condition found.start + (found.value ++ "_old").utf8ByteSize,
        String.ofList found.text⟩) = condition := by
  have hne : ∀ identifier text, .reference identifier text ∈ segments condition → text ≠ [] :=
    fun _ _ ↦ (isCut_segments condition).ne_nil_of_mem
  have hback : (fun found ↦ edit id (takenBack variableText (references condition) found)) =
      fun found ↦ ⟨newPlace condition found.start,
        newPlace condition found.start + (found.value ++ "_old").utf8ByteSize,
        String.ofList found.text⟩ := by
    funext found
    rw [← Text.byteLength_toList]
    rfl
  rw [← hback]
  exact edited_takenBack variableText (spelling_segments condition) hne

/-- The references to old values in a condition are exactly those that are found, each is replaced
by the variable of its identifier, no other bytes change, and the texts of the references can be put
back where the variables stand. -/
theorem exact_extraction (condition : String) :
    ListsAll condition (StandsAt condition) (references condition) ∧
      snapshots condition =
        (references condition).map (fun found ↦ ⟨found.value, found.value ++ "_old"⟩) ∧
      substitute condition =
        Text.edited condition 0 ((references condition).map fun found ↦
          ⟨found.start, found.stop, found.value ++ "_old"⟩) ∧
      Text.edited (substitute condition) 0 ((references condition).map fun found ↦
        ⟨newPlace condition found.start,
          newPlace condition found.start + (found.value ++ "_old").utf8ByteSize,
          String.ofList found.text⟩) = condition := by
  refine ⟨listsAll_references condition, ?_, substitute_eq_edited condition,
    edited_substitute condition⟩
  rw [snapshots]
  rfl

end OldValue

end GuardedProxy
