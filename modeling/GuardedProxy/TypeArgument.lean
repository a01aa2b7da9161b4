import GuardedProxy.Text.Trim

/-!
# Type arguments

A type argument stands between angle brackets. Its closing bracket is the one that leaves every
angle bracket and every parenthesis inside it closed. A semicolon or a double quote cannot occur
in a type, so either ends the search without a result.
-/

namespace GuardedProxy.TypeArgument

/-- Where the bracket stands that closes an opened one, in the text after the latter. The counts
are the brackets and parentheses opened since and not yet closed, and the characters passed. -/
def closing (angles parens passed : Nat) : List Char → Option Nat
  | [] => none
  | '<' :: rest => closing (angles + 1) parens (passed + 1) rest
  | '>' :: rest =>
    match angles with
    | 0 => if parens = 0 then some passed else none
    | angles + 1 => closing angles parens (passed + 1) rest
  | '(' :: rest => closing angles (parens + 1) (passed + 1) rest
  | ')' :: rest =>
    match parens with
    | 0 => none
    | parens + 1 => closing angles parens (passed + 1) rest
  | ';' :: _ => none
  | '"' :: _ => none
  | _ :: rest => closing angles parens (passed + 1) rest

/-- The text inside a pair of angle brackets that opens the text, and what follows the pair. -/
def read : List Char → Option (List Char × List Char)
  | '<' :: rest => (closing 0 0 0 rest).map fun index ↦ (rest.take index, rest.drop (index + 1))
  | _ => none

/-- The byte at which the bracket stands that closes the one at the start of a text. -/
def closingByte (text : List Char) : Option Nat :=
  (read text).map fun (inside, _) ↦ Text.byteLength ('<' :: inside)

theorem exists_append_cons {c : Char} {cs : List Char} {passed index : Nat}
    (h : ∃ inside rest, cs = inside ++ '>' :: rest ∧ index = passed + 1 + inside.length) :
    ∃ inside rest, c :: cs = inside ++ '>' :: rest ∧ index = passed + inside.length := by
  obtain ⟨inside, rest, rfl, rfl⟩ := h
  exact ⟨c :: inside, rest, rfl, by rw [List.length_cons]; omega⟩

theorem eq_append_of_closing {angles parens passed index : Nat} {cs : List Char}
    (h : closing angles parens passed cs = some index) :
    ∃ inside rest, cs = inside ++ '>' :: rest ∧ index = passed + inside.length := by
  fun_induction closing angles parens passed cs with
  | case1 | case4 | case7 | case9 | case10 => contradiction
  | case3 passed rest =>
    obtain rfl : passed = index := by simpa using h
    exact ⟨[], rest, rfl, rfl⟩
  | case2 _ _ _ _ ih | case5 _ _ _ _ ih | case6 _ _ _ _ ih | case8 _ _ _ _ ih =>
    exact exists_append_cons (ih h)
  | case11 _ _ _ _ _ _ _ _ _ _ _ ih => exact exists_append_cons (ih h)

/-- Nothing between the brackets and behind them is lost. -/
theorem eq_of_read {cs inside rest : List Char} (h : read cs = some (inside, rest)) :
    cs = '<' :: inside ++ '>' :: rest := by
  unfold read at h
  split at h
  · rename_i cs
    obtain ⟨index, hindex, hparts⟩ := Option.map_eq_some_iff.mp h
    obtain ⟨front, after, rfl, rfl⟩ := eq_append_of_closing hindex
    simp_all
  · simp at h

end GuardedProxy.TypeArgument
