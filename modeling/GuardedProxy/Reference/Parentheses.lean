import GuardedProxy.TypeArgument
import GuardedProxy.Text.Trim

/-!
# The parts of a reference

The readers below take one part off the front of a text and give its text and what follows it: a
fixed word, an optional type argument, a pair of parentheses that holds blanks only, or one that
holds an identifier. The two together are always the text that was read.
-/

namespace GuardedProxy.Reference

def readWord (word cs : List Char) : Option (List Char) :=
  if word.isPrefixOf cs then some (cs.drop word.length) else none

def readTypeArgument (cs : List Char) : Option (List Char × List Char) :=
  (TypeArgument.read cs).map fun (inside, rest) ↦ ('<' :: inside ++ ['>'], rest)

/-- A type argument or nothing. An opened one must be closed. -/
def skipTypeArgument (cs : List Char) : Option (List Char × List Char) :=
  if cs.head? = some '<' then readTypeArgument cs else some ([], cs)

def readEmptyParentheses (cs : List Char) : Option (List Char × List Char) :=
  match Text.trimStart cs with
  | '(' :: inside =>
    match Text.trimStart inside with
    | ')' :: rest =>
      some (Text.leadingBlanks cs ++ '(' :: Text.leadingBlanks inside ++ [')'], rest)
    | _ => none
  | _ => none

/-- The identifier that opens a text and what follows it. -/
def readIdentifier : List Char → Option (List Char × List Char)
  | c :: rest =>
    if Text.isIdentifierStart c then
      some (c :: rest.takeWhile Text.isWordChar, rest.dropWhile Text.isWordChar)
    else none
  | [] => none

/-- Gives the identifier before the text and what follows. -/
def readIdentifierInParentheses (cs : List Char) : Option (List Char × List Char × List Char) :=
  match Text.trimStart cs with
  | '(' :: inside => do
    let (identifier, after) ← readIdentifier (Text.trimStart inside)
    match Text.trimStart after with
    | ')' :: rest =>
      some (identifier, Text.leadingBlanks cs ++ '(' :: Text.leadingBlanks inside ++ identifier ++
        Text.leadingBlanks after ++ [')'], rest)
    | _ => none
  | _ => none

theorem eq_append_of_readWord {word cs rest : List Char} (h : readWord word cs = some rest) :
    word ++ rest = cs := by
  unfold readWord at h
  split at h <;> simp at h
  rename_i hpre
  obtain ⟨after, rfl⟩ := List.isPrefixOf_iff_prefix.mp hpre
  simpa using h.symm

theorem eq_append_of_readTypeArgument {cs text rest : List Char}
    (h : readTypeArgument cs = some (text, rest)) : text ++ rest = cs := by
  obtain ⟨⟨inside, after⟩, hread, hparts⟩ := Option.map_eq_some_iff.mp h
  obtain ⟨rfl, rfl⟩ : '<' :: inside ++ ['>'] = text ∧ after = rest := by simpa using hparts
  simp [TypeArgument.eq_of_read hread]

theorem head?_of_readTypeArgument {cs text rest : List Char}
    (h : readTypeArgument cs = some (text, rest)) : cs.head? = some '<' := by
  obtain ⟨⟨inside, after⟩, hread, -⟩ := Option.map_eq_some_iff.mp h
  rw [TypeArgument.eq_of_read hread]
  rfl

theorem eq_append_of_skipTypeArgument {cs text rest : List Char}
    (h : skipTypeArgument cs = some (text, rest)) : text ++ rest = cs := by
  unfold skipTypeArgument at h
  split at h
  · exact eq_append_of_readTypeArgument h
  · obtain ⟨rfl, rfl⟩ : [] = text ∧ cs = rest := by simpa using h
    rfl

/-- Blanks and the character behind them are the beginning of a text. -/
theorem eq_append_of_trimStart {cs rest : List Char} {c : Char}
    (h : Text.trimStart cs = c :: rest) : Text.leadingBlanks cs ++ c :: rest = cs :=
  h ▸ Text.leadingBlanks_append_trimStart cs

theorem eq_append_of_readEmptyParentheses {cs text rest : List Char}
    (h : readEmptyParentheses cs = some (text, rest)) : text ++ rest = cs := by
  unfold readEmptyParentheses at h
  split at h
  · rename_i inside hopen
    split at h <;> simp at h
    rename_i after hclose
    obtain ⟨rfl, rfl⟩ := h
    refine Eq.trans ?_ (eq_append_of_trimStart hopen)
    simpa using eq_append_of_trimStart hclose
  · simp at h

theorem eq_append_of_readIdentifier {cs identifier rest : List Char}
    (h : readIdentifier cs = some (identifier, rest)) : identifier ++ rest = cs := by
  unfold readIdentifier at h
  split at h
  · split at h <;> simp at h
    obtain ⟨rfl, rfl⟩ := h
    simp [List.takeWhile_append_dropWhile]
  · simp at h

theorem eq_append_of_readIdentifierInParentheses {cs identifier text rest : List Char}
    (h : readIdentifierInParentheses cs = some (identifier, text, rest)) : text ++ rest = cs := by
  unfold readIdentifierInParentheses at h
  split at h
  · rename_i inside hopen
    obtain ⟨⟨name, after⟩, hname, h⟩ := Option.bind_eq_some_iff.mp h
    dsimp only at h
    split at h <;> simp at h
    rename_i hclose
    obtain ⟨rfl, rfl, rfl⟩ := h
    have hinside := Text.leadingBlanks_append_trimStart inside
    rw [← eq_append_of_readIdentifier hname, ← eq_append_of_trimStart hclose] at hinside
    refine Eq.trans ?_ (eq_append_of_trimStart hopen)
    simpa using hinside
  · simp at h

/-- Blanks end a word. -/
theorem any_head?_of_trimStart {cs rest : List Char} {c : Char} (h : Text.trimStart cs = c :: rest)
    (hc : Text.isWordChar c = false) : cs.head?.any Text.isWordChar = false := by
  cases cs with
  | nil => rfl
  | cons d cs =>
    cases hblank : Text.isBlank d with
    | true => exact Text.not_isWordChar_of_isBlank hblank
    | false =>
      rw [Text.trimStart, List.dropWhile_cons, hblank] at h
      obtain rfl := (List.cons.inj h).1
      exact hc

/-- No word reaches into the argument of a call. -/
theorem any_head?_of_readIdentifierInParentheses {cs identifier text rest : List Char}
    (h : readIdentifierInParentheses cs = some (identifier, text, rest)) :
    cs.head?.any Text.isWordChar = false := by
  unfold readIdentifierInParentheses at h
  split at h
  · rename_i inside hopen
    exact any_head?_of_trimStart hopen (by decide)
  · simp at h

end GuardedProxy.Reference
