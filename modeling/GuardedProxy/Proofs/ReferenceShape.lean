import GuardedProxy.Reference.OldValue
import GuardedProxy.Reference.Result
import GuardedProxy.Proofs.BalancedText

/-!
# The shape of a reference

A reference to the result is the word `Contract.Result`, a balanced text in angle brackets and a
pair of parentheses that holds blanks only. A reference to an old value is the word
`Contract.OldValue`, such a text or nothing, and a pair of parentheses around an identifier. What is
read off the front of a text is exactly what has this shape, and it is balanced as a whole.
-/

namespace GuardedProxy

open TypeArgument (Balanced marks)

/-- A text of blanks only. -/
def IsBlank (text : List Char) : Prop := ∀ c ∈ text, Text.isBlank c = true

instance (text : List Char) : Decidable (IsBlank text) :=
  decidable_of_iff (text.all Text.isBlank = true) List.all_eq_true

/-- An ASCII letter or an underscore, and word characters after it. -/
def IsIdentifier (name : List Char) : Prop :=
  ∃ first rest, name = first :: rest ∧ Text.isIdentifierStart first = true ∧
    ∀ c ∈ rest, Text.isWordChar c = true

theorem IsIdentifier.isWordChar {name : List Char} (hname : IsIdentifier name) :
    ∀ c ∈ name, Text.isWordChar c = true := by
  obtain ⟨first, rest, rfl, hfirst, hrest⟩ := hname
  intro c hc
  rcases List.mem_cons.mp hc with rfl | hc
  · exact Text.isWordChar_of_isIdentifierStart hfirst
  · exact hrest c hc

theorem IsBlank.not_isWordChar {text : List Char} (htext : IsBlank text) :
    ∀ c ∈ text, Text.isWordChar c = false :=
  fun c hc ↦ Text.not_isWordChar_of_isBlank (htext c hc)

theorem IsBlank.balanced {text : List Char} (htext : IsBlank text) : Balanced text :=
  TypeArgument.balanced_of_not_mem_marks fun c hc ↦
    TypeArgument.not_mem_marks_of_isBlank (htext c hc)

namespace Reference

/-- A type argument is balanced text in angle brackets. -/
theorem readTypeArgument_eq_some_iff {cs text rest : List Char} :
    readTypeArgument cs = some (text, rest) ↔
      ∃ inside, Balanced inside ∧ text = '<' :: inside ++ ['>'] ∧ cs = text ++ rest := by
  unfold readTypeArgument
  rw [Option.map_eq_some_iff]
  constructor
  · rintro ⟨⟨inside, after⟩, hread, hparts⟩
    obtain ⟨rfl, hbalanced⟩ := TypeArgument.read_eq_some_iff.mp hread
    obtain ⟨rfl, rfl⟩ : '<' :: inside ++ ['>'] = text ∧ after = rest := by simpa using hparts
    exact ⟨inside, hbalanced, rfl, by simp⟩
  · rintro ⟨inside, hbalanced, rfl, rfl⟩
    refine ⟨(inside, rest), TypeArgument.read_eq_some_iff.mpr ⟨by simp, hbalanced⟩, rfl⟩

/-- Empty parentheses may have blanks before and inside of them. -/
theorem readEmptyParentheses_eq_some_iff {cs text rest : List Char} :
    readEmptyParentheses cs = some (text, rest) ↔
      ∃ before inside, IsBlank before ∧ IsBlank inside ∧ text = before ++ '(' :: inside ++ [')'] ∧
        cs = text ++ rest := by
  have hopen : Text.isBlank '(' = false := by decide
  have hclose : Text.isBlank ')' = false := by decide
  constructor
  · intro hread
    have happend := eq_append_of_readEmptyParentheses hread
    unfold readEmptyParentheses at hread
    split at hread
    · rename_i inside _
      split at hread
      · obtain ⟨rfl, rfl⟩ : Text.leadingBlanks cs ++ '(' :: Text.leadingBlanks inside ++ [')'] =
            text ∧ _ = rest := by simpa using hread
        exact ⟨Text.leadingBlanks cs, Text.leadingBlanks inside,
          fun _ ↦ Text.isBlank_of_mem_leadingBlanks, fun _ ↦ Text.isBlank_of_mem_leadingBlanks, rfl,
          happend.symm⟩
      · simp at hread
    · simp at hread
  · rintro ⟨before, inside, hbefore, hinside, rfl, rfl⟩
    have hcs : before ++ '(' :: inside ++ [')'] ++ rest =
        before ++ '(' :: (inside ++ ')' :: rest) := by
      simp
    rw [hcs]
    simp only [readEmptyParentheses, Text.trimStart_blanks_append hbefore hopen,
      Text.trimStart_blanks_append hinside hclose, Text.leadingBlanks_blanks_append hbefore hopen,
      Text.leadingBlanks_blanks_append hinside hclose]

/-- An identifier ends where no word character follows. -/
theorem readIdentifier_append {name blanks : List Char} {c : Char} (rest : List Char)
    (hname : IsIdentifier name) (hblanks : IsBlank blanks) (hc : Text.isWordChar c = false) :
    readIdentifier (name ++ (blanks ++ c :: rest)) = some (name, blanks ++ c :: rest) := by
  obtain ⟨first, letters, rfl, hfirst, hletters⟩ := hname
  have hstop : (blanks ++ c :: rest).takeWhile Text.isWordChar = [] ∧
      (blanks ++ c :: rest).dropWhile Text.isWordChar = blanks ++ c :: rest := by
    cases blanks with
    | nil => simp [hc]
    | cons blank blanks =>
      have hblank := Text.not_isWordChar_of_isBlank (hblanks blank List.mem_cons_self)
      simp [hblank]
  rw [List.cons_append, readIdentifier, if_pos hfirst, List.takeWhile_append_of_pos hletters,
    List.dropWhile_append_of_pos hletters, hstop.1, hstop.2, List.append_nil]

theorem isIdentifier_of_readIdentifier {cs name rest : List Char}
    (hread : readIdentifier cs = some (name, rest)) : IsIdentifier name := by
  unfold readIdentifier at hread
  split at hread
  · split at hread
    · rename_i c tail hstart
      obtain ⟨rfl, -⟩ : c :: tail.takeWhile Text.isWordChar = name ∧ _ = rest := by
        simpa using hread
      exact ⟨c, _, rfl, hstart, fun d hd ↦ List.all_eq_true.mp List.all_takeWhile d hd⟩
    · simp at hread
  · simp at hread

/-- An identifier in parentheses may have blanks on both sides, and before the parentheses. -/
theorem readIdentifierInParentheses_eq_some_iff {cs name text rest : List Char} :
    readIdentifierInParentheses cs = some (name, text, rest) ↔
      ∃ before inside after, IsBlank before ∧ IsBlank inside ∧ IsBlank after ∧ IsIdentifier name ∧
        text = before ++ '(' :: inside ++ name ++ after ++ [')'] ∧ cs = text ++ rest := by
  have hopen : Text.isBlank '(' = false := by decide
  have hclose : Text.isBlank ')' = false := by decide
  constructor
  · intro hread
    have happend := eq_append_of_readIdentifierInParentheses hread
    unfold readIdentifierInParentheses at hread
    split at hread
    · rename_i inside _
      obtain ⟨⟨found, after⟩, hname, hread⟩ := Option.bind_eq_some_iff.mp hread
      dsimp only at hread
      split at hread
      · obtain ⟨rfl, rfl, rfl⟩ : found = name ∧ Text.leadingBlanks cs ++ '(' ::
            Text.leadingBlanks inside ++ found ++ Text.leadingBlanks after ++ [')'] = text ∧
            _ = rest := by simpa using hread
        exact ⟨Text.leadingBlanks cs, Text.leadingBlanks inside, Text.leadingBlanks after,
          fun _ ↦ Text.isBlank_of_mem_leadingBlanks, fun _ ↦ Text.isBlank_of_mem_leadingBlanks,
          fun _ ↦ Text.isBlank_of_mem_leadingBlanks, isIdentifier_of_readIdentifier hname, rfl,
          happend.symm⟩
      · simp at hread
    · simp at hread
  · rintro ⟨before, inside, after, hbefore, hinside, hafter, hname, rfl, rfl⟩
    have hcs : before ++ '(' :: inside ++ name ++ after ++ [')'] ++ rest =
        before ++ '(' :: (inside ++ (name ++ (after ++ ')' :: rest))) := by
      simp
    have hread := readIdentifier_append rest hname hafter (by decide : Text.isWordChar ')' = false)
    obtain ⟨first, letters, rfl, hfirst, hletters⟩ := hname
    have hblank := Text.not_isBlank_of_isWordChar (Text.isWordChar_of_isIdentifierStart hfirst)
    rw [List.cons_append] at hread hcs
    rw [hcs]
    simp only [readIdentifierInParentheses, Text.trimStart_blanks_append hbefore hopen,
      Text.trimStart_blanks_append hinside hblank, hread, Option.bind_eq_bind, Option.bind_some,
      Text.trimStart_blanks_append hafter hclose, Text.leadingBlanks_blanks_append hbefore hopen,
      Text.leadingBlanks_blanks_append hinside hblank,
      Text.leadingBlanks_blanks_append hafter hclose]

theorem readWord_append (word rest : List Char) : readWord word (word ++ rest) = some rest := by
  simp [readWord, List.isPrefixOf_iff_prefix]

/-- A type argument is left out only where no angle bracket opens. -/
theorem skipTypeArgument_eq_some_iff {cs text rest : List Char} :
    skipTypeArgument cs = some (text, rest) ↔
      cs = text ++ rest ∧ ((text = [] ∧ rest.head? ≠ some '<') ∨
        ∃ inside, Balanced inside ∧ text = '<' :: inside ++ ['>']) := by
  unfold skipTypeArgument
  by_cases hhead : cs.head? = some '<'
  · rw [if_pos hhead, readTypeArgument_eq_some_iff]
    constructor
    · rintro ⟨inside, hinside, htext, hcs⟩
      exact ⟨hcs, Or.inr ⟨inside, hinside, htext⟩⟩
    · rintro ⟨rfl, ⟨rfl, hnot⟩ | ⟨inside, hinside, htext⟩⟩
      · exact absurd hhead hnot
      · exact ⟨inside, hinside, htext, rfl⟩
  · rw [if_neg hhead]
    constructor
    · intro h
      obtain ⟨rfl, rfl⟩ : [] = text ∧ cs = rest := by simpa using h
      exact ⟨rfl, Or.inl ⟨rfl, hhead⟩⟩
    · rintro ⟨rfl, ⟨rfl, -⟩ | ⟨inside, -, rfl⟩⟩
      · rfl
      · exact absurd rfl hhead

end Reference

namespace ResultReference

/-- A reference to the result is read exactly where its shape stands. -/
theorem read_eq_some_iff {cs : List Char} {front : FrontReference (List Char)} :
    read cs = some front ↔
      ∃ inside before within, Balanced inside ∧ IsBlank before ∧ IsBlank within ∧
        front.value = '<' :: inside ++ ['>'] ∧
        front.text = word ++ ('<' :: inside ++ ['>']) ++ (before ++ '(' :: within ++ [')']) ∧
        cs = front.text ++ front.rest := by
  constructor
  · intro hread
    obtain ⟨_, _, happend⟩ := exists_of_read hread
    simp only [read, Option.bind_eq_bind, Option.bind_eq_some_iff] at hread
    obtain ⟨_, _, ⟨type, _⟩, htype, ⟨parentheses, _⟩, hparentheses, hfront⟩ := hread
    obtain rfl := Option.some.inj hfront
    obtain ⟨inside, hinside, hvalue, -⟩ := Reference.readTypeArgument_eq_some_iff.mp htype
    obtain ⟨before, within, hbefore, hwithin, htext, -⟩ :=
      Reference.readEmptyParentheses_eq_some_iff.mp hparentheses
    exact ⟨inside, before, within, hinside, hbefore, hwithin, hvalue, by rw [hvalue, htext],
      happend.symm⟩
  · obtain ⟨value, text, rest⟩ := front
    rintro ⟨inside, before, within, hinside, hbefore, hwithin, rfl, rfl, rfl⟩
    have htype := Reference.readTypeArgument_eq_some_iff.mpr
      ⟨inside, hinside, rfl, Eq.refl ('<' :: inside ++ ['>'] ++
        (before ++ '(' :: within ++ [')'] ++ rest))⟩
    have hparentheses := Reference.readEmptyParentheses_eq_some_iff.mpr
      ⟨before, within, hbefore, hwithin, rfl, Eq.refl (before ++ '(' :: within ++ [')'] ++ rest)⟩
    dsimp only
    rw [read, List.append_assoc, List.append_assoc, Reference.readWord_append]
    simp only [Option.bind_eq_bind, Option.bind_some, htype, hparentheses]

theorem balanced_of_read {cs : List Char} {front : FrontReference (List Char)}
    (hread : read cs = some front) : Balanced front.text := by
  obtain ⟨inside, before, within, hinside, hbefore, hwithin, -, htext, -⟩ :=
    read_eq_some_iff.mp hread
  have hword : Balanced word :=
    TypeArgument.balanced_of_not_mem_marks (List.all_iff_forall_prop.mp (by decide))
  rw [htext, List.append_assoc before]
  exact (hword.append hinside.angles).append (hbefore.balanced.append hwithin.balanced.parens)

end ResultReference

namespace OldValue

/-- A reference to an old value is read exactly where its shape stands. -/
theorem read_eq_some_iff {cs : List Char} {front : FrontReference String} :
    read cs = some front ↔
      ∃ type before inside name after,
        (type = [] ∨ ∃ text, Balanced text ∧ type = '<' :: text ++ ['>']) ∧
        IsBlank before ∧ IsBlank inside ∧ IsBlank after ∧ IsIdentifier name ∧
        front.value = String.ofList name ∧
        front.text = word ++ type ++ (before ++ '(' :: inside ++ name ++ after ++ [')']) ∧
        cs = front.text ++ front.rest := by
  constructor
  · intro hread
    obtain ⟨_, _, happend⟩ := exists_of_read hread
    simp only [read, Option.bind_eq_bind, Option.bind_eq_some_iff] at hread
    obtain ⟨_, _, ⟨type, _⟩, htype, ⟨name, parentheses, _⟩, hparentheses, hfront⟩ := hread
    obtain rfl := Option.some.inj hfront
    obtain ⟨-, htype⟩ := Reference.skipTypeArgument_eq_some_iff.mp htype
    obtain ⟨before, inside, after, hbefore, hinside, hafter, hname, htext, -⟩ :=
      Reference.readIdentifierInParentheses_eq_some_iff.mp hparentheses
    exact ⟨type, before, inside, name, after, htype.imp_left And.left, hbefore, hinside, hafter,
      hname, rfl, by rw [htext], happend.symm⟩
  · obtain ⟨value, text, rest⟩ := front
    rintro ⟨type, before, inside, name, after, htype, hbefore, hinside, hafter, hname, rfl, rfl,
      rfl⟩
    have hhead : (before ++ '(' :: inside ++ name ++ after ++ [')'] ++ rest).head? ≠ some '<' := by
      cases before with
      | nil => simp
      | cons blank before =>
        have hblank := hbefore blank List.mem_cons_self
        intro hsome
        obtain rfl : blank = '<' := by simpa using hsome
        exact absurd hblank (by decide)
    have hskip := Reference.skipTypeArgument_eq_some_iff.mpr
      ⟨Eq.refl (type ++ (before ++ '(' :: inside ++ name ++ after ++ [')'] ++ rest)),
        htype.imp_left fun h ↦ ⟨h, hhead⟩⟩
    have hparentheses := Reference.readIdentifierInParentheses_eq_some_iff.mpr
      ⟨before, inside, after, hbefore, hinside, hafter, hname, rfl,
        Eq.refl (before ++ '(' :: inside ++ name ++ after ++ [')'] ++ rest)⟩
    dsimp only
    rw [read, List.append_assoc, List.append_assoc, Reference.readWord_append]
    simp only [Option.bind_eq_bind, Option.bind_some, hskip, hparentheses]

theorem balanced_of_read {cs : List Char} {front : FrontReference String}
    (hread : read cs = some front) : Balanced front.text := by
  obtain ⟨type, before, inside, name, after, htype, hbefore, hinside, hafter, hname, -, htext, -⟩ :=
    read_eq_some_iff.mp hread
  have hword : Balanced word :=
    TypeArgument.balanced_of_not_mem_marks (List.all_iff_forall_prop.mp (by decide))
  have htypeBalanced : Balanced type := by
    rcases htype with rfl | ⟨text, hbalanced, rfl⟩
    · exact TypeArgument.balanced_nil
    · exact hbalanced.angles
  have hnameBalanced : Balanced name := TypeArgument.balanced_of_not_mem_marks fun c hc ↦
    TypeArgument.not_mem_marks_of_isWordChar (hname.isWordChar c hc)
  have hparens := ((hinside.balanced.append hnameBalanced).append hafter.balanced).parens
  have hsplit : front.text =
      word ++ type ++ (before ++ ('(' :: (inside ++ name ++ after) ++ [')'])) := by
    rw [htext]
    simp
  rw [hsplit]
  exact (hword.append htypeBalanced).append (hbefore.balanced.append hparens)

end OldValue

end GuardedProxy
