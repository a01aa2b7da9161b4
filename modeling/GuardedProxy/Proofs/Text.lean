import GuardedProxy.Text.Trim
import Mathlib.Data.Bool.AllAny
import Mathlib.Data.List.TakeWhile

/-!
# Trimmed text

What trimming leaves of a text, and where the blanks before a character end. A word has no blanks to
trim.
-/

namespace GuardedProxy.Text

theorem not_isBlank_of_isWordChar {c : Char} (hword : isWordChar c = true) : isBlank c = false := by
  rw [Bool.eq_false_iff]
  intro hblank
  rw [not_isWordChar_of_isBlank hblank] at hword
  exact Bool.false_ne_true hword

theorem isAscii_of_isAlpha {c : Char} (halpha : c.isAlpha = true) : isAscii c = true := by
  unfold Char.isAlpha Char.isUpper Char.isLower at halpha
  simp only [Bool.or_eq_true, Bool.and_eq_true, decide_eq_true_eq, UInt32.le_iff_toNat_le,
    ge_iff_le] at halpha
  change (65 ≤ c.toNat ∧ c.toNat ≤ 90) ∨ (97 ≤ c.toNat ∧ c.toNat ≤ 122) at halpha
  rw [isAscii, decide_eq_true_eq]
  omega

theorem isWordChar_of_isIdentifierStart {c : Char} (hstart : isIdentifierStart c = true) :
    isWordChar c = true := by
  rw [isIdentifierStart, Bool.or_eq_true, beq_iff_eq] at hstart
  rcases hstart with halpha | rfl
  · simp [isWordChar, isAlphabetic, isNewest, isAscii_of_isAlpha halpha, halpha]
  · decide

theorem trimStart_eq_nil_iff {cs : List Char} : trimStart cs = [] ↔ cs.all isBlank = true := by
  rw [trimStart, List.dropWhile_eq_nil_iff, List.all_eq_true]

theorem trimEnd_eq_nil_iff {cs : List Char} : trimEnd cs = [] ↔ cs.all isBlank = true := by
  rw [trimEnd, List.reverse_eq_nil_iff, List.dropWhile_eq_nil_iff, List.all_eq_true]
  simp only [List.mem_reverse]

/-- Trimming leaves nothing of a blank text, and something of any other. -/
theorem trim_eq_nil_iff {cs : List Char} : trim cs = [] ↔ cs.all isBlank = true := by
  rw [trim, trimEnd_eq_nil_iff]
  constructor
  · intro hblank
    have hleading : (leadingBlanks cs).all isBlank = true := List.all_takeWhile
    rw [← leadingBlanks_append_trimStart cs, List.all_append, hleading, hblank]
    rfl
  · intro hblank
    rw [trimStart_eq_nil_iff.mpr hblank]
    rfl

/-- Trimming stops at the first character that is no blank. -/
theorem trimStart_blanks_append {blanks rest : List Char} {c : Char}
    (hblanks : ∀ b ∈ blanks, isBlank b = true) (hc : isBlank c = false) :
    trimStart (blanks ++ c :: rest) = c :: rest := by
  rw [trimStart, List.dropWhile_append_of_pos hblanks, List.dropWhile_cons_of_neg (by simp [hc])]

theorem leadingBlanks_blanks_append {blanks rest : List Char} {c : Char}
    (hblanks : ∀ b ∈ blanks, isBlank b = true) (hc : isBlank c = false) :
    leadingBlanks (blanks ++ c :: rest) = blanks := by
  rw [leadingBlanks, List.takeWhile_append_of_pos hblanks, List.takeWhile_cons_of_neg (by simp [hc]),
    List.append_nil]

theorem isBlank_of_mem_leadingBlanks {cs : List Char} {c : Char} (h : c ∈ leadingBlanks cs) :
    isBlank c = true :=
  List.all_eq_true.mp List.all_takeWhile c h

/-- Nothing is trimmed off a text that begins and ends with characters that are not blank. -/
theorem trim_eq_self {cs : List Char} {first last : Char} (hfirst : isBlank first = false)
    (hlast : isBlank last = false) : trim (first :: cs ++ [last]) = first :: cs ++ [last] := by
  have hstart : trimStart (first :: cs ++ [last]) = first :: cs ++ [last] := by
    rw [trimStart, List.cons_append, List.dropWhile_cons_of_neg (by simp [hfirst])]
  rw [trim, hstart, trimEnd, List.reverse_append, List.reverse_singleton, List.singleton_append,
    List.dropWhile_cons_of_neg (by simp [hlast]), List.reverse_cons, List.reverse_reverse]

/-- Trimming takes off blanks at both ends and nothing else. -/
theorem exists_trim_append (cs : List Char) :
    ∃ before after, (∀ c ∈ before, isBlank c = true) ∧ (∀ c ∈ after, isBlank c = true) ∧
      before ++ trim cs ++ after = cs := by
  refine ⟨leadingBlanks cs, ((trimStart cs).reverse.takeWhile isBlank).reverse, ?_, ?_, ?_⟩
  · exact fun c ↦ isBlank_of_mem_leadingBlanks
  · intro c hc
    exact isBlank_of_mem_leadingBlanks (List.mem_reverse.mp hc)
  · rw [List.append_assoc, trim, trimEnd, ← List.reverse_append, List.takeWhile_append_dropWhile,
      List.reverse_reverse, leadingBlanks_append_trimStart]

theorem isInfix_trim (cs : List Char) : trim cs <:+: cs := by
  obtain ⟨before, after, -, -, hcs⟩ := exists_trim_append cs
  exact ⟨before, after, hcs⟩

theorem mem_of_mem_trim {cs : List Char} {c : Char} (h : c ∈ trim cs) : c ∈ cs :=
  (isInfix_trim cs).subset h

/-- Blanks around a text do not count in what trimming leaves. -/
theorem trim_append_blanks {before after : List Char} (hbefore : ∀ c ∈ before, isBlank c = true)
    (hafter : ∀ c ∈ after, isBlank c = true) (cs : List Char) :
    trim (before ++ cs ++ after) = trim cs := by
  rw [trim, trimStart, List.append_assoc, List.dropWhile_append_of_pos hbefore]
  by_cases hcs : cs.all isBlank = true
  · have hall : (cs ++ after).all isBlank = true := by
      rw [List.all_append, hcs, List.all_eq_true.mpr hafter, Bool.and_true]
    rw [trim_eq_nil_iff.mpr hcs]
    exact trim_eq_nil_iff.mpr hall
  · have hne : (cs.dropWhile isBlank).isEmpty = false := by
      rw [List.isEmpty_eq_false_iff]
      exact fun h ↦ hcs (trimStart_eq_nil_iff.mp h)
    rw [List.dropWhile_append, hne, if_neg Bool.false_ne_true, trimEnd, List.reverse_append,
      List.dropWhile_append_of_pos fun c hc ↦ hafter c (List.mem_reverse.mp hc)]
    rfl

/-- Trimming twice is trimming once. -/
theorem trim_trim (cs : List Char) : trim (trim cs) = trim cs := by
  obtain ⟨before, after, hbefore, hafter, hcs⟩ := exists_trim_append cs
  calc trim (trim cs)
      = trim (before ++ trim cs ++ after) := (trim_append_blanks hbefore hafter _).symm
    _ = trim cs := congrArg trim hcs

theorem trimEnd_cons {c : Char} (hc : isBlank c = false) (rest : List Char) :
    trimEnd (c :: rest) = c :: trimEnd rest := by
  have hreverse : (rest.reverse ++ [c]).dropWhile isBlank =
      rest.reverse.dropWhile isBlank ++ [c] := by
    rw [List.dropWhile_append]
    split
    · rename_i hempty
      rw [List.dropWhile_cons_of_neg (by simp [hc]), List.isEmpty_iff.mp hempty, List.nil_append]
    · rfl
  rw [trimEnd, List.reverse_cons, hreverse, List.reverse_append, trimEnd]
  rfl

/-- What trimming leaves begins with a character that is not blank. -/
theorem trim_cases (cs : List Char) :
    trim cs = [] ∨ ∃ c rest, isBlank c = false ∧ trim cs = c :: rest := by
  cases hstart : trimStart cs with
  | nil =>
    rw [trim, hstart]
    exact Or.inl rfl
  | cons c rest =>
    have hc : isBlank c = false := by
      have hhead := List.head?_dropWhile_not isBlank cs
      rw [← trimStart, hstart] at hhead
      exact hhead
    rw [trim, hstart, trimEnd_cons hc]
    exact Or.inr ⟨c, _, hc, rfl⟩

end GuardedProxy.Text
