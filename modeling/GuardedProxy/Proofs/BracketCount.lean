import GuardedProxy.Proofs.BalancedText
import GuardedProxy.Proofs.Lists

/-!
# Type arguments by counting

The search for the end of a type argument keeps its counts from one character to the next. Where it
ends can be told without a search, by how often each bracket comes in the parts of the text that
stand before a place. The bracket that closes the first one ends the shortest part in which both
angle brackets come equally often. A segment in which all brackets are paired changes none of these
counts, so it can be put in or taken out between the brackets and only moves the closing one.
-/

namespace GuardedProxy.TypeArgument

/-- Behind the text a count that began at `before` stands at `after`, and it never fell below zero:
the opening character raises it and the closing character lowers it. -/
structure Counts (opening closing : Char) (before : Nat) (text : List Char) (after : Nat) :
    Prop where
  count_le : ∀ front, front <+: text → front.count closing ≤ before + front.count opening
  count_eq : before + text.count opening = after + text.count closing

/-- No part at the front of the text has more closing characters than opening ones, and the whole of
it has as many. -/
structure Paired (opening closing : Char) (text : List Char) : Prop where
  count_le : ∀ front, front <+: text → front.count closing ≤ front.count opening
  count_eq : text.count opening = text.count closing

/-- The whole text has as many opening characters as closing ones, and every shorter part at its
front, unless it is empty, has more. -/
structure Encloses (opening closing : Char) (text : List Char) : Prop where
  count_lt : ∀ front, front <+: text → front ≠ [] → front ≠ text →
    front.count closing < front.count opening
  count_eq : text.count opening = text.count closing

section Count

variable {opening closing : Char} {before after : Nat} {text inside : List Char}

theorem counts_zero_iff : Counts opening closing 0 text 0 ↔ Paired opening closing text := by
  constructor
  · rintro ⟨hle, heq⟩
    exact ⟨fun front hfront ↦ by simpa using hle front hfront, by simpa using heq⟩
  · rintro ⟨hle, heq⟩
    exact ⟨fun front hfront ↦ by simpa using hle front hfront, by simpa using heq⟩

theorem counts_nil_iff : Counts opening closing before [] after ↔ before = after := by
  constructor
  · rintro ⟨-, heq⟩
    simpa using heq
  · rintro rfl
    refine ⟨?_, rfl⟩
    intro front hfront
    rw [List.prefix_nil.mp hfront]
    simp

theorem counts_cons_iff {c : Char} :
    Counts opening closing before (c :: text) after ↔
      ∃ middle, before + [c].count opening = middle + [c].count closing ∧
        Counts opening closing middle text after := by
  have hcons (x : Char) (front : List Char) :
      (c :: front).count x = [c].count x + front.count x := by
    rw [← List.count_append, List.singleton_append]
  constructor
  · rintro ⟨hle, heq⟩
    have hfirst : [c].count closing ≤ before + [c].count opening :=
      hle [c] (List.prefix_append [c] text)
    refine ⟨before + [c].count opening - [c].count closing, by omega, ?_, ?_⟩
    · intro front hfront
      have hlonger := hle (c :: front) (List.cons_prefix_cons.mpr ⟨rfl, hfront⟩)
      rw [hcons closing front, hcons opening front] at hlonger
      omega
    · rw [hcons closing text, hcons opening text] at heq
      omega
  · rintro ⟨middle, hmiddle, hle, heq⟩
    constructor
    · intro front hfront
      rcases List.prefix_cons_iff.mp hfront with rfl | ⟨rest, rfl, hrest⟩
      · simp
      · have hshorter := hle rest hrest
        rw [hcons closing rest, hcons opening rest]
        omega
    · rw [hcons closing text, hcons opening text]
      omega

/-- A text in two parts is counted through if there is a count between them. -/
theorem counts_append_iff {back : List Char} :
    Counts opening closing before (text ++ back) after ↔
      ∃ middle, Counts opening closing before text middle ∧
        Counts opening closing middle back after := by
  induction text generalizing before with
  | nil => simp [counts_nil_iff]
  | cons c text ih =>
    simp only [List.cons_append, counts_cons_iff, ih]
    constructor
    · rintro ⟨first, hfirst, middle, htext, hback⟩
      exact ⟨middle, ⟨first, hfirst, htext⟩, hback⟩
    · rintro ⟨middle, ⟨first, hfirst, htext⟩, hback⟩
      exact ⟨first, hfirst, middle, htext, hback⟩

theorem counts_singleton_iff {c : Char} (hopening : c ≠ opening) (hclosing : c ≠ closing) :
    Counts opening closing before [c] after ↔ before = after := by
  rw [counts_cons_iff]
  simp [hopening, hclosing, counts_nil_iff]

/-- Other characters at both ends of a text change nothing about its pairs. -/
theorem paired_around_iff {first last : Char} (hfirst : first ≠ opening ∧ first ≠ closing)
    (hlast : last ≠ opening ∧ last ≠ closing) :
    Paired opening closing (first :: inside ++ [last]) ↔ Paired opening closing inside := by
  have hsplit : first :: inside ++ [last] = [first] ++ inside ++ [last] := rfl
  rw [← counts_zero_iff, ← counts_zero_iff, hsplit, counts_append_iff]
  simp only [counts_append_iff, counts_singleton_iff hfirst.1 hfirst.2,
    counts_singleton_iff hlast.1 hlast.2, exists_eq_left', exists_eq_right]

/-- A pair of brackets around a text encloses it if the brackets of the text are paired. -/
theorem encloses_iff (hne : opening ≠ closing) :
    Encloses opening closing (opening :: inside ++ [closing]) ↔ Paired opening closing inside := by
  have hopening (front : List Char) :
      (opening :: front).count opening = front.count opening + 1 ∧
        (opening :: front).count closing = front.count closing := by
    rw [List.count_cons_self, List.count_cons_of_ne hne]
    exact ⟨rfl, rfl⟩
  have hwhole : (inside ++ [closing]).count opening = inside.count opening ∧
      (inside ++ [closing]).count closing = inside.count closing + 1 := by
    simp [List.count_append, hne.symm]
  rw [List.cons_append]
  constructor
  · rintro ⟨hlt, heq⟩
    constructor
    · intro front hfront
      have hwithin : opening :: front <+: opening :: (inside ++ [closing]) :=
        List.cons_prefix_cons.mpr ⟨rfl, hfront.trans (List.prefix_append inside [closing])⟩
      have hshorter : opening :: front ≠ opening :: (inside ++ [closing]) := by
        intro hsame
        have hlength := hfront.length_le
        rw [(List.cons.inj hsame).2, List.length_append, List.length_singleton] at hlength
        omega
      have hless := hlt _ hwithin (List.cons_ne_nil _ _) hshorter
      rw [(hopening front).1, (hopening front).2] at hless
      omega
    · rw [(hopening _).1, (hopening _).2, hwhole.1, hwhole.2] at heq
      omega
  · rintro ⟨hle, heq⟩
    constructor
    · intro front hfront hnonempty hshorter
      rcases List.prefix_cons_iff.mp hfront with rfl | ⟨rest, rfl, hrest⟩
      · exact absurd rfl hnonempty
      · rcases List.prefix_concat_iff.mp hrest with rfl | hwithin
        · exact absurd rfl hshorter
        · have hless := hle rest hwithin
          rw [(hopening rest).1, (hopening rest).2]
          omega
    · rw [(hopening _).1, (hopening _).2, hwhole.1, hwhole.2]
      omega

end Count

/-! ## The search and the counts -/

/-- All brackets of the text are paired, and nothing in it ends the search. -/
structure IsEven (text : List Char) : Prop where
  angles : Paired '<' '>' text
  parens : Paired '(' ')' text
  no_semicolon : ';' ∉ text
  no_quote : '"' ∉ text

/-- The text is what a pair of angle brackets encloses, with the two brackets: its parentheses are
paired, and nothing in it ends the search. -/
structure IsEnclosed (text : List Char) : Prop where
  angles : Encloses '<' '>' text
  parens : Paired '(' ')' text
  no_semicolon : ';' ∉ text
  no_quote : '"' ∉ text

theorem isEnclosed_iff {inside : List Char} :
    IsEnclosed ('<' :: inside ++ ['>']) ↔ IsEven inside := by
  have hangles : Encloses '<' '>' ('<' :: inside ++ ['>']) ↔ Paired '<' '>' inside :=
    encloses_iff (by decide)
  have hparens : Paired '(' ')' ('<' :: inside ++ ['>']) ↔ Paired '(' ')' inside :=
    paired_around_iff (by decide) (by decide)
  constructor
  · rintro ⟨ha, hp, hsemicolon, hquote⟩
    exact ⟨hangles.mp ha, hparens.mp hp, by simp_all, by simp_all⟩
  · rintro ⟨ha, hp, hsemicolon, hquote⟩
    exact ⟨hangles.mpr ha, hparens.mpr hp, by simp_all, by simp_all⟩

/-- One step of the search keeps two counts and stops at a semicolon or a double quote. -/
theorem pass_eq_some_iff {counts after : Nat × Nat} {c : Char} :
    pass counts c = some after ↔ (c ≠ ';' ∧ c ≠ '"') ∧
      counts.1 + [c].count '<' = after.1 + [c].count '>' ∧
      counts.2 + [c].count '(' = after.2 + [c].count ')' := by
  obtain ⟨angles, parens⟩ := counts
  by_cases hmark : c ∈ marks
  · simp only [marks, List.mem_cons, List.not_mem_nil, or_false] at hmark
    rcases hmark with rfl | rfl | rfl | rfl | rfl | rfl
    · simp [pass, Prod.ext_iff]
    · cases angles <;> simp [pass, Prod.ext_iff]
    · simp [pass, Prod.ext_iff]
    · cases parens <;> simp [pass, Prod.ext_iff]
    · simp [pass]
    · simp [pass]
  · rw [pass_of_not_mem_marks hmark]
    simp only [marks, List.mem_cons, List.not_mem_nil, or_false, not_or] at hmark
    simp [Prod.ext_iff, hmark]

/-- The search passes over a text exactly when both of its counts stay with the text. -/
theorem foldlM_pass_eq_some_iff {counts after : Nat × Nat} {text : List Char} :
    text.foldlM pass counts = some after ↔ (';' ∉ text ∧ '"' ∉ text) ∧
      Counts '<' '>' counts.1 text after.1 ∧ Counts '(' ')' counts.2 text after.2 := by
  induction text generalizing counts with
  | nil => simp [counts_nil_iff, Prod.ext_iff]
  | cons c text ih =>
    simp only [List.foldlM_cons, Option.bind_eq_bind, Option.bind_eq_some_iff, pass_eq_some_iff, ih,
      counts_cons_iff, List.mem_cons, not_or]
    constructor
    · rintro ⟨middle, ⟨hc, hangles, hparens⟩, ⟨hsemicolon, hquote⟩, hrestAngles, hrestParens⟩
      exact ⟨⟨⟨hc.1.symm, hsemicolon⟩, hc.2.symm, hquote⟩, ⟨middle.1, hangles, hrestAngles⟩,
        middle.2, hparens, hrestParens⟩
    · rintro ⟨⟨⟨hfirst, hsemicolon⟩, hsecond, hquote⟩, ⟨angles, hangles, hrestAngles⟩, parens,
        hparens, hrestParens⟩
      exact ⟨(angles, parens), ⟨⟨Ne.symm hfirst, Ne.symm hsecond⟩, hangles, hparens⟩,
        ⟨hsemicolon, hquote⟩, hrestAngles, hrestParens⟩

/-- Balanced text is told by its counts alone. -/
theorem balanced_iff_isEven {text : List Char} : Balanced text ↔ IsEven text := by
  have hcounts : text.foldlM pass (0, 0) = some (0, 0) ↔ IsEven text := by
    rw [foldlM_pass_eq_some_iff, counts_zero_iff, counts_zero_iff]
    exact ⟨fun ⟨⟨hsemicolon, hquote⟩, hangles, hparens⟩ ↦ ⟨hangles, hparens, hsemicolon, hquote⟩,
      fun ⟨hangles, hparens, hsemicolon, hquote⟩ ↦ ⟨⟨hsemicolon, hquote⟩, hangles, hparens⟩⟩
  rw [← hcounts]
  exact ⟨fun h ↦ h (0, 0), balanced_of_foldlM⟩

/-- The closing bracket stands behind the balanced text inside, at the byte where that text ends. -/
theorem closingByte_eq_some_iff {text : List Char} {i : Nat} :
    closingByte text = some i ↔ ∃ inside rest, text = '<' :: inside ++ '>' :: rest ∧
      Balanced inside ∧ Text.byteLength ('<' :: inside) = i := by
  rw [closingByte, Option.map_eq_some_iff]
  constructor
  · rintro ⟨⟨inside, rest⟩, hread, hbytes⟩
    obtain ⟨htext, hinside⟩ := read_eq_some_iff.mp hread
    exact ⟨inside, rest, htext, hinside, hbytes⟩
  · rintro ⟨inside, rest, htext, hinside, hbytes⟩
    exact ⟨(inside, rest), read_eq_some_iff.mpr ⟨htext, hinside⟩, hbytes⟩

/-- A balanced segment can be put in or taken out anywhere. -/
theorem Balanced.insert_iff {segment : List Char} (hsegment : Balanced segment)
    (front back : List Char) : Balanced (front ++ segment ++ back) ↔ Balanced (front ++ back) := by
  have hpass (counts : Nat × Nat) :
      (front ++ segment ++ back).foldlM pass counts = (front ++ back).foldlM pass counts := by
    rw [List.foldlM_append, List.foldlM_append, List.foldlM_append]
    cases front.foldlM pass counts with
    | none => rfl
    | some middle => simp [hsegment middle]
  simp only [Balanced, hpass]

/-- A bracket before which no fewer bytes stand than before a place stands behind the place. -/
theorem exists_between_of_byteLength_le {front back inside rest : List Char} {bracket : Char}
    (hsplit : front ++ back = inside ++ bracket :: rest)
    (hplace : Text.byteLength front ≤ Text.byteLength inside) :
    ∃ between, inside = front ++ between ∧ back = between ++ bracket :: rest := by
  rcases Lists.append_cons_cases hsplit with hbehind | ⟨within, rfl, -⟩
  · exact hbehind
  · have hsize := bracket.utf8Size_pos
    rw [Text.byteLength_append, Text.byteLength_cons] at hplace
    omega

/-- The closing bracket does not stand in a balanced segment: it would close a bracket that was
opened before the segment. -/
theorem Balanced.exists_between {front segment back inside rest : List Char}
    (hsegment : Balanced segment) (hinside : Balanced (front ++ inside))
    (hsplit : segment ++ back = inside ++ '>' :: rest) :
    ∃ between, inside = segment ++ between ∧ back = between ++ '>' :: rest := by
  rcases Lists.append_cons_cases hsplit with hbehind | ⟨within, rfl, -⟩
  · exact hbehind
  · have hopen := hinside (0, 0)
    rw [List.foldlM_append, Option.bind_eq_bind, Option.bind_eq_some_iff] at hopen
    obtain ⟨counts, -, hcounts⟩ := hopen
    have hclosed := hsegment counts
    rw [List.foldlM_append, hcounts, Option.bind_eq_bind, Option.bind_some,
      List.foldlM_cons] at hclosed
    exact absurd hclosed (by simp [pass])

section Closing

variable {front segment back : List Char} {i : Nat}

/-- A balanced segment before the closing bracket moves it by the bytes of the segment. -/
theorem closingByte_insert (hsegment : Balanced segment)
    (hplace : Text.byteLength ('<' :: front) ≤ i)
    (hclosing : closingByte ('<' :: front ++ back) = some i) :
    closingByte ('<' :: front ++ segment ++ back) = some (i + Text.byteLength segment) := by
  obtain ⟨inside, rest, htext, hinside, rfl⟩ := closingByte_eq_some_iff.mp hclosing
  obtain ⟨between, heq, rfl⟩ := exists_between_of_byteLength_le htext hplace
  obtain rfl : inside = front ++ between := (List.cons.inj heq).2
  refine closingByte_eq_some_iff.mpr ⟨front ++ segment ++ between, rest, by simp, ?_, ?_⟩
  · exact (hsegment.insert_iff front between).mpr hinside
  · simp only [Text.byteLength_cons, Text.byteLength_append]
    omega

/-- Taking a balanced segment out moves the closing bracket back by the bytes of the segment. -/
theorem closingByte_delete (hsegment : Balanced segment)
    (hplace : Text.byteLength ('<' :: front) ≤ i)
    (hclosing : closingByte ('<' :: front ++ segment ++ back) = some i) :
    Text.byteLength segment ≤ i ∧
      closingByte ('<' :: front ++ back) = some (i - Text.byteLength segment) := by
  obtain ⟨inside, rest, htext, hinside, rfl⟩ := closingByte_eq_some_iff.mp hclosing
  rw [List.append_assoc] at htext
  obtain ⟨behind, heq, hbehind⟩ := exists_between_of_byteLength_le htext hplace
  obtain rfl : inside = front ++ behind := (List.cons.inj heq).2
  obtain ⟨between, rfl, rfl⟩ := hsegment.exists_between hinside hbehind
  rw [← List.append_assoc] at hinside
  have hbytes : Text.byteLength ('<' :: (front ++ (segment ++ between))) =
      Text.byteLength ('<' :: (front ++ between)) + Text.byteLength segment := by
    simp only [Text.byteLength_cons, Text.byteLength_append]
    omega
  rw [hbytes]
  refine ⟨Nat.le_add_left _ _,
    closingByte_eq_some_iff.mpr ⟨front ++ between, rest, by simp, ?_, ?_⟩⟩
  · exact (hsegment.insert_iff front between).mp hinside
  · exact (Nat.add_sub_cancel _ _).symm

/-- Nothing behind the closing bracket counts. -/
theorem closingByte_append {upTo rest : List Char} (hbytes : Text.byteLength upTo = i + 1)
    (hclosing : closingByte (upTo ++ rest) = some i) (other : List Char) :
    closingByte (upTo ++ other) = some i := by
  obtain ⟨inside, behind, hsplit, hinside, rfl⟩ := closingByte_eq_some_iff.mp hclosing
  rcases Lists.append_cons_cases hsplit with ⟨between, heq, -⟩ | ⟨within, rfl, -⟩
  · rw [heq, Text.byteLength_append] at hbytes
    omega
  · have hsize : Char.utf8Size '>' = 1 := rfl
    rw [Text.byteLength_append, Text.byteLength_cons '>', hsize] at hbytes
    cases within with
    | nil => exact closingByte_eq_some_iff.mpr ⟨inside, other, by simp, hinside, rfl⟩
    | cons c within =>
      have hpos := c.utf8Size_pos
      rw [Text.byteLength_cons c] at hbytes
      omega

/-- The closing bracket is the one up to which the text is enclosed. -/
theorem closingByte_eq_some_iff_isEnclosed {text : List Char} (htext : text.head? = some '<') :
    closingByte text = some i ↔ ∃ front rest, text = front ++ '>' :: rest ∧
      Text.byteLength front = i ∧ IsEnclosed (front ++ ['>']) := by
  rw [closingByte_eq_some_iff]
  constructor
  · rintro ⟨inside, rest, rfl, hinside, hbytes⟩
    exact ⟨'<' :: inside, rest, rfl, hbytes, isEnclosed_iff.mpr (balanced_iff_isEven.mp hinside)⟩
  · rintro ⟨front, rest, rfl, hbytes, henclosed⟩
    cases front with
    | nil => exact absurd htext (by simp)
    | cons c inside =>
      obtain rfl : c = '<' := Option.some.inj htext
      exact ⟨inside, rest, rfl, balanced_iff_isEven.mpr (isEnclosed_iff.mp henclosed), hbytes⟩

end Closing

/-- Counting tells which bracket closes the first one of a text. What stands behind the closing
bracket does not matter, and an even segment that is put in or taken out before it, anywhere behind
the first bracket, moves it by the bytes of the segment. -/
theorem closingByte_counts {text : List Char} (htext : text.head? = some '<') (i : Nat) :
    (closingByte text = some i ↔ ∃ front rest, text = front ++ '>' :: rest ∧
      Text.byteLength front = i ∧ IsEnclosed (front ++ ['>'])) ∧
    (closingByte text = some i → ∀ upTo rest other, text = upTo ++ rest →
      Text.byteLength upTo = i + 1 → closingByte (upTo ++ other) = some i) ∧
    (closingByte text = some i → ∀ front segment back, IsEven segment →
      Text.byteLength ('<' :: front) ≤ i →
      (text = '<' :: front ++ back →
        closingByte ('<' :: front ++ segment ++ back) = some (i + Text.byteLength segment)) ∧
      (text = '<' :: front ++ segment ++ back → Text.byteLength segment ≤ i ∧
        closingByte ('<' :: front ++ back) = some (i - Text.byteLength segment))) := by
  refine ⟨closingByte_eq_some_iff_isEnclosed htext, ?_, ?_⟩
  · rintro hclosing upTo rest other rfl hbytes
    exact closingByte_append hbytes hclosing other
  · intro hclosing front segment back heven hplace
    have hsegment : Balanced segment := balanced_iff_isEven.mpr heven
    constructor
    · rintro rfl
      exact closingByte_insert hsegment hplace hclosing
    · rintro rfl
      exact closingByte_delete hsegment hplace hclosing

/-- A type with letters of two bytes. The pair that is put in before the first of them takes up four
bytes. -/
theorem closingByte_counts_tuple :
    let text := "<Größe, (int, T)>()".toList
    closingByte text = some 18 ∧ IsEven "<é>".toList ∧
      closingByte "<Gr<é>öße, (int, T)>()".toList = some 22 := by
  intro text
  have hclosing : closingByte text = some 18 := by decide
  have heven : IsEven "<é>".toList := balanced_iff_isEven.mp (balanced_of_foldlM rfl)
  obtain ⟨-, -, hinsert⟩ := closingByte_counts (rfl : text.head? = some '<') 18
  have hmoved := (hinsert hclosing "Gr".toList _ "öße, (int, T)>()".toList heven (by decide)).1 rfl
  exact ⟨hclosing, heven, hmoved⟩

end GuardedProxy.TypeArgument
