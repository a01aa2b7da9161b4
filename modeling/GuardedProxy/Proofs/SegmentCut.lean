import GuardedProxy.Proofs.Lists
import GuardedProxy.Reference.Segment

/-!
# The cut of a condition

The cut of a text tries every character. The scan divides a text as the cut does, although it goes
on behind the opening where nothing can be read: no reference begins inside of an opening. As a
relation, a list of segments is the cut of the text that it spells when every reference in it was
read off the text at its place, with no word reaching into it, and when nothing could be read where
a plain character stands and no word reaches into it. The relation passes to the end of a cut,
whatever is taken off its front. References have their places in the order in which they stand.
-/

namespace GuardedProxy.Segment

variable {α : Type} {pattern : ReferencePattern α} {inWord : Bool}

/-- Cuts a text with a try at every character. The flag tells whether a word character stands just
before it. -/
def cut (pattern : ReferencePattern α) (inWord : Bool) (cs : List Char) : List (Segment α) :=
  match cs with
  | [] => []
  | c :: rest =>
    if inWord then
      plain c :: cut pattern (Text.isWordChar c) rest
    else
      match _h : pattern.read (c :: rest) with
      | none => plain c :: cut pattern (Text.isWordChar c) rest
      | some front => reference front.value front.text :: cut pattern false front.rest
termination_by cs.length
decreasing_by
  · simp
  · simp
  · exact pattern.length_of_read _h

/-- The cut loses nothing. -/
theorem flatMap_text_cut (pattern : ReferencePattern α) (inWord : Bool) (cs : List Char) :
    (cut pattern inWord cs).flatMap text = cs := by
  fun_induction cut pattern inWord cs with
  | case1 => rfl
  | case2 c rest ih => simpa [text] using ih
  | case3 inWord c rest _ _ ih => simpa [text] using ih
  | case4 inWord c rest _ front h ih =>
    rw [List.flatMap_cons, ih]
    exact pattern.append_of_read h

theorem cut_cons_of_read_eq_none {c : Char} {rest : List Char}
    (hnone : inWord = false → pattern.read (c :: rest) = none) :
    cut pattern inWord (c :: rest) = plain c :: cut pattern (Text.isWordChar c) rest := by
  rw [cut]
  split
  · rfl
  · rename_i hword
    split
    · rfl
    · rename_i hread
      rw [hnone (Bool.eq_false_iff.mpr hword)] at hread
      exact absurd hread.symm (Option.some_ne_none _)

/-- What can be read at the beginning of a text is its first segment. -/
theorem cut_of_read {cs : List Char} {front : FrontReference α}
    (hread : pattern.read cs = some front) :
    cut pattern false cs = .reference front.value front.text :: cut pattern false front.rest := by
  cases cs with
  | nil =>
    have happend := pattern.append_of_read hread
    exact absurd (List.append_eq_nil_iff.mp happend).1 (pattern.ne_nil_of_read hread)
  | cons c cs =>
    rw [cut, if_neg Bool.false_ne_true]
    split
    · rename_i hnone
      rw [hnone] at hread
      exact absurd hread (Option.some_ne_none front).symm
    · rename_i found hfound
      obtain rfl := Option.some.inj (hfound.symm.trans hread)
      rfl

/-- Where nothing can be read, the characters are cut off one by one. -/
theorem cut_append_of_read_eq_none {skipped rest : List Char}
    (hnone : ∀ left right, skipped = left ++ right → right ≠ [] →
      pattern.read (right ++ rest) = none) (inWord : Bool) :
    cut pattern inWord (skipped ++ rest) =
      skipped.map plain ++ cut pattern (endsInWord inWord skipped) rest := by
  induction skipped generalizing inWord with
  | nil => rfl
  | cons c skipped ih =>
    have hhere : pattern.read (c :: (skipped ++ rest)) = none :=
      hnone [] (c :: skipped) rfl (List.cons_ne_nil _ _)
    rw [List.cons_append, cut_cons_of_read_eq_none fun _ ↦ hhere,
      ih fun left right hsplit ↦ hnone (c :: left) right (congrArg (c :: ·) hsplit)]
    rfl

theorem prefix_of_begins {opening : Opening} {cs : List Char} (hbegins : opening.begins cs = true) :
    opening.text <+: cs :=
  List.isPrefixOf_iff_prefix.mp (Bool.and_eq_true_iff.mp hbegins).1

theorem read_eq_none_of_not_begins {cs : List Char} (hnot : ¬pattern.opening.begins cs = true) :
    pattern.read cs = none := by
  rw [Option.eq_none_iff_forall_ne_some]
  intro front hread
  exact hnot (pattern.begins_of_read hread)

/-- No reference begins inside of an opening. -/
theorem read_eq_none_inside_opening {left right : List Char}
    (hopening : pattern.opening.text = left ++ right) (hleft : left ≠ []) (hright : right ≠ [])
    (rest : List Char) : pattern.read (right ++ rest) = none := by
  apply read_eq_none_of_not_begins
  intro hbegins
  have hprefix := prefix_of_begins hbegins
  have hunique := pattern.opening.head_not_mem_tail
  obtain ⟨first, left, rfl⟩ := List.exists_cons_of_ne_nil hleft
  obtain ⟨again, right, rfl⟩ := List.exists_cons_of_ne_nil hright
  rw [hopening] at hprefix
  simp only [hopening, List.cons_append, List.head_cons, List.tail_cons] at hunique
  obtain rfl : first = again := (List.cons_prefix_cons.mp hprefix).1
  exact hunique (List.mem_append_right left List.mem_cons_self)

/-- The scan finds what a try at every character finds. -/
theorem scan_eq_cut (pattern : ReferencePattern α) (inWord : Bool) (cs : List Char) :
    scan pattern inWord cs = cut pattern inWord cs := by
  fun_induction scan pattern inWord cs with
  | case1 => rw [cut]
  | case2 inWord c rest hopens front hread ih =>
    simp only [Bool.and_eq_true, Bool.not_eq_true'] at hopens
    rw [hopens.1, cut_of_read hread, ih]
  | case3 inWord c rest hopens hread ih =>
    simp only [Bool.and_eq_true, Bool.not_eq_true'] at hopens
    obtain ⟨after, hafter⟩ := prefix_of_begins hopens.2
    rw [← hafter, List.drop_left] at ih
    rw [hopens.1, ← hafter, List.drop_left, ih, cut_append_of_read_eq_none]
    -- at its first character the reading has failed, and at the others there is no opening
    intro left right hsplit hright
    cases left with
    | nil =>
      rw [List.nil_append] at hsplit
      rw [← hsplit, hafter]
      exact hread
    | cons first left =>
      exact read_eq_none_inside_opening hsplit (List.cons_ne_nil _ _) hright after
  | case4 inWord c rest hopens ih =>
    rw [ih, cut_cons_of_read_eq_none]
    rintro rfl
    exact read_eq_none_of_not_begins hopens

/-- A condition can be searched with a try at every character. -/
theorem ofCondition_eq_cut (pattern : ReferencePattern α) (condition : String) :
    ofCondition pattern condition = cut pattern false condition.toList :=
  scan_eq_cut pattern false condition.toList

/-- The text that the segments spell. -/
def spelling (segments : List (Segment α)) : List Char := segments.flatMap text

@[simp] theorem spelling_nil : spelling ([] : List (Segment α)) = [] := rfl

@[simp] theorem spelling_plain (c : Char) (segments : List (Segment α)) :
    spelling (plain c :: segments) = c :: spelling segments := rfl

@[simp] theorem spelling_reference (value : α) (text : List Char) (segments : List (Segment α)) :
    spelling (reference value text :: segments) = text ++ spelling segments := rfl

@[simp] theorem spelling_append (front back : List (Segment α)) :
    spelling (front ++ back) = spelling front ++ spelling back :=
  List.flatMap_append

/-- Whether a word character stands just behind the segments. A reference ends no word. -/
def wordBehind (inWord : Bool) : List (Segment α) → Bool
  | [] => inWord
  | plain c :: rest => wordBehind (Text.isWordChar c) rest
  | reference .. :: rest => wordBehind false rest

/-- The segments are the cut of the text that they spell, where the flag tells whether a word
character stands just before it. -/
inductive IsCut (pattern : ReferencePattern α) : Bool → List (Segment α) → Prop
  | nil (inWord : Bool) : IsCut pattern inWord []
  | plain {inWord : Bool} {c : Char} {rest : List (Segment α)}
      (hread : inWord = false → pattern.read (c :: spelling rest) = none)
      (hrest : IsCut pattern (Text.isWordChar c) rest) : IsCut pattern inWord (plain c :: rest)
  | reference {value : α} {text : List Char} {rest : List (Segment α)}
      (hread : pattern.read (text ++ spelling rest) = some ⟨value, text, spelling rest⟩)
      (hrest : IsCut pattern false rest) : IsCut pattern false (reference value text :: rest)

theorem isCut_cut (pattern : ReferencePattern α) (inWord : Bool) (cs : List Char) :
    IsCut pattern inWord (cut pattern inWord cs) := by
  fun_induction cut pattern inWord cs with
  | case1 => exact .nil _
  | case2 c rest ih => exact .plain (fun hfree ↦ absurd hfree.symm Bool.false_ne_true) ih
  | case3 inWord c rest _ hnone ih =>
    refine .plain (fun _ ↦ ?_) ih
    rw [spelling, flatMap_text_cut]
    exact hnone
  | case4 inWord c rest hfree front hread ih =>
    have hword : inWord = false := Bool.eq_false_iff.mpr hfree
    subst hword
    refine .reference ?_ ih
    rw [spelling, flatMap_text_cut, pattern.append_of_read hread]
    exact hread

theorem isCut_ofCondition (pattern : ReferencePattern α) (condition : String) :
    IsCut pattern false (ofCondition pattern condition) := by
  rw [ofCondition_eq_cut]
  exact isCut_cut pattern false condition.toList

theorem spelling_ofCondition (pattern : ReferencePattern α) (condition : String) :
    spelling (ofCondition pattern condition) = condition.toList := by
  rw [ofCondition_eq_cut]
  exact flatMap_text_cut pattern false condition.toList

/-- The end of a cut is the cut of what it spells. -/
theorem IsCut.append_right {front back : List (Segment α)}
    (hcut : IsCut pattern inWord (front ++ back)) :
    IsCut pattern (wordBehind inWord front) back := by
  induction front generalizing inWord with
  | nil => exact hcut
  | cons segment front ih =>
    cases hcut with
    | plain _ hrest => exact ih hrest
    | reference _ hrest => exact ih hrest

/-- A reference of a cut was read off the text at its place. -/
theorem IsCut.read_of_mem {segments : List (Segment α)} {value : α} {text : List Char}
    (hcut : IsCut pattern inWord segments) (hmem : .reference value text ∈ segments) :
    ∃ rest, pattern.read (text ++ rest) = some ⟨value, text, rest⟩ := by
  obtain ⟨front, back, rfl⟩ := List.append_of_mem hmem
  have hback := hcut.append_right
  generalize wordBehind inWord front = flag at hback
  cases hback with
  | reference hread _ => exact ⟨spelling back, hread⟩

/-- Where every reference needs a character that the text lacks, nothing is cut out. -/
theorem any_isReference_cut_of_not_mem {cs : List Char} {c : Char}
    (hneeds : ∀ {text front}, pattern.read text = some front → c ∈ front.text) (hc : c ∉ cs) :
    (cut pattern inWord cs).any isReference = false := by
  rw [List.any_eq_false]
  intro segment hmem hreference
  cases segment with
  | plain d => exact Bool.false_ne_true hreference
  | reference value text =>
    obtain ⟨rest, hread⟩ := (isCut_cut pattern inWord cs).read_of_mem hmem
    have htext : c ∈ text := hneeds hread
    have hspelling : c ∈ (cut pattern inWord cs).flatMap Segment.text :=
      List.mem_flatMap.mpr ⟨_, hmem, htext⟩
    rw [flatMap_text_cut] at hspelling
    exact hc hspelling

theorem endsInWord_append_singleton (inWord : Bool) (cs : List Char) (c : Char) :
    endsInWord inWord (cs ++ [c]) = Text.isWordChar c := by
  induction cs generalizing inWord with
  | nil => rfl
  | cons d cs ih => exact ih _

theorem wordBehind_append_plain (inWord : Bool) (segments : List (Segment α)) (c : Char) :
    wordBehind inWord (segments ++ [plain c]) = Text.isWordChar c := by
  induction segments generalizing inWord with
  | nil => rfl
  | cons segment segments ih =>
    cases segment with
    | plain d => exact ih _
    | reference value text => exact ih _

/-- A reference in a cut begins at a place of the text that no word reaches into. -/
theorem IsCut.exists_read_of_any {segments : List (Segment α)}
    (hcut : IsCut pattern inWord segments) (hany : segments.any isReference = true) :
    ∃ left right, spelling segments = left ++ right ∧ endsInWord inWord left = false ∧
      (pattern.read right).isSome = true := by
  induction hcut with
  | nil => simp at hany
  | @plain inWord c rest _ _ ih =>
    obtain ⟨left, right, hspelling, hleft, hright⟩ := ih (by simpa [isReference] using hany)
    exact ⟨c :: left, right, by rw [spelling_plain, hspelling, List.cons_append], hleft, hright⟩
  | @reference value text rest hread _ _ =>
    exact ⟨[], text ++ spelling rest, rfl, rfl, by rw [hread]; rfl⟩

/-- In a cut without references, nothing can be read where no word reaches into it. -/
theorem IsCut.read_eq_none_of_any {segments : List (Segment α)}
    (hcut : IsCut pattern inWord segments) (hany : segments.any isReference = false)
    {left right : List Char} {c : Char} (hspelling : spelling segments = left ++ c :: right)
    (hleft : endsInWord inWord left = false) : pattern.read (c :: right) = none := by
  induction hcut generalizing left with
  | nil => simp at hspelling
  | @plain inWord d rest hread _ ih =>
    cases left with
    | nil =>
      rw [spelling_plain, List.nil_append] at hspelling
      rw [← hspelling]
      exact hread hleft
    | cons e left =>
      obtain ⟨rfl, hrest⟩ := List.cons.inj hspelling
      exact ih (by simpa [isReference] using hany) hrest hleft
  | reference => simp [isReference] at hany

/-! ## Substitution -/

section Substitution

variable {replacement : α → List Char}

@[simp] theorem substitute_nil : substitute replacement ([] : List (Segment α)) = [] := rfl

@[simp] theorem substitute_plain (c : Char) (segments : List (Segment α)) :
    substitute replacement (plain c :: segments) = c :: substitute replacement segments := rfl

@[simp] theorem substitute_reference (value : α) (text : List Char) (segments : List (Segment α)) :
    substitute replacement (reference value text :: segments) =
      replacement value ++ substitute replacement segments := rfl

@[simp] theorem substitute_append (front back : List (Segment α)) :
    substitute replacement (front ++ back) =
      substitute replacement front ++ substitute replacement back :=
  List.flatMap_append

theorem substitute_eq_spelling {segments : List (Segment α)}
    (hany : segments.any isReference = false) :
    substitute replacement segments = spelling segments := by
  induction segments with
  | nil => rfl
  | cons segment segments ih =>
    cases segment with
    | plain c => rw [substitute_plain, spelling_plain, ih (by simpa [isReference] using hany)]
    | reference value text => simp [isReference] at hany

theorem mem_substitute {segments : List (Segment α)} {c : Char}
    (hc : c ∈ substitute replacement segments) :
    c ∈ spelling segments ∨
      ∃ value text, reference value text ∈ segments ∧ c ∈ replacement value := by
  obtain ⟨segment, hmem, hc⟩ := List.mem_flatMap.mp hc
  cases segment with
  | plain d => exact Or.inl (List.mem_flatMap.mpr ⟨plain d, hmem, hc⟩)
  | reference value text => exact Or.inr ⟨value, text, hmem, hc⟩

/-- A character that no replacement contains was there before the substitution. -/
theorem exists_plain_of_substitute_eq {segments : List (Segment α)} {left right : List Char}
    {c : Char}
    (hc : ∀ value text, reference value text ∈ segments → c ∉ replacement value)
    (hsubstitute : substitute replacement segments = left ++ c :: right) :
    ∃ front back, segments = front ++ plain c :: back ∧ substitute replacement front = left ∧
      substitute replacement back = right := by
  induction segments generalizing left with
  | nil => simp [substitute] at hsubstitute
  | cons segment segments ih =>
    have hrest : ∀ value text, reference value text ∈ segments → c ∉ replacement value :=
      fun value text hmem ↦ hc value text (List.mem_cons_of_mem _ hmem)
    cases segment with
    | plain d =>
      rw [substitute_plain] at hsubstitute
      cases left with
      | nil =>
        obtain ⟨rfl, hright⟩ := List.cons.inj hsubstitute
        exact ⟨[], segments, rfl, rfl, hright⟩
      | cons e left =>
        obtain ⟨rfl, htail⟩ := List.cons.inj hsubstitute
        obtain ⟨front, back, rfl, rfl, rfl⟩ := ih hrest htail
        exact ⟨plain d :: front, back, rfl, rfl, rfl⟩
    | reference value text =>
      -- the character lies behind the replacement
      have hnot := hc value text List.mem_cons_self
      rw [substitute_reference] at hsubstitute
      rcases Lists.append_cons_cases hsubstitute with
        ⟨between, hleft, htail⟩ | ⟨within, hvalue, -⟩
      · obtain ⟨front, back, rfl, hfront, rfl⟩ := ih hrest htail
        refine ⟨reference value text :: front, back, rfl, ?_, rfl⟩
        rw [substitute_reference, hfront, hleft]
      · exact absurd (hvalue ▸ List.mem_append_right _ List.mem_cons_self) hnot

end Substitution

theorem locate_eq_nil {segments : List (Segment α)} {offset : Nat}
    (hany : segments.any isReference = false) : locate offset segments = [] := by
  induction segments generalizing offset with
  | nil => rfl
  | cons segment segments ih =>
    cases segment with
    | plain c => exact ih (by simpa [isReference] using hany)
    | reference value text => simp [isReference] at hany

/-- What is located are the references of the segments. -/
theorem exists_mem_locate_iff {segments : List (Segment α)} {offset : Nat} {value : α}
    {text : List Char} :
    (∃ found ∈ locate offset segments, found.value = value ∧ found.text = text) ↔
      .reference value text ∈ segments := by
  fun_induction locate offset segments with
  | case1 => simp
  | case2 offset c rest ih => simp [ih]
  | case3 offset first read rest ih => simp [ih, @eq_comm _ first, @eq_comm _ read]

theorem le_start_of_mem_locate {offset : Nat} {segments : List (Segment α)} {found : Located α}
    (hfound : found ∈ locate offset segments) : offset ≤ found.start := by
  induction segments generalizing offset with
  | nil => simp [locate] at hfound
  | cons segment rest ih =>
    cases segment with
    | plain c => exact Nat.le_trans (Nat.le_add_right _ _) (ih hfound)
    | reference value text =>
      rcases List.mem_cons.mp hfound with rfl | hfound
      · exact Nat.le_refl _
      · exact Nat.le_trans (Nat.le_add_right _ _) (ih hfound)

/-- The references of a cut stand one behind the other. -/
theorem IsCut.pairwise_locate {segments : List (Segment α)} (hcut : IsCut pattern inWord segments)
    (offset : Nat) :
    (locate offset segments).Pairwise fun first second ↦ first.start < second.start := by
  induction hcut generalizing offset with
  | nil => exact .nil
  | plain _ _ ih => exact ih _
  | @reference value text rest hread _ ih =>
    refine List.pairwise_cons.mpr ⟨?_, ih _⟩
    intro second hsecond
    have hpositive : 0 < Text.byteLength text := by
      obtain ⟨c, cs, rfl⟩ := List.exists_cons_of_ne_nil (pattern.ne_nil_of_read hread)
      rw [Text.byteLength_cons]
      exact Nat.add_pos_left c.utf8Size_pos _
    exact Nat.lt_of_lt_of_le (Nat.lt_add_of_pos_right hpositive) (le_start_of_mem_locate hsecond)

end GuardedProxy.Segment
