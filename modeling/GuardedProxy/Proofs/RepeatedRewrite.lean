import GuardedProxy.Proofs.ReferencePlaces
import GuardedProxy.Proofs.ResultFree

/-!
# Rewriting a condition twice

When the references to old values have been replaced, a call for an old value may have become a
reference that was none before: its argument began with a reference, and now begins with the
variable of that reference. There is no other way. A variable ends with `_old`, so it is no part of
`Contract` or of `OldValue`. It is neither a bracket nor a blank, and a reference is balanced like
the variable that replaces it, so the brackets of a call close where they did. And since no
reference begins within a word, an identifier that begins with a letter of the condition is all
there in the condition.
-/

namespace GuardedProxy

open Segment TypeArgument

namespace Segment

variable {α : Type} {pattern : ReferencePattern α} {inWord : Bool} {replacement : α → List Char}
  {segments front back : List (Segment α)}

theorem wordBehind_map_plain (inWord : Bool) (cs : List Char) :
    wordBehind inWord (cs.map (plain : Char → Segment α)) = endsInWord inWord cs := by
  induction cs generalizing inWord with
  | nil => rfl
  | cons c cs ih => exact ih _

theorem spelling_map_plain (cs : List Char) :
    spelling (cs.map (plain : Char → Segment α)) = cs := by
  induction cs with
  | nil => rfl
  | cons c cs ih => rw [List.map_cons, spelling_plain, ih]

theorem IsCut.append_map_plain {cs : List Char}
    (hcut : IsCut pattern inWord (cs.map .plain ++ back)) :
    IsCut pattern (endsInWord inWord cs) back := by
  rw [← wordBehind_map_plain inWord cs]
  exact hcut.append_right

/-- No reference can be read where the cut has a plain character. -/
theorem IsCut.read_eq_none_of_map_plain {cs : List Char} (hne : cs ≠ [])
    (hcut : IsCut pattern false (cs.map .plain ++ back)) :
    pattern.read (cs ++ spelling back) = none := by
  obtain ⟨c, cs, rfl⟩ := List.exists_cons_of_ne_nil hne
  rw [List.map_cons, List.cons_append] at hcut
  cases hcut with
  | plain hread _ =>
    rw [spelling_append, spelling_map_plain] at hread
    exact hread rfl

theorem endsInWord_eq_false {cs : List Char} (hne : cs ≠ [])
    (hcs : ∀ c ∈ cs, Text.isWordChar c = false) : endsInWord inWord cs = false := by
  rcases List.eq_nil_or_concat cs with rfl | ⟨before, last, rfl⟩
  · exact absurd rfl hne
  · rw [List.concat_eq_append] at hcs ⊢
    rw [endsInWord_append_singleton]
    exact hcs last (by simp)

theorem beginsInWord_append_eq_false {cs : List Char} (hne : cs ≠ [])
    (hcs : ∀ c ∈ cs, Text.isWordChar c = false) (rest : List Char) :
    beginsInWord (cs ++ rest) = false := by
  obtain ⟨c, cs, rfl⟩ := List.exists_cons_of_ne_nil hne
  exact hcs c List.mem_cons_self

/-- Characters outside of words were not put in by a replacement. -/
theorem ReplacedSafely.exists_map_plain {cs rest : List Char}
    (hsafe : ReplacedSafely replacement segments) (hcs : ∀ c ∈ cs, Text.isWordChar c = false)
    (hsubstitute : substitute replacement segments = cs ++ rest) :
    ∃ back, segments = cs.map plain ++ back ∧ substitute replacement back = rest := by
  induction cs generalizing segments with
  | nil => exact ⟨segments, rfl, hsubstitute⟩
  | cons c cs ih =>
    obtain ⟨hc, hothers⟩ := List.forall_mem_cons.mp hcs
    cases segments with
    | nil => exact absurd hsubstitute (List.cons_ne_nil _ _).symm
    | cons segment segments =>
      cases segment with
      | plain d =>
        obtain ⟨rfl, hrest⟩ := List.cons.inj hsubstitute
        have htail : ReplacedSafely replacement segments :=
          fun value text hmem ↦ hsafe value text (List.mem_cons_of_mem _ hmem)
        obtain ⟨back, rfl, hback⟩ := ih htail hothers hrest
        exact ⟨back, rfl, hback⟩
      | reference value text =>
        obtain ⟨-, hvalue⟩ := hsafe value text List.mem_cons_self
        obtain ⟨first, letters, hfirst⟩ := List.exists_cons_of_ne_nil hvalue.ne_nil
        rw [substitute_reference, hfirst] at hsubstitute
        have hword := hvalue.isWordChar first (hfirst ▸ List.mem_cons_self)
        rw [(List.cons.inj hsubstitute).1, hc] at hword
        exact absurd hword Bool.false_ne_true

/-- Within a word there is no reference. -/
theorem IsCut.exists_map_plain {cs rest : List Char} (hcut : IsCut pattern true segments)
    (hcs : ∀ c ∈ cs, Text.isWordChar c = true)
    (hsubstitute : substitute replacement segments = cs ++ rest) :
    ∃ back, segments = cs.map .plain ++ back ∧ substitute replacement back = rest := by
  induction cs generalizing segments with
  | nil => exact ⟨segments, rfl, hsubstitute⟩
  | cons c cs ih =>
    obtain ⟨hc, hothers⟩ := List.forall_mem_cons.mp hcs
    cases hcut with
    | nil => exact absurd hsubstitute (List.cons_ne_nil _ _).symm
    | plain _ hrest =>
      obtain ⟨rfl, htail⟩ := List.cons.inj hsubstitute
      rw [hc] at hrest
      obtain ⟨back, rfl, hback⟩ := ih hrest hothers htail
      exact ⟨back, rfl, hback⟩

/-- A word of the rewritten text begins with a replacement, or all of it was there before. -/
theorem IsCut.word_cases {name rest : List Char} (hcut : IsCut pattern false segments)
    (hsafe : ReplacedSafely replacement segments) (hne : name ≠ [])
    (hname : ∀ c ∈ name, Text.isWordChar c = true) (hrest : beginsInWord rest = false)
    (hsubstitute : substitute replacement segments = name ++ rest) :
    (∃ back, segments = name.map .plain ++ back ∧ substitute replacement back = rest) ∨
      ∃ value text back, segments = .reference value text :: back ∧
        replacement value <+: name := by
  obtain ⟨first, letters, rfl⟩ := List.exists_cons_of_ne_nil hne
  obtain ⟨hfirst, hletters⟩ := List.forall_mem_cons.mp hname
  cases hcut with
  | nil => exact absurd hsubstitute (List.cons_ne_nil _ _).symm
  | plain _ hcut =>
    obtain ⟨rfl, htail⟩ := List.cons.inj hsubstitute
    rw [hfirst] at hcut
    obtain ⟨back, rfl, hback⟩ := hcut.exists_map_plain hletters htail
    exact Or.inl ⟨back, rfl, hback⟩
  | @reference value text back _ _ =>
    refine Or.inr ⟨value, text, back, rfl, ?_⟩
    obtain ⟨-, hvalue⟩ := hsafe value text List.mem_cons_self
    rw [substitute_reference] at hsubstitute
    rcases List.append_eq_append_iff.mp hsubstitute with
      ⟨others, hothers, -⟩ | ⟨others, hothers, htail⟩
    · exact ⟨others, hothers.symm⟩
    · -- the replacement is a word, so it ends where the word of the text ends
      cases others with
      | nil => exact ⟨[], by rw [hothers, List.append_nil, List.append_nil]⟩
      | cons c others =>
        have hc := hvalue.isWordChar c (by rw [hothers]; simp)
        rw [htail, List.cons_append, beginsInWord, hc] at hrest
        exact absurd hrest.symm Bool.false_ne_true

end Segment

namespace OldValue

variable {segments : List (Segment String)}

theorem word_eq_append : word = "Contract".toList ++ '.' :: "OldValue".toList := by
  decide

/-- The variable of a snapshot has an underscore, so no word without one begins with it. -/
theorem not_prefix_variableText {identifier : String} {name : List Char} (hname : '_' ∉ name) :
    ¬variableText identifier <+: name := by
  intro hbegins
  exact hname (hbegins.subset (Snapshot.underscore_mem_variableFor identifier))

/-- A word without an underscore was there before the rewriting. -/
theorem exists_name_of_substitute {name rest : List Char} (hcut : IsCut pattern false segments)
    (hsafe : ReplacedSafely variableText segments) (hne : name ≠ [])
    (hname : ∀ c ∈ name, Text.isWordChar c = true) (hfree : '_' ∉ name)
    (hrest : beginsInWord rest = false)
    (hsubstitute : Segment.substitute variableText segments = name ++ rest) :
    ∃ back, segments = name.map plain ++ back ∧ Segment.substitute variableText back = rest := by
  rcases hcut.word_cases hsafe hne hname hrest hsubstitute with hplain | ⟨_, _, _, -, hbegins⟩
  · exact hplain
  · exact absurd hbegins (not_prefix_variableText hfree)

/-- `Contract.OldValue` was there before the rewriting. -/
theorem exists_word_of_substitute {rest : List Char} (hcut : IsCut pattern false segments)
    (hsafe : ReplacedSafely variableText segments) (hrest : beginsInWord rest = false)
    (hsubstitute : Segment.substitute variableText segments = word ++ rest) :
    ∃ back, segments = word.map plain ++ back ∧ Segment.substitute variableText back = rest := by
  rw [word_eq_append, List.append_assoc, List.cons_append] at hsubstitute
  have hdot : Text.isWordChar '.' = false := by decide
  obtain ⟨afterContract, rfl, hcontract⟩ := exists_name_of_substitute hcut hsafe (by decide)
    (List.all_iff_forall_prop.mp (by decide)) (by decide)
    (show beginsInWord ('.' :: _) = false from hdot) hsubstitute
  rw [← List.singleton_append] at hcontract
  obtain ⟨afterDot, rfl, hafterDot⟩ :=
    hsafe.of_append_right.exists_map_plain (List.forall_mem_singleton.mpr hdot) hcontract
  rw [← List.append_assoc, ← List.map_append] at hcut hsafe ⊢
  obtain ⟨back, rfl, hback⟩ := exists_name_of_substitute hcut.append_map_plain
    hsafe.of_append_right (by decide) (List.all_iff_forall_prop.mp (by decide)) (by decide) hrest
    hafterDot
  refine ⟨back, ?_, hback⟩
  rw [← List.append_assoc, ← List.map_append, word_eq_append, List.append_assoc,
    List.singleton_append]

/-- A type argument stands where one stood before the rewriting. -/
theorem exists_type_of_substitute {type rest : List Char}
    (hsafe : ReplacedSafely variableText segments) (htype : IsTypeHint type)
    (hsubstitute : Segment.substitute variableText segments = type ++ rest) :
    ∃ front back, segments = front ++ back ∧ IsTypeHint (spelling front) ∧
      Segment.substitute variableText back = rest := by
  rcases htype with rfl | ⟨inner, hinner, rfl⟩
  · exact ⟨[], segments, rfl, Or.inl rfl, hsubstitute⟩
  · rw [List.append_assoc, List.cons_append, ← List.singleton_append] at hsubstitute
    obtain ⟨behind, rfl, hbehind⟩ :=
      hsafe.exists_map_plain (List.forall_mem_singleton.mpr (by decide)) hsubstitute
    obtain ⟨inside, back, rfl, ⟨hinside, rfl⟩, -, hback⟩ :=
      hsafe.of_append_right.exists_plain (by decide) hbehind
    refine ⟨plain '<' :: inside ++ [plain '>'], back, by simp, Or.inr ?_, hback⟩
    exact ⟨spelling inside, hinside.balanced_spelling hinner, by simp⟩

theorem not_isWordChar_of_mem_blanks {before after : List Char} {mark : Char}
    (hmark : Text.isWordChar mark = false) (hbefore : IsBlank before) (hafter : IsBlank after) :
    ∀ c ∈ before ++ mark :: after, Text.isWordChar c = false := by
  intro c hc
  rcases List.mem_append.mp hc with hc | hc
  · exact hbefore.not_isWordChar c hc
  · rcases List.mem_cons.mp hc with rfl | hc
    · exact hmark
    · exact hafter.not_isWordChar c hc

/-- A call stands up to its argument where one stood before the rewriting. -/
theorem exists_opening_of_substitute {type before inside rest : List Char}
    (hcut : IsCut pattern false segments) (hsafe : ReplacedSafely variableText segments)
    (htype : IsTypeHint type) (hbefore : IsBlank before) (hinside : IsBlank inside)
    (hsubstitute : Segment.substitute variableText segments =
      word ++ (type ++ ((before ++ '(' :: inside) ++ rest))) :
    ∃ behind back, segments = word.map plain ++ behind ++ back ∧
      IsOpening (spelling (word.map plain ++ behind)) ∧
      Segment.substitute variableText back = rest ∧ IsCut pattern false back := by
  have hbehind : beginsInWord (type ++ ((before ++ '(' :: inside) ++ rest)) = false := by
    rw [List.append_assoc, List.cons_append]
    exact beginsInWord_behind_word (inside ++ rest) htype hbefore
  have houtside : ∀ c ∈ before ++ '(' :: inside, Text.isWordChar c = false :=
    not_isWordChar_of_mem_blanks (by decide) hbefore hinside
  obtain ⟨_, rfl, hword⟩ := exists_word_of_substitute hcut hsafe hbehind hsubstitute
  obtain ⟨hint, _, rfl, hhint, hparenthesis⟩ :=
    exists_type_of_substitute hsafe.of_append_right htype hword
  obtain ⟨back, rfl, hback⟩ :=
    hsafe.of_append_right.of_append_right.exists_map_plain houtside hparenthesis
  refine ⟨hint ++ (before ++ '(' :: inside).map plain, back, by simp,
    ⟨spelling hint, before, inside, ?_, hhint, hbefore, hinside⟩, hback, ?_⟩
  · simp only [spelling_append, spelling_map_plain, List.append_assoc]
  · have hbackCut := hcut.append_right.append_right.append_map_plain
    rwa [endsInWord_eq_false (by simp) houtside] at hbackCut

/-- The opening of a call and an identifier make a reference. -/
theorem exists_read_of_isOpening {opening name after : List Char} (hopening : IsOpening opening)
    (hname : IsIdentifier name) (hafter : IsBlank after) (rest : List Char) :
    ∃ front, read (opening ++ (name ++ ((after ++ [')']) ++ rest))) = some front := by
  obtain ⟨type, before, inside, rfl, htype, hbefore, hinside⟩ := hopening
  refine ⟨⟨String.ofList name, _, rest⟩, read_eq_some_iff.mpr ⟨type, before, inside, name, after,
    htype, hbefore, hinside, hafter, hname, rfl, rfl, ?_⟩⟩
  simp

/-- If a reference can be read after the rewriting, and there was none before, then its call stood
there before, with a reference at the beginning of its argument. -/
theorem exists_call_of_read {front : FrontReference String} (hcut : IsCut pattern false segments)
    (hsafe : ReplacedSafely variableText segments)
    (hread : read (Segment.substitute variableText segments) = some front) :
    ∃ opening identifier text back, segments = opening ++ .reference identifier text :: back ∧
      IsOpening (spelling opening) ∧ variableText identifier <+: front.value.toList := by
  obtain ⟨type, before, inside, name, after, htype, hbefore, hinside, hafter, hname, hvalue, htext,
    happend⟩ := read_eq_some_iff.mp hread
  have hparts : Segment.substitute variableText segments = word ++ (type ++ ((before ++ '(' ::
      inside) ++ (name ++ ((after ++ [')']) ++ front.rest)))) := by
    rw [happend, htext]
    simp
  have hclose : ∀ c ∈ after ++ [')'], Text.isWordChar c = false :=
    not_isWordChar_of_mem_blanks (by decide) hafter (List.forall_mem_nil _)
  have hrest : beginsInWord ((after ++ [')']) ++ front.rest) = false :=
    beginsInWord_append_eq_false (by simp) hclose _
  obtain ⟨behind, back, rfl, hopening, hback, hbackCut⟩ :=
    exists_opening_of_substitute hcut hsafe htype hbefore hinside hparts
  have hne : name ≠ [] := by
    obtain ⟨first, letters, rfl, -⟩ := hname
    exact List.cons_ne_nil _ _
  rcases hbackCut.word_cases hsafe.of_append_right hne hname.isWordChar hrest hback with
    ⟨rest, rfl, hafterName⟩ | ⟨identifier, text, rest, rfl, hbegins⟩
  · -- the identifier was there as well, and then the whole reference was
    obtain ⟨rest, rfl, -⟩ :=
      hsafe.of_append_right.of_append_right.exists_map_plain hclose hafterName
    obtain ⟨found, hfound⟩ := exists_read_of_isOpening hopening hname hafter (spelling rest)
    rw [List.append_assoc] at hcut
    have hnone : read _ = none := hcut.read_eq_none_of_map_plain word_ne_nil
    simp only [spelling_append, spelling_map_plain, List.append_assoc] at hnone hfound
    exact absurd (hfound.symm.trans hnone) (Option.some_ne_none found)
  · refine ⟨word.map plain ++ behind, identifier, text, rest, rfl, hopening, ?_⟩
    rw [hvalue, String.toList_ofList]
    exact hbegins

/-- Where the segments of the condition have the call that a rewritten reference comes from. -/
theorem exists_segments_of_mem_references {condition : String} {found : Located String}
    (hfound : found ∈ references (substitute condition)) :
    ∃ front opening identifier text back,
      OldValue.segments condition = front ++ (opening ++ .reference identifier text :: back) ∧
      endsInWord false (spelling front) = false ∧ IsOpening (spelling opening) ∧
      variableText identifier <+: found.value.toList ∧
      Text.byteLength (Segment.substitute variableText front) = found.start := by
  have hcut := isCut_segments condition
  have hsafe : ReplacedSafely variableText (OldValue.segments condition) :=
    replacedSafely_segments condition
  obtain ⟨left, reference, hdivides, hleft, hread, hvalue⟩ :=
    (listsAll_locate endsOutsideWords (substitute condition)).sound found hfound
  have hsubstitute : Segment.substitute variableText (OldValue.segments condition) =
      left ++ (reference.text ++ reference.rest) := by
    rw [← List.append_assoc, ← hdivides.toList_eq, toList_substitute]
    rfl
  obtain ⟨front, back, hsegments, hfront, hback, hflag, hends⟩ :=
    hsafe.exists_split hsubstitute hleft
  rw [hsegments] at hcut hsafe
  have hbackCut := hcut.append_right
  rw [hflag] at hbackCut
  obtain ⟨opening, identifier, text, back, rfl, hopening, hname⟩ :=
    exists_call_of_read hbackCut hsafe.of_append_right (hback ▸ hread)
  refine ⟨front, opening, identifier, text, back, hsegments, hends, hopening, hvalue ▸ hname, ?_⟩
  rw [hfront, hdivides.start_eq]

/-- A reference of the rewritten condition is a call of the condition whose argument began with a
reference, and its identifier begins with the variable of that reference. -/
theorem exists_enclosing_call {condition : String} {found : Located String}
    (hfound : found ∈ references (substitute condition)) :
    ∃ replaced ∈ references condition,
      (replaced.value ++ "_old").toList <+: found.value.toList ∧
      ∃ start left opening right,
        Text.Divides condition start replaced.start left opening (replaced.text ++ right) ∧
        OpensCall left opening (replaced.text ++ right) ∧
        newPlace condition start = found.start := by
  obtain ⟨front, opening, identifier, text, back, hsegments, hends, hopening, hname, hstart⟩ :=
    exists_segments_of_mem_references hfound
  have hcut := isCut_segments condition
  have hspelling := spelling_segments condition
  rw [hsegments] at hcut hspelling
  let start := Text.byteLength (spelling front)
  let argument := start + Text.byteLength (spelling opening)
  refine ⟨⟨argument, argument + Text.byteLength text, text, identifier⟩, ?_, hname, start,
    spelling front, spelling opening, spelling back, ⟨?_, rfl, rfl⟩,
    opensCall_iff.mpr ⟨hends, hopening⟩, ?_⟩
  · refine mem_locate_iff.mpr ⟨front ++ opening, back, ?_, ?_, rfl⟩
    · rw [hsegments, List.append_assoc]
    · rw [spelling_append, Text.byteLength_append, Nat.zero_add]
  · rw [← hspelling]
    simp
  · rw [newPlace, references, hsegments, moved_locate, hstart]
    exact fun _ _ ↦ hcut.append_right.ne_nil_of_mem

/-- A call around another one, which becomes a reference when the inner one is replaced. -/
theorem exists_enclosing_call_of_nested :
    let condition := "Contract.OldValue(Contract.OldValue(y)z) > Contract.OldValue(n)"
    let found : Located String := ⟨0, 25, "Contract.OldValue(y_oldz)".toList, "y_oldz"⟩
    found ∈ references (substitute condition) ∧
    ∃ replaced ∈ references condition,
      (replaced.value ++ "_old").toList <+: found.value.toList ∧
      ∃ start left opening right,
        Text.Divides condition start replaced.start left opening (replaced.text ++ right) ∧
        OpensCall left opening (replaced.text ++ right) ∧
        newPlace condition start = found.start := by
  intro condition found
  have hfound : found ∈ references (substitute condition) := by decide +kernel
  exact ⟨hfound, exists_enclosing_call hfound⟩

end OldValue

end GuardedProxy
