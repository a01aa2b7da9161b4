import GuardedProxy.Proofs.InvocationText
import GuardedProxy.Proofs.ResultFree
import GuardedProxy.Proofs.SnapshotOrder

/-!
# The old value of the result

Old values are looked for in a condition after the variable of the result has been put in place of
the references to the result. A reference to the result that stands alone in the parentheses of a
reference to an old value has become an identifier by then, and a snapshot is taken of a variable
that only the later call declares. In a member that returns a value this is the one way for a
snapshot to read that variable, as long as the clauses do not mention it themselves.
-/

namespace GuardedProxy

open Segment

theorem IsBlank.filter_isWordChar {blanks : List Char} (hblanks : IsBlank blanks) :
    blanks.filter Text.isWordChar = [] := by
  rw [List.filter_eq_nil_iff]
  intro c hc
  rw [hblanks.not_isWordChar c hc]
  exact Bool.false_ne_true

namespace Segment

variable {α : Type} {word : List Char} {segments : List (Segment α)}

@[simp] theorem substitute_map_plain {replacement : α → List Char} (cs : List Char) :
    substitute replacement (cs.map plain) = cs := by
  induction cs with
  | nil => rfl
  | cons c cs ih => rw [List.map_cons, substitute_plain, ih]

/-- Where no word is left, no reference was replaced. -/
theorem eq_map_plain_of_substitute (hne : word ≠ []) (hword : ∀ c ∈ word, Text.isWordChar c = true)
    (hnone : ∀ c ∈ substitute (fun _ ↦ word) segments, Text.isWordChar c = false) :
    segments = (substitute (fun _ ↦ word) segments).map plain := by
  induction segments with
  | nil => rfl
  | cons segment segments ih =>
    cases segment with
    | plain c =>
      rw [substitute_plain, List.forall_mem_cons] at hnone
      rw [substitute_plain, List.map_cons, ← ih hnone.2]
    | reference value text =>
      obtain ⟨c, hc⟩ := List.exists_mem_of_ne_nil word hne
      have hnot := hnone c (List.mem_append_left _ hc)
      rw [hword c hc] at hnot
      exact absurd hnot.symm Bool.false_ne_true

/-- Where the text begins with characters outside of words, the first word character ends them. -/
theorem eq_of_append_word_eq {left right first second : List Char} {c d : Char}
    (hleft : ∀ e ∈ left, Text.isWordChar e = false)
    (hright : ∀ e ∈ right, Text.isWordChar e = false)
    (hc : Text.isWordChar c = true) (hd : Text.isWordChar d = true)
    (heq : left ++ c :: first = right ++ d :: second) : left = right := by
  have htake {front back : List Char} {e : Char} (hfront : ∀ c ∈ front, Text.isWordChar c = false)
      (he : Text.isWordChar e = true) :
      (front ++ e :: back).takeWhile (fun c ↦ !Text.isWordChar c) = front := by
    rw [List.takeWhile_append_of_pos (by simpa using hfront),
      List.takeWhile_cons_of_neg (by simp [he]), List.append_nil]
  rw [← htake hleft hc, heq, htake hright hd]

/-- The word stands once in the text, with no other word beside it. If a reference was replaced at
all, the word is what replaced it. -/
theorem exists_reference_of_substitute_eq (hne : word ≠ [])
    (hword : ∀ c ∈ word, Text.isWordChar c = true) {before after : List Char}
    (hbefore : IsBlank before) (hafter : IsBlank after)
    (hsubstitute : substitute (fun _ ↦ word) segments = before ++ (word ++ after))
    (hany : segments.any isReference = true) :
    ∃ value text, segments = before.map plain ++ reference value text :: after.map plain := by
  obtain ⟨segment, hmem, hreference⟩ := List.any_eq_true.mp hany
  cases segment with
  | plain c => exact absurd hreference Bool.false_ne_true
  | reference value text =>
    obtain ⟨front, back, rfl⟩ := List.append_of_mem hmem
    rw [substitute_append, substitute_reference] at hsubstitute
    -- the word accounts for all word characters of the text, so the rest was left as it is
    have hlength := congrArg (fun cs ↦ (cs.filter Text.isWordChar).length) hsubstitute
    simp only [List.filter_append, hbefore.filter_isWordChar, hafter.filter_isWordChar,
      List.length_append, List.length_nil] at hlength
    have hclear (rest : List (Segment α))
        (hrest : ((substitute (fun _ ↦ word) rest).filter Text.isWordChar).length = 0) :
        ∀ c ∈ substitute (fun _ ↦ word) rest, Text.isWordChar c = false := by
      intro c hc
      have hnil := List.eq_nil_of_length_eq_zero hrest
      exact Bool.eq_false_iff.mpr (List.filter_eq_nil_iff.mp hnil c hc)
    have hfront := hclear front (by omega)
    have hback := hclear back (by omega)
    obtain ⟨first, letters, rfl⟩ := List.exists_cons_of_ne_nil hne
    have hfirst := hword first List.mem_cons_self
    have hbeforeEq : substitute (fun _ ↦ first :: letters) front = before :=
      eq_of_append_word_eq hfront hbefore.not_isWordChar hfirst hfirst hsubstitute
    rw [hbeforeEq, List.append_cancel_left_eq, List.append_cancel_left_eq] at hsubstitute
    refine ⟨value, text, ?_⟩
    rw [eq_map_plain_of_substitute hne hword hfront, eq_map_plain_of_substitute hne hword hback,
      hbeforeEq, hsubstitute]

end Segment

namespace OldValue

/-- A reference to the result in a pair of parentheses, alone but for blanks. -/
def HoldsResult (parentheses : List (Segment (List Char))) : Prop :=
  ∃ before type text after, IsBlank before ∧ IsBlank after ∧
    parentheses = plain '(' ::
      (before.map plain ++ reference type text :: (after.map plain ++ [plain ')']))

/-- Once the variable stands for the result, a reference to an old value ends with parentheses that
hold a reference to the result in the condition. -/
def RefersToResult (result condition : String) : Prop :=
  ∃ front parentheses back, ResultReference.segments condition = front ++ parentheses ++ back ∧
    HoldsResult parentheses ∧
    ∃ before identifier text after,
      segments (ResultReference.substitute result condition) =
        before ++ reference identifier text :: after ∧
      spelling after = Segment.substitute (fun _ ↦ result.toList) back

section Content

-- what stands in parentheses, with the closing one: a word with blanks around it

variable {inside name behind : List Char} (hinside : IsBlank inside)
  (hname : ∀ c ∈ name, Text.isWordChar c = true) (hbehind : IsBlank behind)
include hinside hname hbehind

/-- The only word in the parentheses of a call is its identifier. -/
theorem filter_content :
    (inside ++ (name ++ (behind ++ [')']))).filter Text.isWordChar = name := by
  have hclose : Text.isWordChar ')' = false := by decide
  simp [List.filter_append, hinside.filter_isWordChar, hbehind.filter_isWordChar,
    List.filter_eq_self.mpr hname, hclose]

theorem not_mem_content : '(' ∉ inside ++ (name ++ (behind ++ [')'])) := by
  intro hmem
  have hblank : Text.isBlank '(' = false := by decide
  rcases List.mem_append.mp hmem with hmem | hmem
  · rw [hinside _ hmem] at hblank
    exact Bool.false_ne_true hblank.symm
  rcases List.mem_append.mp hmem with hmem | hmem
  · exact absurd (hname _ hmem) (by decide)
  rcases List.mem_append.mp hmem with hmem | hmem
  · rw [hbehind _ hmem] at hblank
    exact Bool.false_ne_true hblank.symm
  · exact absurd hmem (by decide)

end Content

section Result

variable {result condition : String} (hword : ∀ c ∈ result.toList, Text.isWordChar c = true)
include hword

/-- If the name of the result is new to the condition, an old value of it comes from a call around a
reference to the result. -/
theorem refersToResult_of_mem (hfree : ¬result.toList <:+: condition.toList) {text : List Char}
    (hmem : .reference result text ∈ segments (ResultReference.substitute result condition)) :
    RefersToResult result condition := by
  obtain ⟨before, after, hsegments⟩ := List.append_of_mem hmem
  obtain ⟨type, inside, behind, hinside, hbehind, hname, rfl⟩ := exists_text_of_mem hmem
  have hnot {c : Char} (hc : Text.isWordChar c = false) : c ∉ result.toList := by
    intro hmem
    rw [hword c hmem] at hc
    exact Bool.false_ne_true hc.symm
  have hspelling : Segment.substitute (fun _ ↦ result.toList) (ResultReference.segments condition) =
      spelling before ++ (word ++ type) ++ '(' :: (inside ++ (result.toList ++ behind) ++
        ')' :: spelling after) := by
    rw [← ResultReference.toList_substitute, ← spelling_segments, hsegments]
    simp
  -- the parentheses are no part of the result, so they stand in the condition as well
  obtain ⟨front, tail, htail, -, hrest⟩ := exists_plain_of_substitute_eq
    (fun _ _ _ ↦ hnot (by decide : Text.isWordChar '(' = false)) hspelling
  obtain ⟨middle, back, rfl, hmiddle, hback⟩ := exists_plain_of_substitute_eq
    (fun _ _ _ ↦ hnot (by decide : Text.isWordChar ')' = false)) hrest
  have hany : middle.any isReference = true := by
    by_contra hnone
    rw [Bool.not_eq_true] at hnone
    rw [substitute_eq_spelling hnone] at hmiddle
    apply hfree
    rw [← ResultReference.spelling_segments condition, htail]
    refine ⟨spelling front ++ '(' :: inside, behind ++ ')' :: spelling back, ?_⟩
    simp [hmiddle]
  obtain ⟨argument, text, rfl⟩ := exists_reference_of_substitute_eq
    (by obtain ⟨first, rest, heq, -⟩ := hname; simp [heq]) hword hinside hbehind hmiddle hany
  refine ⟨front, _, back, ?_, ⟨inside, argument, text, behind, hinside, hbehind, rfl⟩, before,
    result, _, after, hsegments, hback.symm⟩
  rw [htail]
  simp

/-- A call around a reference to the result becomes an old value of the result. -/
theorem exists_mem_of_refersToResult (hrefers : RefersToResult result condition) :
    ∃ text, .reference result text ∈ segments (ResultReference.substitute result condition) := by
  obtain ⟨front, _, back, hcondition, ⟨blanks, _, _, others, hblanks, hothers, rfl⟩, before,
    identifier, text, after, hsegments, hafter⟩ := hrefers
  have hmem : .reference identifier text ∈ segments (ResultReference.substitute result condition) :=
    hsegments ▸ List.mem_append_right _ List.mem_cons_self
  obtain ⟨type, inside, behind, hinside, hbehind, hname, rfl⟩ := exists_text_of_mem hmem
  -- both pairs of parentheses end at one place, so they are the same
  have hends : spelling before ++ (word ++ type) ++ '(' ::
        (inside ++ (identifier.toList ++ (behind ++ [')']))) =
      Segment.substitute (fun _ ↦ result.toList) front ++ '(' ::
        (blanks ++ (result.toList ++ (others ++ [')']))) := by
    refine List.append_cancel_right (?_ : _ ++ spelling after = _ ++ spelling after)
    calc _ = spelling (segments (ResultReference.substitute result condition)) := by
          rw [hsegments]
          simp
      _ = Segment.substitute (fun _ ↦ result.toList) (ResultReference.segments condition) := by
          rw [spelling_segments, ResultReference.toList_substitute]
      _ = _ := by
          rw [hcondition, hafter]
          simp
  have hsame := Lists.eq_of_append_cons_eq (not_mem_content hinside hname.isWordChar hbehind)
    (not_mem_content hblanks hword hothers) hends
  have hresult : identifier.toList = result.toList := by
    rw [← filter_content hinside hname.isWordChar hbehind, hsame,
      filter_content hblanks hword hothers]
  rw [String.toList_inj.mp hresult] at hmem
  exact ⟨_, hmem⟩

end Result

theorem mem_identifier_snapshots_iff {condition identifier : String} :
    identifier ∈ (snapshots condition).map Snapshot.identifier ↔
      ∃ text, .reference identifier text ∈ segments condition := by
  have hvalues : (snapshots condition).map Snapshot.identifier =
      (references condition).map Located.value := by
    simp [snapshots, Snapshot.ofIdentifier, Function.comp_def]
  rw [hvalues, List.mem_map]
  constructor
  · rintro ⟨found, hfound, rfl⟩
    exact ⟨found.text, exists_mem_locate_iff.mp ⟨found, hfound, rfl, rfl⟩⟩
  · rintro ⟨text, hmem⟩
    obtain ⟨found, hfound, hvalue, -⟩ := exists_mem_locate_iff.mpr hmem
    exact ⟨found, hfound, hvalue⟩

end OldValue

/-! ## The snapshots of a body -/

namespace Clause

variable {member : Member} {naming : NamingScheme}

/-- The clause becomes a guard, and its condition asks for the old value of the result. -/
def AsksForOldResult (member : Member) (naming : NamingScheme) (clause : Clause) : Prop :=
  (clause.compile member naming).value.guard.isSome = true ∧
    ∃ condition, clause.invocation.bind Invocation.condition = some condition ∧
      OldValue.RefersToResult naming.resultVariable condition

/-- A clause keeps the old value of the result exactly when it asks for it. -/
theorem mem_identifier_snapshots_compile_iff {clause : Clause}
    (hreference : member.resultReference naming = some naming.resultVariable)
    (hword : ∀ c ∈ naming.resultVariable.toList, Text.isWordChar c = true)
    (hfree : ¬naming.resultVariable.toList <:+: clause.text.toList) :
    naming.resultVariable ∈
        (clause.compile member naming).value.snapshots.map Snapshot.identifier ↔
      clause.AsksForOldResult member naming := by
  unfold AsksForOldResult
  rcases clause.value_compile_cases member naming with hdropped | ⟨compiled, hcompiled, ⟨source⟩⟩
  · simp [hdropped, CompiledClause.dropped]
  · obtain ⟨invocation, condition, exceptionType, hinvocation, -, hcondition, -, rfl⟩ := source
    have hpiece : condition.toList <:+: clause.text.toList :=
      (Invocation.isInfix_of_parse hinvocation).2 condition (List.mem_of_getElem? hcondition)
    have hwritten : ¬naming.resultVariable.toList <:+: condition.toList :=
      fun hinside ↦ hfree (hinside.trans hpiece)
    have hiff : (∃ text, .reference naming.resultVariable text ∈ OldValue.segments
          (ResultReference.substitute naming.resultVariable condition)) ↔
        OldValue.RefersToResult naming.resultVariable condition := by
      constructor
      · rintro ⟨text, hmem⟩
        exact OldValue.refersToResult_of_mem hword hwritten hmem
      · exact OldValue.exists_mem_of_refersToResult hword
    rw [hcompiled]
    dsimp only
    rw [checkedCondition_guardsEntry hreference, OldValue.mem_identifier_snapshots_iff, hiff]
    simp [hinvocation, hcondition]

end Clause

namespace MemberBody

/-- In a member that returns a value, let the variable of the result be made of word characters, as
every identifier is, and let no clause mention it. A snapshot of that variable is taken, before the
call that declares it, exactly when a clause asks for the old value of the result. -/
theorem keep_result_assemble_iff (member : Member) (naming : NamingScheme) (clauses : List Clause)
    {type delegate : String}
    (hshape : member.shape = .method (.value type) ∨ member.shape = .getter type)
    (hdelegate : member.delegate = some delegate) (hblank : Text.blankText delegate = false)
    (hword : ∀ c ∈ naming.resultVariable.toList, Text.isWordChar c = true)
    (hfree : ∀ clause ∈ clauses, ¬naming.resultVariable.toList <:+: clause.text.toList) :
    ∃ body, (assemble member naming clauses).value = .ok body ∧
      ((∃ snapshot, .keep snapshot ∈ body.statements ∧
          snapshot.identifier = naming.resultVariable) ↔
        ∃ clause ∈ clauses, clause.AsksForOldResult member naming) := by
  have htarget := Member.target_of_delegate hdelegate hblank
  have hreference := Member.resultReference_of_returns naming hshape
  refine ⟨_, value_assemble naming clauses htarget, ?_⟩
  calc _ ↔ naming.resultVariable ∈ (firstOfEach [] (orderedSnapshots member naming clauses)).map
            Snapshot.identifier := by
        simp only [mem_layout_keep_iff, List.mem_map]
    _ ↔ ∃ clause ∈ clauses, naming.resultVariable ∈
          (clause.compile member naming).value.snapshots.map Snapshot.identifier := by
        rw [mem_firstOfEach_iff, orderedSnapshots, List.map_flatMap, List.mem_flatMap]
        simp only [(perm_inOrder clauses).mem_iff, List.not_mem_nil, not_false_eq_true, and_true]
    _ ↔ _ := by
        constructor
        · rintro ⟨clause, hclause, hmem⟩
          exact ⟨clause, hclause, (Clause.mem_identifier_snapshots_compile_iff hreference hword
            (hfree clause hclause)).mp hmem⟩
        · rintro ⟨clause, hclause, hasks⟩
          exact ⟨clause, hclause, (Clause.mem_identifier_snapshots_compile_iff hreference hword
            (hfree clause hclause)).mpr hasks⟩

/-- The second clause asks for the old value of the result, and the body keeps it. -/
theorem keep_result_assemble_iff_compute :
    let member : Member :=
      { name := "Compute", shape := .method (.value "int"), delegate := some "_contract" }
    let clauses : List Clause :=
      [⟨"Contract.Ensures(Contract.Result<int>() > Contract.OldValue(x))", 0⟩,
        ⟨"Contract.Ensures(Contract.OldValue(Contract.Result<int>()) > 0)", 1⟩]
    (∀ c ∈ "result".toList, Text.isWordChar c = true) ∧
      (∀ clause ∈ clauses, ¬"result".toList <:+: clause.text.toList) ∧
      ∃ body, (assemble member {} clauses).value = .ok body ∧
        ∃ snapshot, .keep snapshot ∈ body.statements ∧ snapshot.identifier = "result" := by
  intro member clauses
  have hword : ∀ c ∈ "result".toList, Text.isWordChar c = true :=
    List.all_iff_forall_prop.mp (by decide)
  have hfree : ∀ clause ∈ clauses, ¬"result".toList <:+: clause.text.toList := by
    decide +kernel
  have hasks : Clause.AsksForOldResult member {}
      ⟨"Contract.Ensures(Contract.OldValue(Contract.Result<int>()) > 0)", 1⟩ := by
    refine ⟨by decide +kernel, "Contract.OldValue(Contract.Result<int>()) > 0", by decide +kernel,
      "Contract.OldValue".toList.map plain,
      [plain '(', reference "<int>".toList "Contract.Result<int>()".toList, plain ')'],
      " > 0".toList.map plain, by decide +kernel, ⟨[], _, _, [], by decide, by decide, rfl⟩,
      [], "result", "Contract.OldValue(result)".toList, " > 0".toList.map plain, by decide +kernel,
      by decide⟩
  obtain ⟨body, hbody, hiff⟩ := keep_result_assemble_iff member {} clauses
    (Or.inl rfl) rfl (by decide : Text.blankText "_contract" = false) hword hfree
  exact ⟨hword, hfree, body, hbody, hiff.mpr ⟨_, by simp [clauses], hasks⟩⟩

end MemberBody

end GuardedProxy
