import GuardedProxy.Proofs.BodyLayout
import GuardedProxy.Proofs.ClauseOutcome
import GuardedProxy.Proofs.ReferenceRewrite

/-!
# Guards without references to the result

Replacing the references of a condition changes the text that stands around every other place of it.
It still makes no reference to the result that was not there before, provided that each replacement
is a word and that neither `Contract` nor `Result` begins with it. A replacement then stays outside
of both words, it is neither a bracket nor a blank, and it leaves the count of open brackets as the
reference did that it replaces. Since both rewritings of a condition are of this kind, no guard of
the body of a member that returns a value refers to the result.
-/

namespace GuardedProxy

open Segment TypeArgument

/-- A word that neither `Contract` nor `Result` begins with. -/
structure IsSafeWord (word : List Char) : Prop where
  ne_nil : word ≠ []
  isWordChar : ∀ c ∈ word, Text.isWordChar c = true
  not_contract : ¬word <+: "Contract".toList
  not_result : ¬word <+: "Result".toList

namespace Segment

variable {α : Type} {pattern : ReferencePattern α} {inWord : Bool} {replacement : α → List Char}
  {segments front back : List (Segment α)}

/-- Every reference is a balanced text, and a safe word replaces it. -/
def ReplacedSafely (replacement : α → List Char) (segments : List (Segment α)) : Prop :=
  ∀ value text, .reference value text ∈ segments → Balanced text ∧ IsSafeWord (replacement value)

/-- A text that is cut by a character outside of all words was already cut by it before. -/
theorem ReplacedSafely.exists_plain {left right : List Char} {c : Char}
    (hsafe : ReplacedSafely replacement segments) (hc : Text.isWordChar c = false)
    (hsubstitute : substitute replacement segments = left ++ c :: right) :
    ∃ front back, segments = front ++ plain c :: back ∧
      (ReplacedSafely replacement front ∧ substitute replacement front = left) ∧
      (ReplacedSafely replacement back ∧ substitute replacement back = right) := by
  have hnot : ∀ value text, .reference value text ∈ segments → c ∉ replacement value := by
    intro value text hmem hcmem
    have hword := (hsafe value text hmem).2.isWordChar c hcmem
    rw [hc] at hword
    exact Bool.false_ne_true hword
  obtain ⟨front, back, rfl, hfront, hback⟩ := exists_plain_of_substitute_eq hnot hsubstitute
  refine ⟨front, back, rfl, ⟨fun value text hmem ↦ ?_, hfront⟩, fun value text hmem ↦ ?_, hback⟩
  · exact hsafe value text (List.mem_append_left _ hmem)
  · exact hsafe value text (List.mem_append_right _ (List.mem_cons_of_mem _ hmem))

theorem ReplacedSafely.of_append_right (hsafe : ReplacedSafely replacement (front ++ back)) :
    ReplacedSafely replacement back :=
  fun value text hmem ↦ hsafe value text (List.mem_append_right _ hmem)

/-- The text before a place that no word reaches into comes from segments of its own: the character
at its end belongs to no word, so that it was not inserted. -/
theorem ReplacedSafely.exists_split {left right : List Char}
    (hsafe : ReplacedSafely replacement segments)
    (hsubstitute : substitute replacement segments = left ++ right)
    (hleft : endsInWord false left = false) :
    ∃ front back, segments = front ++ back ∧ substitute replacement front = left ∧
      substitute replacement back = right ∧ wordBehind false front = false ∧
      endsInWord false (spelling front) = false := by
  rcases List.eq_nil_or_concat left with rfl | ⟨before, last, rfl⟩
  · exact ⟨[], segments, rfl, rfl, hsubstitute, rfl, rfl⟩
  · rw [List.concat_eq_append] at hleft hsubstitute ⊢
    rw [endsInWord_append_singleton] at hleft
    rw [List.append_assoc, List.singleton_append] at hsubstitute
    obtain ⟨front, back, rfl, ⟨-, hfront⟩, -, hback⟩ := hsafe.exists_plain hleft hsubstitute
    refine ⟨front ++ [plain last], back, List.append_cons .., ?_, hback, ?_, ?_⟩
    · rw [substitute_append, hfront, substitute_plain, substitute_nil]
    · rw [wordBehind_append_plain, hleft]
    · rw [spelling_append, spelling_plain, spelling_nil, endsInWord_append_singleton, hleft]

/-- A safe replacement changes no count of brackets. -/
theorem ReplacedSafely.foldlM_pass_substitute (hsafe : ReplacedSafely replacement segments)
    (counts : Nat × Nat) :
    (substitute replacement segments).foldlM pass counts =
      (spelling segments).foldlM pass counts := by
  induction segments generalizing counts with
  | nil => rfl
  | cons segment segments ih =>
    have hrest : ReplacedSafely replacement segments :=
      fun value text hmem ↦ hsafe value text (List.mem_cons_of_mem _ hmem)
    cases segment with
    | plain c =>
      rw [substitute_plain, spelling_plain, List.foldlM_cons, List.foldlM_cons]
      exact congrArg _ (funext (ih hrest))
    | reference value text =>
      obtain ⟨htext, hvalue⟩ := hsafe value text List.mem_cons_self
      have hreplacement : Balanced (replacement value) :=
        balanced_of_not_mem_marks fun c hc ↦ not_mem_marks_of_isWordChar (hvalue.isWordChar c hc)
      calc (replacement value ++ substitute replacement segments).foldlM pass counts
          = (substitute replacement segments).foldlM pass counts := by
            rw [List.foldlM_append, hreplacement counts, Option.bind_eq_bind, Option.bind_some]
        _ = (spelling segments).foldlM pass counts := ih hrest counts
        _ = (text ++ spelling segments).foldlM pass counts := by
            rw [List.foldlM_append, htext counts, Option.bind_eq_bind, Option.bind_some]

theorem ReplacedSafely.balanced_spelling (hsafe : ReplacedSafely replacement segments)
    (hbalanced : Balanced (substitute replacement segments)) : Balanced (spelling segments) := by
  intro counts
  rw [← hsafe.foldlM_pass_substitute]
  exact hbalanced counts

/-- Nothing was replaced in what turned out blank. -/
theorem ReplacedSafely.spelling_of_isBlank (hsafe : ReplacedSafely replacement segments)
    (hblank : IsBlank (substitute replacement segments)) :
    spelling segments = substitute replacement segments := by
  refine (substitute_eq_spelling ?_).symm
  rw [List.any_eq_false]
  intro segment hmem hreference
  cases segment with
  | plain c => exact Bool.false_ne_true hreference
  | reference value text =>
    obtain ⟨-, hvalue⟩ := hsafe value text hmem
    obtain ⟨c, hc⟩ := List.exists_mem_of_ne_nil _ hvalue.ne_nil
    have hcmem : c ∈ substitute replacement segments :=
      List.mem_flatMap.mpr ⟨.reference value text, hmem, hc⟩
    have hnot := Text.not_isBlank_of_isWordChar (hvalue.isWordChar c hc)
    rw [hblank c hcmem] at hnot
    exact Bool.false_ne_true hnot.symm

/-- Nothing was replaced in a word that begins with none of the replacements: a reference can only
stand at the beginning of a word. -/
theorem IsCut.spelling_of_isWordChar (hcut : IsCut pattern inWord (front ++ back))
    (hword : ∀ c ∈ substitute replacement front, Text.isWordChar c = true)
    (hinitial : inWord = false → ∀ value text, .reference value text ∈ front →
      ¬replacement value <+: substitute replacement front) :
    spelling front = substitute replacement front := by
  induction front generalizing inWord with
  | nil => rfl
  | cons segment front ih =>
    cases hcut with
    | @plain _ c _ _ hrest =>
      have hc : Text.isWordChar c = true := hword c List.mem_cons_self
      rw [hc] at hrest
      rw [spelling_plain, substitute_plain, ih hrest]
      · exact fun d hd ↦ hword d (List.mem_cons_of_mem _ hd)
      · exact fun hfalse ↦ absurd hfalse.symm Bool.false_ne_true
    | @reference value text _ _ _ =>
      exact absurd (List.prefix_append _ _) (hinitial rfl value text List.mem_cons_self)

end Segment

namespace ResultReference

variable {α : Type} {pattern : ReferencePattern α} {replacement : α → List Char}
  {segments : List (Segment α)}

theorem word_eq_append : word = "Contract".toList ++ '.' :: "Result".toList := by
  decide

/-- The five marks of a reference were there before the substitution, and so was everything that
stands behind its type. -/
theorem exists_parts_of_read_substitute (hsafe : ReplacedSafely replacement segments)
    (hread : (read (Segment.substitute replacement segments)).isSome = true) :
    ∃ contract result type before within rest : List (Segment α),
      segments = contract ++ plain '.' :: (result ++ plain '<' :: (type ++ plain '>' ::
        (before ++ plain '(' :: (within ++ plain ')' :: rest)))) ∧
      (ReplacedSafely replacement contract ∧
        Segment.substitute replacement contract = "Contract".toList) ∧
      (ReplacedSafely replacement result ∧
        Segment.substitute replacement result = "Result".toList) ∧
      Balanced (spelling type) ∧ IsBlank (spelling before) ∧ IsBlank (spelling within) := by
  obtain ⟨found, hfound⟩ := Option.isSome_iff_exists.mp hread
  obtain ⟨_, _, _, hinside, hbefore, hwithin, -, htext, happend⟩ := read_eq_some_iff.mp hfound
  rw [htext, word_eq_append] at happend
  simp only [List.append_assoc, List.cons_append, List.nil_append] at happend
  obtain ⟨contract, _, rfl, hcontract, hsafe, happend⟩ := hsafe.exists_plain (by decide) happend
  obtain ⟨result, _, rfl, hresult, hsafe, happend⟩ := hsafe.exists_plain (by decide) happend
  obtain ⟨type, _, rfl, ⟨htypeSafe, rfl⟩, hsafe, happend⟩ :=
    hsafe.exists_plain (by decide) happend
  obtain ⟨before, _, rfl, ⟨hbeforeSafe, rfl⟩, hsafe, happend⟩ :=
    hsafe.exists_plain (by decide) happend
  obtain ⟨within, rest, rfl, ⟨hwithinSafe, rfl⟩, -, -⟩ := hsafe.exists_plain (by decide) happend
  refine ⟨contract, result, type, before, within, rest, rfl, hcontract, hresult,
    htypeSafe.balanced_spelling hinside, ?_, ?_⟩
  · rwa [hbeforeSafe.spelling_of_isBlank hbefore]
  · rwa [hwithinSafe.spelling_of_isBlank hwithin]

/-- What reads as a reference to the result after a substitution did so before it, and nothing at
its beginning was replaced. -/
theorem exists_read_of_read_substitute (hcut : IsCut pattern false segments)
    (hsafe : ReplacedSafely replacement segments)
    (hread : (read (Segment.substitute replacement segments)).isSome = true) :
    ∃ c rest, segments = plain c :: rest ∧ (read (c :: spelling rest)).isSome = true := by
  obtain ⟨contract, result, type, before, within, rest, rfl, ⟨hcontractSafe, hcontract⟩,
    ⟨hresultSafe, hresult⟩, htype, hbefore, hwithin⟩ := exists_parts_of_read_substitute hsafe hread
  have hspellContract : spelling contract = "Contract".toList := by
    rw [← hcontract]
    apply hcut.spelling_of_isWordChar
    · rw [hcontract]
      exact List.all_iff_forall_prop.mp (by decide)
    · intro _ value text hmem
      rw [hcontract]
      exact (hcontractSafe value text hmem).2.not_contract
  have hspellResult : spelling result = "Result".toList := by
    have hresultCut := (List.append_cons contract _ _ ▸ hcut).append_right
    rw [wordBehind_append_plain] at hresultCut
    rw [← hresult]
    apply hresultCut.spelling_of_isWordChar
    · rw [hresult]
      exact List.all_iff_forall_prop.mp (by decide)
    · intro _ value text hmem
      rw [hresult]
      exact (hresultSafe value text hmem).2.not_result
  have hspell : (read (spelling (contract ++ plain '.' :: (result ++ plain '<' ::
      (type ++ plain '>' :: (before ++ plain '(' :: (within ++ plain ')' :: rest))))))).isSome =
        true := by
    refine Option.isSome_iff_exists.mpr ⟨⟨'<' :: spelling type ++ ['>'], _, spelling rest⟩,
      read_eq_some_iff.mpr ⟨spelling type, spelling before, spelling within, htype, hbefore,
        hwithin, rfl, rfl, ?_⟩⟩
    simp only [spelling_append, spelling_plain, hspellContract, hspellResult, word_eq_append,
      List.append_assoc, List.cons_append, List.nil_append]
  cases contract with
  | nil =>
    have hnil : [] = "Contract".toList := hcontract
    exact absurd hnil (by decide)
  | cons segment contract =>
    cases segment with
    | plain c => exact ⟨c, _, rfl, hspell⟩
    | reference value text =>
      obtain ⟨-, hvalue⟩ := hcontractSafe value text List.mem_cons_self
      exact absurd (hcontract ▸ List.prefix_append _ _) hvalue.not_contract

/-- A substitution makes no reference to the result: wherever one can be read afterwards, one could
be read in the text before. -/
theorem exists_place_of_read_substitute {left right : List Char}
    (hcut : IsCut pattern false segments) (hsafe : ReplacedSafely replacement segments)
    (hsubstitute : Segment.substitute replacement segments = left ++ right)
    (hleft : endsInWord false left = false) (hread : (read right).isSome = true) :
    ∃ front c back, segments = front ++ plain c :: back ∧ wordBehind false front = false ∧
      endsInWord false (spelling front) = false ∧ (read (c :: spelling back)).isSome = true := by
  obtain ⟨front, back, rfl, -, hback, hflag, hends⟩ := hsafe.exists_split hsubstitute hleft
  have hbackCut := hcut.append_right
  rw [hflag] at hbackCut
  obtain ⟨c, rest, rfl, hc⟩ :=
    exists_read_of_read_substitute hbackCut hsafe.of_append_right (hback ▸ hread)
  exact ⟨front, c, rest, rfl, hflag, hends, hc⟩

/-- If nothing could be read at the plain characters, nothing can be read after a safe substitution.
-/
theorem occursIn_ofList_substitute (hcut : IsCut pattern false segments)
    (hsafe : ReplacedSafely replacement segments)
    (hnone : ∀ front c back, segments = front ++ plain c :: back → wordBehind false front = false →
      endsInWord false (spelling front) = false → read (c :: spelling back) = none) :
    occursIn (String.ofList (Segment.substitute replacement segments)) = false := by
  rw [Bool.eq_false_iff]
  intro hoccurs
  obtain ⟨left, right, hspelling, hleft, hright⟩ :=
    (isCut_segments _).exists_read_of_any hoccurs
  rw [spelling_segments, String.toList_ofList] at hspelling
  obtain ⟨front, c, back, hsegments, hword, hends, hread⟩ :=
    exists_place_of_read_substitute hcut hsafe hspelling hleft hright
  rw [hnone front c back hsegments hword hends] at hread
  exact Bool.false_ne_true hread

/-- Replacing every reference to the result by a safe word leaves none. -/
theorem occursIn_substitute {replacement : String} (hsafe : IsSafeWord replacement.toList)
    (condition : String) : occursIn (substitute replacement condition) = false := by
  have hcut := isCut_segments condition
  apply occursIn_ofList_substitute hcut
  · intro value text hmem
    obtain ⟨rest, hread⟩ := hcut.read_of_mem hmem
    exact ⟨balanced_of_read hread, hsafe⟩
  · intro front c back hsegments hword _
    rw [hsegments] at hcut
    have hplain := hcut.append_right
    rw [hword] at hplain
    cases hplain with
    | plain hread _ => exact hread rfl

end ResultReference

theorem Snapshot.underscore_mem_variableFor (identifier : String) :
    '_' ∈ (variableFor identifier).toList := by
  rw [variableFor, String.toList_append]
  exact List.mem_append_right _ (by decide)

/-- The suffix keeps the variable of an old value apart from every word without an underscore. -/
theorem Snapshot.isSafeWord_variableFor {identifier : String}
    (hidentifier : ∀ c ∈ identifier.toList, Text.isWordChar c = true) :
    IsSafeWord (variableFor identifier).toList := by
  have hunderscore := underscore_mem_variableFor identifier
  constructor
  · exact List.ne_nil_of_mem hunderscore
  · intro c hc
    rw [variableFor, String.toList_append, List.mem_append] at hc
    rcases hc with hc | hc
    · exact hidentifier c hc
    · have hsuffix : ∀ d ∈ suffix.toList, Text.isWordChar d = true :=
        List.all_iff_forall_prop.mp (by decide)
      exact hsuffix c hc
  · intro hinitial
    exact absurd (hinitial.subset hunderscore) (by decide)
  · intro hinitial
    exact absurd (hinitial.subset hunderscore) (by decide)

/-- The variables of snapshots are safe replacements. -/
theorem OldValue.replacedSafely_segments (condition : String) :
    ReplacedSafely (fun identifier ↦ (Snapshot.variableFor identifier).toList)
      (segments condition) := by
  intro identifier text hmem
  obtain ⟨rest, hread⟩ := (isCut_segments condition).read_of_mem hmem
  obtain ⟨-, -, -, -, -, hidentifier, -⟩ := exists_text_of_mem hmem
  exact ⟨balanced_of_read hread, Snapshot.isSafeWord_variableFor hidentifier.isWordChar⟩

/-- Replacing the references to old values makes no reference to the result. -/
theorem OldValue.occursIn_substitute {condition : String}
    (hnone : ResultReference.occursIn condition = false) :
    ResultReference.occursIn (substitute condition) = false := by
  apply ResultReference.occursIn_ofList_substitute (isCut_segments condition)
  · exact replacedSafely_segments condition
  · intro front c back hsegments _ hends
    refine (ResultReference.isCut_segments condition).read_eq_none_of_any hnone ?_ hends
    calc spelling (ResultReference.segments condition)
        = spelling (OldValue.segments condition) := by
          rw [ResultReference.spelling_segments, OldValue.spelling_segments]
      _ = spelling front ++ c :: spelling back := by
        rw [hsegments, spelling_append, spelling_plain]

/-! ## The guards of a body -/

/-- Where the result has a variable, it replaces every reference to the result that there is. -/
theorem Clause.checkedCondition_guardsEntry {member : Member} {naming : NamingScheme}
    {result : String} (hreference : member.resultReference naming = some result)
    (form : ClauseForm) (condition : String) :
    checkedCondition member naming (guardsEntry form condition) condition =
      ResultReference.substitute result condition := by
  cases hentry : guardsEntry form condition with
  | false => simp [checkedCondition, hreference]
  | true =>
    have hnone : ResultReference.occursIn condition = false := by
      rw [guardsEntry, Bool.and_eq_true, Bool.not_eq_true'] at hentry
      exact hentry.2
    rw [checkedCondition, if_pos rfl, ResultReference.substitute_eq_self hnone]

/-- In a member that returns a value, the guard of a clause does not refer to the result. -/
theorem Clause.occursIn_guardOn {member : Member} {naming : NamingScheme} {clause : Clause}
    {isPrecondition : Bool} {guard : Guard}
    (hreference : member.resultReference naming = some naming.resultVariable)
    (hsafe : IsSafeWord naming.resultVariable.toList)
    (hguard : clause.guardOn member naming isPrecondition = some guard) :
    ResultReference.occursIn guard.condition = false := by
  have hcompiled : (clause.compile member naming).value.guard = some guard := by
    dsimp only [guardOn] at hguard
    split at hguard
    · exact hguard
    · exact absurd hguard (by simp)
  rcases clause.value_compile_cases member naming with hdropped | ⟨compiled, hvalue, ⟨source⟩⟩
  · rw [hdropped] at hcompiled
    exact absurd hcompiled (by simp [CompiledClause.dropped])
  · obtain ⟨invocation, condition, exceptionType, -, -, -, -, rfl⟩ := source
    rw [hvalue] at hcompiled
    obtain rfl := Option.some.inj hcompiled
    apply OldValue.occursIn_substitute
    rw [checkedCondition_guardsEntry hreference]
    exact ResultReference.occursIn_substitute hsafe condition

namespace MemberBody

/-- No guard in the body of a method or getter that returns a value refers to the result, if the
variable for the result is a word that neither `Contract` nor `Result` begins with. -/
theorem resultFree_assemble (member : Member) (naming : NamingScheme) (clauses : List Clause)
    {delegate type : String}
    (hshape : member.shape = .method (.value type) ∨ member.shape = .getter type)
    (hdelegate : member.delegate = some delegate) (hblank : Text.blankText delegate = false)
    (hsafe : IsSafeWord naming.resultVariable.toList) :
    ∃ body, (assemble member naming clauses).value = .ok body ∧
      ∀ guard, .check guard ∈ body.statements →
        ResultReference.occursIn guard.condition = false := by
  have htarget := Member.target_of_delegate hdelegate hblank
  have hreference := Member.resultReference_of_returns naming hshape
  refine ⟨_, value_assemble naming clauses htarget, ?_⟩
  intro guard hguard
  rcases mem_layout_check_iff.mp hguard with hguard | hguard
  · obtain ⟨clause, -, hclause⟩ := mem_orderedGuards_iff.mp hguard
    exact Clause.occursIn_guardOn hreference hsafe hclause
  · obtain ⟨clause, -, hclause⟩ := mem_orderedGuards_iff.mp hguard
    exact Clause.occursIn_guardOn hreference hsafe hclause

/-- A precondition on the result, a reference inside another one and an old value. -/
theorem resultFree_assemble_lookup :
    let member : Member :=
      { name := "Lookup", shape := .method (.value "int"), delegate := some "_contract" }
    let clauses : List Clause :=
      [⟨"Contract.Requires(Contract.Result<int>() > Contract.OldValue(size))", 1⟩,
        ⟨"Contract.Ensures(Contract.Result<Contract.Result<int>()>() > 0)", 0⟩]
    IsSafeWord "result".toList ∧ Text.blankText "_contract" = false ∧
      ∃ body, (assemble member {} clauses).value = .ok body ∧
        ∀ guard, .check guard ∈ body.statements →
          ResultReference.occursIn guard.condition = false := by
  intro member clauses
  have hsafe : IsSafeWord "result".toList :=
    ⟨by decide, List.all_iff_forall_prop.mp (by decide), by decide, by decide⟩
  have hblank : Text.blankText "_contract" = false := by decide
  exact ⟨hsafe, hblank, resultFree_assemble member {} clauses (Or.inl rfl) rfl hblank hsafe⟩

end MemberBody

end GuardedProxy
