import GuardedProxy.Proofs.ClauseOutcome
import GuardedProxy.Proofs.InvocationText
import GuardedProxy.Proofs.ReferenceRewrite
import GuardedProxy.Proofs.SegmentLiterals

/-!
# The literals of a condition

The references of a condition are looked for in its text as it stands, without regard to literals.
The guard of a clause therefore has the literals of the condition exactly when no reference that is
replaced begins in a literal or has a quote in it, and a precondition moves behind the call for every
place where a reference to the result can be read, be it in a literal.
-/

namespace GuardedProxy

open Segment Literal

namespace ResultReference

/-- The characters that every reference to the result contains. -/
def marks : List Char := word ++ ['<', '>', '(', ')']

theorem exchange_of_mem {condition reference : String} {mark : Char}
    (hcode : IsCode reference.toList) (hmark : mark ∈ marks) (hnot : mark ∉ reference.toList)
    {value text : List Char} (hmem : .reference value text ∈ segments condition) :
    Exchange mark text reference.toList := by
  obtain ⟨rest, hread⟩ := (isCut_segments condition).read_of_mem hmem
  obtain ⟨inside, before, within, -, -, -, -, htext, -⟩ := read_eq_some_iff.mp hread
  dsimp only at htext
  have hcontains : mark ∈ text := by
    rw [htext]
    simp only [marks, List.mem_append, List.mem_cons, List.not_mem_nil, or_false] at hmark ⊢
    rcases hmark with hword | rfl | rfl | rfl | rfl <;> simp [*]
  refine ⟨hcode, ?_, ?_⟩
  · rw [htext]
    simp [List.getLast?_append, List.getLast?_cons]
  · rw [List.count_eq_zero.mpr hnot]
    exact List.count_pos_iff.mpr hcontains

/-- A condition refers to the result exactly when a reference can be read somewhere in its text, with
no word reaching into it. -/
theorem occursIn_eq_true_iff {condition : String} :
    occursIn condition = true ↔ ∃ left right, condition.toList = left ++ right ∧
      endsInWord false left = false ∧ (read right).isSome = true := by
  have hcut := isCut_segments condition
  have hspelling := spelling_segments condition
  constructor
  · intro hoccurs
    obtain ⟨left, right, heq, hleft, hright⟩ := hcut.exists_read_of_any hoccurs
    exact ⟨left, right, hspelling.symm.trans heq, hleft, hright⟩
  · rintro ⟨left, right, heq, hleft, hright⟩
    by_contra hoccurs
    rw [Bool.not_eq_true] at hoccurs
    cases right with
    | nil => exact absurd hright (by decide)
    | cons c right =>
      have hnone : read (c :: right) = none :=
        hcut.read_eq_none_of_any hoccurs (hspelling.trans heq) hleft
      rw [hnone] at hright
      exact Bool.false_ne_true hright

end ResultReference

namespace OldValue

variable {condition value : String} {text : List Char}

theorem toList_variableFor (identifier : String) :
    (Snapshot.variableFor identifier).toList = identifier.toList ++ Snapshot.suffix.toList :=
  String.toList_append

theorem isCode_variableFor (hidentifier : IsIdentifier value.toList) :
    IsCode (Snapshot.variableFor value).toList := by
  have hsuffix : ∀ c ∈ Snapshot.suffix.toList, c ∉ quotes :=
    List.all_iff_forall_prop.mp (by decide)
  have hquotes : ∀ c ∈ quotes, Text.isWordChar c = false :=
    List.all_iff_forall_prop.mp (by decide)
  rw [toList_variableFor]
  refine ⟨by simp [Snapshot.suffix], fun c hc ↦ ?_, ?_⟩
  · rcases List.mem_append.mp hc with hc | hc
    · intro hquote
      have hword := hidentifier.isWordChar c hc
      rw [hquotes c hquote] at hword
      exact Bool.false_ne_true hword
    · exact hsuffix c hc
  · have hlast : Snapshot.suffix.toList.getLast? = some 'd' := by decide
    rw [List.getLast?_append, hlast]
    simp

theorem exchange_of_mem (hmem : .reference value text ∈ segments condition) :
    Exchange '(' text (Snapshot.variableFor value).toList := by
  obtain ⟨front, inside, after, -, -, hidentifier, rfl⟩ := exists_text_of_mem hmem
  refine ⟨isCode_variableFor hidentifier, by simp [List.getLast?_append, List.getLast?_cons], ?_⟩
  have hnot : '(' ∉ (Snapshot.variableFor value).toList := by
    rw [toList_variableFor]
    intro hopen
    rcases List.mem_append.mp hopen with hopen | hopen
    · exact absurd (hidentifier.isWordChar _ hopen) (by decide)
    · exact absurd hopen (by decide)
  rw [List.count_eq_zero.mpr hnot]
  exact List.count_pos_iff.mpr (by simp)

/-- The variable of a snapshot has no more of the characters of a reference to the result than the
reference to the old value that it replaces. -/
theorem count_variableFor_le {mark : Char} (hmark : mark ∈ ResultReference.marks)
    (hmem : .reference value text ∈ segments condition) :
    (Snapshot.variableFor value).toList.count mark ≤ text.count mark := by
  have hsuffix : ∀ c ∈ ResultReference.marks, Snapshot.suffix.toList.count c ≤ word.count c :=
    List.all_iff_forall_prop.mp (by decide)
  obtain ⟨front, inside, after, -, -, -, rfl⟩ := exists_text_of_mem hmem
  have hle := hsuffix mark hmark
  rw [toList_variableFor]
  simp only [List.count_append, List.count_cons]
  omega

end OldValue

/-- Replacing the references to old values keeps the literals exactly when these references stand
outside of them. -/
theorem all_oldValueSubstitute_iff {condition : String} (hclosed : Closed condition.toList) :
    all (OldValue.substitute condition).toList = all condition.toList ↔
      OutsideLiterals (OldValue.segments condition) := by
  rw [← OldValue.spelling_segments] at hclosed
  have hiff := all_substitute_eq_iff (fun _ _ ↦ OldValue.exchange_of_mem) hclosed
  rwa [← OldValue.toList_substitute, OldValue.spelling_segments] at hiff

section BothReferences

variable {condition reference : String} {mark : Char} (hcode : IsCode reference.toList)
  (hmark : mark ∈ ResultReference.marks) (hnot : mark ∉ reference.toList)
include hcode hmark hnot

/-- References to the result outside of literals leave the literals as they are. -/
theorem all_resultSubstitute
    (houtside : OutsideLiterals (ResultReference.segments condition)) :
    all (ResultReference.substitute reference condition).toList = all condition.toList ∧
      (Closed condition.toList →
        Closed (ResultReference.substitute reference condition).toList) := by
  have hkeeps := all_append_substitute []
    (fun _ _ ↦ ResultReference.exchange_of_mem hcode hmark hnot) houtside
  rwa [List.nil_append, List.nil_append, ← ResultReference.toList_substitute,
    ResultReference.spelling_segments] at hkeeps

/-- The literals tell that no reference to the result stood in one of them, even after the references
to old values have been replaced as well. -/
theorem outsideLiterals_of_all_substitute_eq (hclosed : Closed condition.toList)
    (hall : all (OldValue.substitute (ResultReference.substitute reference condition)).toList =
      all condition.toList) :
    OutsideLiterals (ResultReference.segments condition) := by
  have hexchange : ∀ value text, .reference value text ∈ ResultReference.segments condition →
      Exchange mark text reference.toList :=
    fun _ _ ↦ ResultReference.exchange_of_mem hcode hmark hnot
  have hold : ∀ value text, .reference value text ∈
      OldValue.segments (ResultReference.substitute reference condition) →
      QuoteFree (Snapshot.variableFor value).toList :=
    fun _ _ hmem ↦ (OldValue.exchange_of_mem hmem).isCode.quoteFree
  -- no rewriting takes a quote away, since the last text has as many as the first
  have hfirst := quoteCount_substitute_le fun value text hmem ↦
    (hexchange value text hmem).isCode.quoteFree
  have hsecond := quoteCount_substitute_le hold
  have htotal := hclosed.quoteCount_le hall.symm
  rw [← ResultReference.toList_substitute, ResultReference.spelling_segments] at hfirst
  rw [← OldValue.toList_substitute, OldValue.spelling_segments] at hsecond
  have hreplacesOld : Replaces (fun identifier ↦ (Snapshot.variableFor identifier).toList) mark
      (OldValue.segments (ResultReference.substitute reference condition)) := by
    intro value text hmem
    refine ⟨quoteFree_of_quoteCount_le hold ?_ hmem, hold value text hmem,
      OldValue.count_variableFor_le hmark hmem⟩
    rw [← OldValue.toList_substitute, OldValue.spelling_segments]
    exact hfirst.trans htotal
  have hreplaces :
      Replaces (fun _ ↦ reference.toList) mark (ResultReference.segments condition) := by
    apply replaces_of_exchange hexchange
    rw [← ResultReference.toList_substitute, ResultReference.spelling_segments]
    exact htotal.trans hsecond
  rw [← ResultReference.spelling_segments condition] at hclosed
  apply outsideLiterals_of_all_eq (keepsQuotes_substitute _ mark) hclosed hreplaces
  · exact fun value text hmem ↦ (hexchange value text hmem).count_lt
  · refine ⟨_, hreplacesOld, ?_, rfl⟩
    rw [OldValue.spelling_segments, ResultReference.toList_substitute]
  · rw [← OldValue.toList_substitute, ResultReference.spelling_segments]
    exact hall.symm

/-- Both rewritings keep the literals exactly when neither finds a reference in one. -/
theorem all_bothSubstitute_iff (hclosed : Closed condition.toList) :
    all (OldValue.substitute (ResultReference.substitute reference condition)).toList =
        all condition.toList ↔
      OutsideLiterals (ResultReference.segments condition) ∧
        OutsideLiterals (OldValue.segments (ResultReference.substitute reference condition)) := by
  constructor
  · intro hall
    have houtside := outsideLiterals_of_all_substitute_eq hcode hmark hnot hclosed hall
    obtain ⟨hkeeps, hmiddle⟩ := all_resultSubstitute hcode hmark hnot houtside
    exact ⟨houtside, (all_oldValueSubstitute_iff (hmiddle hclosed)).mp (hall.trans hkeeps.symm)⟩
  · rintro ⟨houtside, hold⟩
    obtain ⟨hkeeps, hmiddle⟩ := all_resultSubstitute hcode hmark hnot houtside
    exact ((all_oldValueSubstitute_iff (hmiddle hclosed)).mpr hold).trans hkeeps

end BothReferences

namespace Clause

variable {member : Member} {naming : NamingScheme} {form : ClauseForm} {condition : String}

/-- Every reference that is replaced in the condition begins in code and has no quote in it. A
reference to the result stays where nothing stands for the result. -/
def ReplacesCodeOnly (member : Member) (naming : NamingScheme) (form : ClauseForm)
    (condition : String) : Prop :=
  ((member.resultReference naming).isSome = true →
    OutsideLiterals (ResultReference.segments condition)) ∧
  OutsideLiterals (OldValue.segments
    (checkedCondition member naming (guardsEntry form condition) condition))

/-- A condition that is tested on entry has no reference to the result, in a literal or elsewhere.
-/
theorem outsideLiterals_of_guardsEntry (hentry : guardsEntry form condition = true) :
    OutsideLiterals (ResultReference.segments condition) := by
  simp only [guardsEntry, Bool.and_eq_true, Bool.not_eq_true'] at hentry
  intro front value text back heq
  have hnone := hentry.2
  rw [ResultReference.occursIn, heq] at hnone
  simp [isReference] at hnone

/-- The argument of an invocation ends every literal that it opens. -/
theorem closed_condition {clause : Clause} {invocation : Invocation}
    (hinvocation : clause.invocation = some invocation)
    (hcondition : invocation.condition = some condition) : Closed condition.toList := by
  have hmem : condition ∈ invocation.arguments := List.mem_of_getElem? hcondition
  obtain ⟨-, -, hpassage⟩ := (Invocation.isReadable_of_parse hinvocation).arguments condition hmem
  exact hpassage.closed

/-- The condition of a guard has the literals of the clause exactly when only code was replaced. -/
theorem all_checkedCondition_iff (hclosed : Closed condition.toList)
    (hreference : ∀ reference ∈ member.resultReference naming, IsCode reference.toList ∧
      ∃ mark ∈ ResultReference.marks, mark ∉ reference.toList) :
    all (OldValue.substitute
        (checkedCondition member naming (guardsEntry form condition) condition)).toList =
      all condition.toList ↔ ReplacesCodeOnly member naming form condition := by
  unfold ReplacesCodeOnly checkedCondition
  cases hentry : guardsEntry form condition with
  | true =>
    rw [if_pos rfl, all_oldValueSubstitute_iff hclosed]
    exact ⟨fun hold ↦ ⟨fun _ ↦ outsideLiterals_of_guardsEntry hentry, hold⟩, And.right⟩
  | false =>
    rw [if_neg Bool.false_ne_true]
    cases hsome : member.resultReference naming with
    | none =>
      rw [all_oldValueSubstitute_iff hclosed]
      simp
    | some reference =>
      obtain ⟨hcode, mark, hmark, hnot⟩ := hreference reference hsome
      rw [all_bothSubstitute_iff hcode hmark hnot hclosed]
      simp

/-- The guard of a clause has the literals of the condition exactly when every reference that is
replaced stands in code, and a precondition is checked after the call exactly when a reference to the
result can be read at some place of the condition, in a literal or not. What stands for the result is
code here, and it lacks some character of every reference to the result. -/
theorem literals_compile_iff {clause : Clause} {guard : Guard}
    (hguard : (clause.compile member naming).value.guard = some guard)
    (hreference : ∀ reference ∈ member.resultReference naming, IsCode reference.toList ∧
      ∃ mark ∈ ResultReference.marks, mark ∉ reference.toList) :
    ∃ invocation condition, clause.invocation = some invocation ∧
      invocation.condition = some condition ∧
      (all guard.condition.toList = all condition.toList ↔
        ReplacesCodeOnly member naming clause.form condition) ∧
      (clause.form ≠ .postcondition →
        ((clause.compile member naming).value.isPrecondition = false ↔
          ∃ left right, condition.toList = left ++ right ∧ endsInWord false left = false ∧
            (ResultReference.read right).isSome = true)) := by
  rcases clause.value_compile_cases member naming with hdropped | ⟨compiled, hvalue, ⟨source⟩⟩
  · rw [hdropped] at hguard
    exact absurd hguard (by simp [CompiledClause.dropped])
  · obtain ⟨invocation, condition, exceptionType, hinvocation, -, hcondition, -, rfl⟩ := source
    rw [hvalue] at hguard ⊢
    obtain rfl := Option.some.inj hguard
    have hclosed := closed_condition hinvocation hcondition
    refine ⟨invocation, condition, hinvocation, hcondition,
      all_checkedCondition_iff hclosed hreference, fun hform ↦ ?_⟩
    rw [← ResultReference.occursIn_eq_true_iff]
    simp [guardsEntry, hform]

/-- A precondition on a string that spells a reference to the result. The literal is changed, and
the guard moves behind the call. -/
theorem literals_compile_compute :
    let member : Member := { name := "Compute", shape := .method (.value "int") }
    let clause : Clause := ⟨"Contract.Requires(s != \"Contract.Result<int>()\")", 0⟩
    let condition := "s != \"Contract.Result<int>()\""
    ∃ guard, (clause.compile member {}).value.guard = some guard ∧
      (∀ reference ∈ member.resultReference {}, IsCode reference.toList ∧
        ∃ mark ∈ ResultReference.marks, mark ∉ reference.toList) ∧
      all guard.condition.toList = [⟨false, "\"result\"".toList⟩] ∧
      all condition.toList = [⟨false, "\"Contract.Result<int>()\"".toList⟩] ∧
      ¬ReplacesCodeOnly member {} clause.form condition ∧
      clause.form ≠ .postcondition ∧ (clause.compile member {}).value.isPrecondition = false ∧
      ∃ left right, condition.toList = left ++ right ∧ endsInWord false left = false ∧
        (ResultReference.read right).isSome = true := by
  intro member clause condition
  have hvalue : (clause.compile member {}).value = ⟨.untypedPrecondition,
      some ⟨"s != \"result\"", "Exception",
        "\"Precondition (s != 'Contract.Result<int>()') is not satisfied!\""⟩, false, []⟩ := by
    decide +kernel
  have hinvocation : clause.invocation = some ⟨"Contract.Requires", none, [condition]⟩ := by
    decide +kernel
  have hreference : ∀ reference ∈ member.resultReference {}, IsCode reference.toList ∧
      ∃ mark ∈ ResultReference.marks, mark ∉ reference.toList := by
    rintro reference ⟨⟩
    exact ⟨⟨by decide, by decide, by decide⟩, '(', by decide, by decide⟩
  have hguard := congrArg CompiledClause.guard hvalue
  have hentry := congrArg CompiledClause.isPrecondition hvalue
  have hform : clause.form ≠ .postcondition := by decide +kernel
  have hnew : all "s != \"result\"".toList = [⟨false, "\"result\"".toList⟩] := by decide +kernel
  have hold : all condition.toList = [⟨false, "\"Contract.Result<int>()\"".toList⟩] := by
    decide +kernel
  obtain ⟨invocation, found, hsame, hcondition, hliterals, hmoves⟩ :=
    literals_compile_iff hguard hreference
  obtain rfl := Option.some.inj (hinvocation.symm.trans hsame)
  obtain rfl : condition = found := Option.some.inj hcondition
  refine ⟨_, hguard, hreference, hnew, hold, ?_, hform, hentry, (hmoves hform).mp hentry⟩
  rw [← hliterals, hnew, hold]
  decide

end Clause

end GuardedProxy
