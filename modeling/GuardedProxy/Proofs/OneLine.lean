import GuardedProxy.Proofs.ClauseCall
import GuardedProxy.Proofs.InvocationText
import GuardedProxy.Proofs.SnapshotOrder

/-!
# Statements on one line

The text of a statement is made of pieces of the clauses, of the names of the member and the
naming, and of fixed words. Reading a clause, replacing its references and quoting its condition
add no line feed. So the statements of a body stand on one line each, if no string that goes into
the body has a line feed.
-/

namespace GuardedProxy

namespace Text

/-- The text has no line feed. -/
def OneLine (text : String) : Prop := '\n' ∉ text.toList

instance (text : String) : Decidable (OneLine text) :=
  inferInstanceAs (Decidable ('\n' ∉ text.toList))

theorem oneLine_append {front back : String} :
    OneLine (front ++ back) ↔ OneLine front ∧ OneLine back := by
  simp only [OneLine, String.toList_append, List.mem_append, not_or]

theorem OneLine.of_subset {text piece : String} (htext : OneLine text)
    (hpiece : piece.toList ⊆ text.toList) : OneLine piece :=
  fun hmem ↦ htext (hpiece hmem)

theorem OneLine.trimmed {text : String} (htext : OneLine text) : OneLine (trimmed text) := by
  apply htext.of_subset
  rw [Text.trimmed, String.toList_ofList]
  exact fun c hc ↦ mem_of_mem_trim hc

theorem oneLine_intercalate {separator : String} {texts : List String}
    (hseparator : OneLine separator) (htexts : ∀ text ∈ texts, OneLine text) :
    OneLine (separator.intercalate texts) := by
  induction texts with
  | nil =>
    rw [String.intercalate_nil]
    decide
  | cons text rest ih =>
    have hrest := ih fun other hother ↦ htexts other (List.mem_cons_of_mem _ hother)
    have htext := htexts text List.mem_cons_self
    cases rest with
    | nil => simpa using htext
    | cons next rest =>
      rw [String.intercalate_cons_cons, oneLine_append, oneLine_append]
      exact ⟨⟨htext, hseparator⟩, hrest⟩

end Text

open Text (OneLine oneLine_append)

/-- The text of a clause is taken from its source. -/
theorem Clause.text_subset (clause : Clause) : clause.text.toList ⊆ clause.source.toList := by
  intro c hc
  dsimp only [Clause.text] at hc
  split at hc
  · rw [String.toList_ofList, Text.trimEnd, List.mem_reverse] at hc
    have hmem := List.mem_reverse.mp ((List.dropWhile_sublist _).subset hc)
    exact Text.mem_of_mem_trim (List.dropLast_subset _ hmem)
  · rw [String.toList_ofList] at hc
    exact Text.mem_of_mem_trim hc

/-- The default message is on one line with its condition. -/
theorem oneLine_failureMessage {label condition : String} (hlabel : OneLine label)
    (hcondition : OneLine condition) : OneLine (failureMessage label condition) := by
  have hquoted : OneLine
      (String.ofList (condition.toList.map fun c ↦ if c = '"' then '\'' else c)) := by
    rw [OneLine, String.toList_ofList, List.mem_map]
    rintro ⟨c, hc, hfeed⟩
    split at hfeed
    · exact absurd hfeed (by decide)
    · exact hcondition (hfeed ▸ hc)
  simp only [failureMessage, oneLine_append, hlabel, hquoted]
  decide

/-- The identifier of a snapshot is a piece of the condition. -/
theorem OldValue.identifier_subset {condition : String} {snapshot : Snapshot}
    (hsnapshot : snapshot ∈ snapshots condition) :
    snapshot.variableName = Snapshot.variableFor snapshot.identifier ∧
      snapshot.identifier.toList ⊆ condition.toList := by
  obtain ⟨found, hfound, rfl⟩ := List.mem_map.mp hsnapshot
  have hmem := Segment.exists_mem_locate_iff.mp ⟨found, hfound, rfl, rfl⟩
  obtain ⟨rest, hread⟩ := (isCut_segments condition).read_of_mem hmem
  refine ⟨rfl, fun c hc ↦ ?_⟩
  rw [← spelling_segments]
  exact List.mem_flatMap.mpr ⟨_, hmem, subset_text_of_read hread hc⟩

theorem Clause.oneLine_exceptionType {naming : NamingScheme} {form : ClauseForm}
    {invocation : Invocation} {type : String} (hexception : OneLine naming.defaultException)
    (hargument : ∀ type ∈ invocation.typeArgument, OneLine type)
    (htype : exceptionType naming form invocation = some type) : OneLine type := by
  cases form with
  | typedPrecondition => exact hargument type htype
  | untypedPrecondition => exact Option.some.inj htype ▸ hexception
  | postcondition => exact Option.some.inj htype ▸ hexception
  | unrecognized => exact absurd htype (by simp [exceptionType])

theorem Clause.oneLine_messageLabel (form : ClauseForm) : OneLine (messageLabel form) := by
  cases form <;> decide

section Compiled

variable {member : Member} {naming : NamingScheme} {clause : Clause}
  (hsource : OneLine clause.source) (hexception : OneLine naming.defaultException)
  (hresult : ∀ reference ∈ member.resultReference naming, OneLine reference)
include hsource hexception hresult

/-- What a clause compiles to stands on one line, if all it is made from does. -/
theorem Clause.oneLine_compile :
    (∀ guard ∈ (clause.compile member naming).value.guard,
        OneLine (Statement.check guard).text) ∧
      ∀ snapshot ∈ (clause.compile member naming).value.snapshots,
        OneLine (Statement.keep snapshot).text := by
  rcases clause.value_compile_cases member naming with hdropped | ⟨compiled, hcompiled, ⟨source⟩⟩
  · rw [hdropped]
    exact ⟨by simp [CompiledClause.dropped], by simp [CompiledClause.dropped]⟩
  · obtain ⟨invocation, condition, exceptionType, hinvocation, -, hcondition, hthrown, rfl⟩ :=
      source
    have htext : OneLine clause.text := hsource.of_subset clause.text_subset
    obtain ⟨htype, harguments⟩ := Invocation.isInfix_of_parse hinvocation
    have hargument : ∀ argument ∈ invocation.arguments, OneLine argument := fun argument hmem ↦
      htext.of_subset (harguments argument hmem).subset
    have hgiven : OneLine condition := hargument condition (List.mem_of_getElem? hcondition)
    -- the result may stand in for a reference, so its name counts as well
    have hchecked : OneLine
        (checkedCondition member naming (guardsEntry clause.form condition) condition) := by
      intro hfeed
      rcases mem_checkedCondition hfeed with hfeed | ⟨reference, hreference, hfeed⟩
      · exact hgiven hfeed
      · exact hresult reference hreference hfeed
    have hthrows : OneLine exceptionType := oneLine_exceptionType hexception
      (fun type hmem ↦ htext.of_subset (htype type hmem).subset) hthrown
    have hmessage : OneLine (invocation.message.getD
        (failureMessage (messageLabel clause.form) condition)) := by
      cases hgivenMessage : invocation.message with
      | none => exact oneLine_failureMessage (oneLine_messageLabel _) hgiven
      | some message => exact hargument message (List.mem_of_getElem? hgivenMessage)
    rw [hcompiled]
    constructor
    · rintro guard ⟨⟩
      have hsubstituted : OneLine (OldValue.substitute
          (checkedCondition member naming (guardsEntry clause.form condition) condition)) := by
        intro hfeed
        rcases OldValue.mem_substitute hfeed with hfeed | hfeed
        · exact hchecked hfeed
        · exact absurd hfeed (by decide)
      simp only [Statement.text, Guard.test, Guard.throwing, oneLine_append, hsubstituted, hthrows,
        hmessage]
      decide
    · intro snapshot hsnapshot
      obtain ⟨hvariable, hidentifier⟩ := OldValue.identifier_subset hsnapshot
      have honeLine := hchecked.of_subset hidentifier
      simp only [Statement.text, hvariable, Snapshot.variableFor, oneLine_append, honeLine]
      decide

end Compiled

def NamingScheme.strings (naming : NamingScheme) : List String :=
  [naming.delegateField, naming.resultVariable, naming.defaultException]

namespace Member

variable {member : Member} {naming : NamingScheme} {target : String}

/-- The strings of a member that its body is made of. -/
def strings (member : Member) : List String :=
  member.name :: (member.parameterNames ++ member.delegate.toList)

theorem eq_of_resultVariable {name : String} (hname : member.resultVariable naming = some name) :
    name = naming.resultVariable := by
  obtain ⟨-, hsome⟩ := Option.ite_none_left_eq_some.mp hname
  exact (Option.some.inj hsome).symm

section Strings

variable (hmember : ∀ text ∈ member.strings, OneLine text)
include hmember

theorem oneLine_target (htarget : member.target = some target) : OneLine target := by
  obtain ⟨htrimmed, -⟩ := Option.filter_eq_some_iff.mp htarget
  obtain ⟨delegate, hdelegate, rfl⟩ := Option.map_eq_some_iff.mp htrimmed
  exact (hmember delegate (by simp [strings, hdelegate])).trimmed

theorem oneLine_onTarget (htarget : OneLine target) : OneLine (member.onTarget target) := by
  have hname := hmember member.name List.mem_cons_self
  simp only [onTarget, oneLine_append, htarget, hname]
  decide

theorem oneLine_delegatedCall (htarget : OneLine target) :
    OneLine (member.delegatedCall target) := by
  have hcalled := oneLine_onTarget hmember htarget
  have hlist : OneLine (String.intercalate ", " member.parameterNames) :=
    Text.oneLine_intercalate (by decide) fun name hname ↦ hmember name (by simp [strings, hname])
  unfold delegatedCall
  cases member.shape with
  | method returns =>
    simp only [oneLine_append, hcalled, hlist]
    decide
  | getter type => exact hcalled
  | setter =>
    rw [oneLine_append]
    exact ⟨hcalled, by decide⟩

theorem oneLine_resultReference (hresult : OneLine naming.resultVariable) :
    ∀ reference ∈ member.resultReference naming, OneLine reference := by
  intro reference hreference
  unfold resultReference at hreference
  split at hreference
  · obtain ⟨target, htarget, rfl⟩ := Option.map_eq_some_iff.mp hreference
    exact oneLine_onTarget hmember (oneLine_target hmember htarget)
  · rw [eq_of_resultVariable hreference]
    exact hresult

end Strings

end Member

namespace MemberBody

/-- The statements of a body stand on one line each. -/
theorem oneLine_statements {member : Member} {naming : NamingScheme} {clauses : List Clause}
    {body : MemberBody} (hmember : ∀ text ∈ member.strings, OneLine text)
    (hnaming : ∀ text ∈ naming.strings, OneLine text)
    (hclauses : ∀ clause ∈ clauses, OneLine clause.source)
    (hbody : (assemble member naming clauses).value = .ok body) :
    ∀ statement ∈ body.statements, OneLine statement.text := by
  have hvariable : OneLine naming.resultVariable := hnaming _ (by simp [NamingScheme.strings])
  have hexception : OneLine naming.defaultException := hnaming _ (by simp [NamingScheme.strings])
  have hcompiled := fun clause (hclause : clause ∈ clauses) ↦
    Clause.oneLine_compile (hclauses clause hclause) hexception
      (Member.oneLine_resultReference hmember hvariable)
  cases htarget : member.target with
  | none =>
    rw [assemble, htarget] at hbody
    exact absurd hbody (by simp)
  | some target =>
    rw [value_assemble naming clauses htarget] at hbody
    obtain rfl := Except.ok.inj hbody
    intro statement hstatement
    cases statement with
    | keep snapshot =>
      have hkept := (firstOfEach_sublist _ _).subset (mem_layout_keep_iff.mp hstatement)
      obtain ⟨clause, hclause, hsnapshot⟩ := List.mem_flatMap.mp hkept
      exact (hcompiled clause ((perm_inOrder clauses).mem_iff.mp hclause)).2 snapshot hsnapshot
    | check guard =>
      have hside : ∃ isPrecondition, guard ∈ orderedGuards member naming clauses isPrecondition :=
        (mem_layout_check_iff.mp hstatement).elim (fun h ↦ ⟨true, h⟩) (fun h ↦ ⟨false, h⟩)
      obtain ⟨isPrecondition, hguard⟩ := hside
      obtain ⟨clause, hclause, hguardOn⟩ := mem_orderedGuards_iff.mp hguard
      obtain ⟨-, hcompiledGuard⟩ := Option.ite_none_right_eq_some.mp hguardOn
      exact (hcompiled clause hclause).1 guard hcompiledGuard
    | call expression result =>
      have hcall := member.oneLine_delegatedCall hmember (member.oneLine_target hmember htarget)
      obtain ⟨rfl, hresult⟩ := mem_layout_call_iff.mp hstatement
      cases result with
      | none =>
        rw [Statement.text, oneLine_append]
        exact ⟨hcall, by decide⟩
      | some name =>
        obtain rfl := Member.eq_of_resultVariable hresult.symm
        simp only [Statement.text, oneLine_append, hvariable, hcall]
        decide
    | giveBack name =>
      obtain rfl := Member.eq_of_resultVariable (mem_layout_giveBack_iff.mp hstatement)
      simp only [Statement.text, oneLine_append, hvariable]
      decide

end MemberBody

end GuardedProxy
