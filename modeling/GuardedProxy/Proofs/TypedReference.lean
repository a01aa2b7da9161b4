import GuardedProxy.Proofs.ClauseCall
import GuardedProxy.Proofs.TypeText

/-!
# References of any type

A condition that compares a typed reference with `null` is rewritten as a whole: whatever type
stands in the angle brackets, the reference is read up to its last parenthesis. The clause around
the condition is divided into arguments first, by a reader of its own. The condition therefore
survives exactly when the type exposes no comma, and otherwise the clause is cut inside of the type.
-/

namespace GuardedProxy

open Invocation

/-- The text has the type in it, in between letters that no reader of arguments minds. An
exclamation mark can only stand behind the type. -/
structure HoldsType (type : TypeExpr) (inside : String) where
  before : List Char
  after : List Char
  toList_eq : inside.toList = before ++ type.text ++ after
  passesOver_before : PassesOver 0 before
  passesOver_after : PassesOver 0 after
  head_before : before.head? = some 'C'
  last_after : after.getLast? = some 'l'
  not_mem_before : '!' ∉ before

namespace HoldsType

variable {type : TypeExpr} {inside head : String} {form : ClauseForm} {position : Nat}

theorem argument?_eq (holds : HoldsType type inside) :
    argument? inside.toList.reverse = some inside := by
  obtain ⟨before, after, htoList, -, -, hfirst, hlast, -⟩ := holds
  obtain ⟨letters, rfl⟩ := List.head?_eq_some_iff.mp hfirst
  obtain ⟨others, rfl⟩ := List.getLast?_eq_some_iff.mp hlast
  have htext : inside.toList = 'C' :: (letters ++ type.text ++ others) ++ ['l'] := by
    rw [htoList]
    simp
  rw [htext, argument?_reverse _ (by decide) (by decide), ← htext, String.ofList_toList]

theorem passesOver (holds : HoldsType type inside) (hexposes : type.exposesComma = false) :
    PassesOver 0 inside.toList := by
  rw [holds.toList_eq]
  exact (holds.passesOver_before.append (type.passesOver_text hexposes)).append
    holds.passesOver_after

/-- A type that exposes a comma keeps exclamation marks out of the guard. -/
theorem not_mem_condition {member : Member} {naming : NamingScheme} {guard : Guard}
    (holds : HoldsType type inside) (hhead : (head, form) ∈ Clause.untypedHeads)
    (hexposes : type.exposesComma = true)
    (hreference : ∀ reference, member.resultReference naming = some reference →
      '!' ∉ reference.toList)
    (hguard : ((Clause.call head inside position).compile member naming).value.guard = some guard) :
    '!' ∉ guard.condition.toList := by
  obtain ⟨front, back, htext, hfront⟩ := type.dividesArguments hexposes
  have hinside : inside.toList = holds.before ++ front ++ ',' :: (back ++ holds.after) := by
    rw [holds.toList_eq, htext]
    simp
  have htype : '!' ∉ front := by
    intro hmem
    have hchar : IsTypeChar '!' :=
      typeClosed_isTypeChar.text type '!' (htext ▸ List.mem_append_left _ hmem)
    exact absurd hchar (by unfold IsTypeChar; decide)
  intro hmem
  rcases Clause.mem_of_mem_condition_call hhead hinside (holds.passesOver_before.append hfront)
    hguard hmem with hmem | hmem | ⟨reference, hsome, hmem⟩
  · rcases List.mem_append.mp hmem with hmem | hmem
    · exact holds.not_mem_before hmem
    · exact htype hmem
  · exact absurd hmem (by decide)
  · exact hreference reference hsome hmem

end HoldsType

/-! ## Clauses that test a reference -/

/-- A clause, the condition that its guard should have and the snapshots that it should need. -/
structure ReferenceTest where
  head : String
  form : ClauseForm
  inside : String
  condition : String
  snapshots : List Snapshot

namespace ReferenceTest

/-- What becomes of the clause. -/
def compiled (test : ReferenceTest) (member : Member) (naming : NamingScheme) (position : Nat) :
    CompiledClause :=
  ((Clause.call test.head test.inside position).compile member naming).value

/-- What should become of the clause: a guard after the call. -/
def expected (test : ReferenceTest) (naming : NamingScheme) : CompiledClause :=
  ⟨test.form, some ⟨test.condition, naming.defaultException,
    failureMessage (Clause.messageLabel test.form) test.inside⟩, false, test.snapshots⟩

/-- The test comes out as expected if its type exposes no comma. Otherwise not even its condition
does, as long as it needs an exclamation mark. -/
theorem compiled_iff {test : ReferenceTest} {type : TypeExpr} {member : Member}
    {naming : NamingScheme} (position : Nat) (holds : HoldsType type test.inside)
    (hhead : (test.head, test.form) ∈ Clause.untypedHeads)
    (hreference : ∀ reference, member.resultReference naming = some reference →
      '!' ∉ reference.toList)
    (hentry : Clause.guardsEntry test.form test.inside = false)
    (hsubstitute : OldValue.substitute (Clause.checkedCondition member naming false test.inside) =
      test.condition)
    (hsnapshots : OldValue.snapshots (Clause.checkedCondition member naming false test.inside) =
      test.snapshots)
    (hcondition : '!' ∈ test.condition.toList) :
    ((test.compiled member naming position).guard.map Guard.condition = some test.condition ↔
      type.exposesComma = false) ∧
    (type.exposesComma = false → test.compiled member naming position = test.expected naming) := by
  have hexpected : type.exposesComma = false →
      test.compiled member naming position = test.expected naming := by
    intro hexposes
    have hcompiled := Clause.value_compile_call member naming position hhead
      (holds.passesOver hexposes) holds.argument?_eq
    rw [compiled, hcompiled, hentry]
    dsimp only
    rw [hsubstitute, hsnapshots, expected]
  refine ⟨⟨fun hchecks ↦ ?_, fun hexposes ↦ ?_⟩, hexpected⟩
  · rw [Bool.eq_false_iff]
    intro hexposes
    rw [compiled] at hchecks
    obtain ⟨guard, hguard, hchecked⟩ := Option.map_eq_some_iff.mp hchecks
    rw [← hchecked] at hcondition
    exact holds.not_mem_condition hhead hexposes hreference hguard hcondition
  · rw [hexpected hexposes]
    rfl

end ReferenceTest

/-! ## Comparing a reference with `null` -/

namespace TypeExpr

variable (type : TypeExpr) (identifier : String)

def spelled : String := String.ofList type.text

def resultCondition : String := "Contract.Result<" ++ type.spelled ++ ">() != null"

def oldValueCondition : String :=
  "Contract.OldValue<" ++ type.spelled ++ ">(" ++ identifier ++ ") != null"

/-- What follows the reference in both tests. -/
def comparison : List Char := " != null".toList

/-- The reference of the first test. -/
def resultText : List Char :=
  ResultReference.word ++ ('<' :: type.text ++ ['>']) ++ ([] ++ '(' :: [] ++ [')'])

/-- The reference of the second test. -/
def oldValueText : List Char :=
  OldValue.word ++ ('<' :: type.text ++ ['>']) ++
    ([] ++ '(' :: [] ++ identifier.toList ++ [] ++ [')'])

theorem toList_resultCondition : type.resultCondition.toList = type.resultText ++ comparison := by
  have hbefore : "Contract.Result<".toList = ResultReference.word ++ ['<'] := by decide
  have hafter : ">() != null".toList = '>' :: '(' :: ')' :: comparison := by decide
  unfold resultCondition spelled resultText
  simp only [String.toList_append, String.toList_ofList]
  rw [hbefore, hafter]
  simp only [List.append_assoc, List.cons_append, List.nil_append]

theorem toList_oldValueCondition :
    (type.oldValueCondition identifier).toList = type.oldValueText identifier ++ comparison := by
  have hbefore : "Contract.OldValue<".toList = OldValue.word ++ ['<'] := by decide
  have hmiddle : ">(".toList = ['>', '('] := by decide
  have hafter : ") != null".toList = ')' :: comparison := by decide
  unfold oldValueCondition spelled oldValueText
  simp only [String.toList_append, String.toList_ofList]
  rw [hbefore, hmiddle, hafter]
  simp only [List.append_assoc, List.cons_append, List.nil_append]

theorem passesOver_comparison : PassesOver 0 comparison :=
  passesOver_of_not_mem_signs (List.all_iff_forall_prop.mp (by decide))

def holdsType_resultCondition : HoldsType type type.resultCondition where
  before := ResultReference.word ++ ['<']
  after := ['>'] ++ (('(' :: [] ++ [')']) ++ comparison)
  toList_eq := by
    rw [toList_resultCondition, resultText]
    simp only [List.append_assoc, List.cons_append, List.nil_append]
  passesOver_before := passesOver_of_not_mem_signs (List.all_iff_forall_prop.mp (by decide))
  passesOver_after := by
    have hparentheses : PassesOver 0 ('(' :: [] ++ [')']) :=
      passesOver_nil.enclosed (by decide) (by decide)
    exact (passesOver_singleton (by decide)).append (hparentheses.append passesOver_comparison)
  head_before := by decide
  last_after := by decide
  not_mem_before := by decide

def holdsType_oldValueCondition (hidentifier : IsIdentifier identifier.toList) :
    HoldsType type (type.oldValueCondition identifier) where
  before := OldValue.word ++ ['<']
  after := ['>'] ++ (('(' :: identifier.toList ++ [')']) ++ comparison)
  toList_eq := by
    rw [toList_oldValueCondition, oldValueText]
    simp only [List.append_assoc, List.cons_append, List.nil_append]
  passesOver_before := passesOver_of_not_mem_signs (List.all_iff_forall_prop.mp (by decide))
  passesOver_after := by
    have hletters : PassesOver 1 identifier.toList := passesOver_of_not_mem_signs fun c hc ↦
      not_mem_signs_of_isWordChar (hidentifier.isWordChar c hc)
    have hparentheses : PassesOver 0 ('(' :: identifier.toList ++ [')']) :=
      hletters.enclosed (by decide) (by decide)
    exact (passesOver_singleton (by decide)).append (hparentheses.append passesOver_comparison)
  head_before := by decide
  last_after := by
    rw [List.getLast?_append, List.getLast?_append]
    rfl
  not_mem_before := by decide

theorem ofList_append_comparison (value : String) :
    String.ofList (value.toList ++ comparison) = value ++ " != null" := by
  rw [String.ofList_append, String.ofList_toList]
  rfl

theorem read_resultText : ResultReference.read (type.resultText ++ comparison) =
    some ⟨'<' :: type.text ++ ['>'], type.resultText, comparison⟩ :=
  ResultReference.read_eq_some_iff.mpr ⟨type.text, [], [], typeClosed_balanced.text type,
    List.forall_mem_nil _, List.forall_mem_nil _, rfl, rfl, rfl⟩

theorem read_oldValueText (hidentifier : IsIdentifier identifier.toList) :
    OldValue.read (type.oldValueText identifier ++ comparison) =
      some ⟨identifier, type.oldValueText identifier, comparison⟩ :=
  OldValue.read_eq_some_iff.mpr ⟨'<' :: type.text ++ ['>'], [], [], identifier.toList, [],
    Or.inr ⟨type.text, typeClosed_balanced.text type, rfl⟩, List.forall_mem_nil _,
    List.forall_mem_nil _, List.forall_mem_nil _, hidentifier, String.ofList_toList.symm, rfl, rfl⟩

theorem resultCondition_eq :
    type.resultCondition = String.ofList (type.resultText ++ comparison) := by
  rw [← toList_resultCondition, String.ofList_toList]

theorem oldValueCondition_eq : type.oldValueCondition identifier =
    String.ofList (type.oldValueText identifier ++ comparison) := by
  rw [← toList_oldValueCondition, String.ofList_toList]

theorem occursIn_resultCondition : ResultReference.occursIn type.resultCondition = true := by
  rw [resultCondition_eq]
  exact ResultReference.occursIn_of_read type.read_resultText

/-- The test of a result becomes a test of what stands for it. -/
theorem substitute_resultCondition (replacement : String) :
    ResultReference.substitute replacement type.resultCondition = replacement ++ " != null" := by
  rw [resultCondition_eq, ResultReference.substitute_of_read type.read_resultText _ (by decide),
    ofList_append_comparison]

/-- The reference to the old value opens its parenthesis onto the identifier. -/
theorem occursIn_oldValueCondition (hidentifier : IsIdentifier identifier.toList) :
    ResultReference.occursIn (type.oldValueCondition identifier) = false := by
  apply ResultReference.occursIn_of_hollowFree
  have hafter : HollowFree (identifier.toList ++ ')' :: comparison) := by
    apply (hollowFree_of_not_mem ?_).append (hollowFree_of_not_mem (by decide))
    intro hmem
    exact absurd (hidentifier.isWordChar _ hmem) (by decide)
  have hsolid : StartsSolid (identifier.toList ++ ')' :: comparison) := by
    obtain ⟨first, rest, hletters, hfirst, -⟩ := hidentifier
    rw [hletters]
    exact startsSolid_of_isWordChar (Text.isWordChar_of_isIdentifierStart hfirst) _
  have hbefore : HollowFree (OldValue.word ++ ['<']) := hollowFree_of_not_mem (by decide)
  have hangle : HollowFree ['>'] := hollowFree_of_not_mem (by decide)
  have htype := (typeClosed_hollowFree.text type).2
  have htext : (type.oldValueCondition identifier).toList = OldValue.word ++ ['<'] ++ type.text ++
      (['>'] ++ '(' :: (identifier.toList ++ ')' :: comparison)) := by
    rw [toList_oldValueCondition, oldValueText]
    simp only [List.append_assoc, List.cons_append, List.nil_append]
  rw [htext]
  exact (hbefore.append htype).append (hangle.append (hafter.cons hsolid))

/-- The test of an old value becomes a test of its variable. -/
theorem substitute_oldValueCondition (hidentifier : IsIdentifier identifier.toList) :
    OldValue.substitute (type.oldValueCondition identifier) =
      Snapshot.variableFor identifier ++ " != null" := by
  rw [oldValueCondition_eq,
    OldValue.substitute_of_read (type.read_oldValueText identifier hidentifier) (by decide),
    ofList_append_comparison]

theorem snapshots_oldValueCondition (hidentifier : IsIdentifier identifier.toList) :
    OldValue.snapshots (type.oldValueCondition identifier) = [Snapshot.ofIdentifier identifier] := by
  rw [oldValueCondition_eq,
    OldValue.snapshots_of_read (type.read_oldValueText identifier hidentifier) (by decide)]

/-- A test of the result, under a head of the given form. -/
def resultTest (naming : NamingScheme) (head : String) (form : ClauseForm) : ReferenceTest :=
  ⟨head, form, type.resultCondition, naming.resultVariable ++ " != null", []⟩

/-- A test of an old value in a postcondition. -/
def oldValueTest : ReferenceTest :=
  ⟨"Contract.Ensures", .postcondition, type.oldValueCondition identifier,
    identifier ++ "_old" ++ " != null", [⟨identifier, identifier ++ "_old"⟩]⟩

theorem mem_comparison (value : String) : '!' ∈ (value ++ " != null").toList := by
  rw [String.toList_append]
  exact List.mem_append_right _ (by decide)

section Compilation

variable {member : Member} {naming : NamingScheme} (position : Nat)
  (hreference : member.resultReference naming = some naming.resultVariable)
  (hresult : ∀ c ∈ naming.resultVariable.toList, Text.isWordChar c = true)
include hreference

theorem checkedCondition_eq (inside : String) : Clause.checkedCondition member naming false inside =
    ResultReference.substitute naming.resultVariable inside := by
  simp [Clause.checkedCondition, hreference]

include hresult

theorem not_mem_resultReference {c : Char} (hc : Text.isWordChar c = false) (reference : String)
    (hsome : member.resultReference naming = some reference) : c ∉ reference.toList := by
  rw [hreference] at hsome
  obtain rfl := Option.some.inj hsome
  intro hmem
  rw [hresult c hmem] at hc
  exact Bool.false_ne_true hc.symm

/-- A test of the result is compiled as meant exactly when the type shows no comma. -/
theorem compiled_resultTest_iff {head : String} {form : ClauseForm}
    (hhead : (head, form) ∈ Clause.untypedHeads) :
    (((type.resultTest naming head form).compiled member naming position).guard.map
      Guard.condition = some (type.resultTest naming head form).condition ↔
        type.exposesComma = false) ∧
    (type.exposesComma = false →
      (type.resultTest naming head form).compiled member naming position =
        (type.resultTest naming head form).expected naming) := by
  -- the result variable brings no parenthesis, so that no old value is found behind it
  have hopen : '(' ∉ (naming.resultVariable ++ " != null").toList := by
    rw [String.toList_append, List.mem_append, not_or]
    exact ⟨not_mem_resultReference hreference hresult (by decide) _ hreference, by decide⟩
  have hchecked : Clause.checkedCondition member naming false type.resultCondition =
      naming.resultVariable ++ " != null" := by
    rw [checkedCondition_eq hreference, substitute_resultCondition]
  have hentry : Clause.guardsEntry form type.resultCondition = false := by
    simp [Clause.guardsEntry, type.occursIn_resultCondition]
  apply ReferenceTest.compiled_iff position type.holdsType_resultCondition hhead
  · exact not_mem_resultReference hreference hresult (by decide)
  · exact hentry
  · calc OldValue.substitute (Clause.checkedCondition member naming false type.resultCondition)
        = OldValue.substitute (naming.resultVariable ++ " != null") := by rw [hchecked]
      _ = naming.resultVariable ++ " != null" := OldValue.substitute_eq_self hopen
  · calc OldValue.snapshots (Clause.checkedCondition member naming false type.resultCondition)
        = OldValue.snapshots (naming.resultVariable ++ " != null") := by rw [hchecked]
      _ = [] := OldValue.snapshots_eq_nil hopen
  · exact mem_comparison _

/-- A test of an old value is compiled as meant exactly when the type shows no comma. -/
theorem compiled_oldValueTest_iff (hidentifier : IsIdentifier identifier.toList) :
    (((type.oldValueTest identifier).compiled member naming position).guard.map
      Guard.condition = some (type.oldValueTest identifier).condition ↔
        type.exposesComma = false) ∧
    (type.exposesComma = false →
      (type.oldValueTest identifier).compiled member naming position =
        (type.oldValueTest identifier).expected naming) := by
  have hchecked : Clause.checkedCondition member naming false (type.oldValueCondition identifier) =
      type.oldValueCondition identifier := by
    rw [checkedCondition_eq hreference, ResultReference.substitute_eq_self]
    exact type.occursIn_oldValueCondition identifier hidentifier
  have holds := type.holdsType_oldValueCondition identifier hidentifier
  apply ReferenceTest.compiled_iff position holds
  · simp [Clause.untypedHeads, oldValueTest]
  · exact not_mem_resultReference hreference hresult (by decide)
  · simp [Clause.guardsEntry, oldValueTest]
  · calc OldValue.substitute (Clause.checkedCondition member naming false
          (type.oldValueCondition identifier))
        = OldValue.substitute (type.oldValueCondition identifier) := by rw [hchecked]
      _ = identifier ++ "_old" ++ " != null" :=
        type.substitute_oldValueCondition identifier hidentifier
  · calc OldValue.snapshots (Clause.checkedCondition member naming false
          (type.oldValueCondition identifier))
        = OldValue.snapshots (type.oldValueCondition identifier) := by rw [hchecked]
      _ = [⟨identifier, identifier ++ "_old"⟩] :=
        type.snapshots_oldValueCondition identifier hidentifier
  · exact mem_comparison _

end Compilation

/-- In a method or getter that returns a value, a test of the result in a postcondition or in a
precondition, and a test of an old value, become guards after the call with the reference replaced,
exactly when the type of the reference exposes no comma. -/
theorem compiled_referenceTests_iff (member : Member) (naming : NamingScheme) (position : Nat)
    {returned : String}
    (hshape : member.shape = .method (.value returned) ∨ member.shape = .getter returned)
    (hresult : ∀ c ∈ naming.resultVariable.toList, Text.isWordChar c = true)
    (hidentifier : IsIdentifier identifier.toList) :
    ∀ test ∈ [type.resultTest naming "Contract.Ensures" .postcondition,
        type.resultTest naming "Contract.Requires" .untypedPrecondition,
        type.oldValueTest identifier],
      ((test.compiled member naming position).guard.map Guard.condition = some test.condition ↔
        type.exposesComma = false) ∧
      (type.exposesComma = false →
        test.compiled member naming position = test.expected naming) := by
  have hreference := Member.resultReference_of_returns naming hshape
  have hensures : ("Contract.Ensures", ClauseForm.postcondition) ∈ Clause.untypedHeads := by
    simp [Clause.untypedHeads]
  have hrequires : ("Contract.Requires", ClauseForm.untypedPrecondition) ∈ Clause.untypedHeads := by
    simp [Clause.untypedHeads]
  simp only [List.forall_mem_cons]
  exact ⟨type.compiled_resultTest_iff position hreference hresult hensures,
    type.compiled_resultTest_iff position hreference hresult hrequires,
    type.compiled_oldValueTest_iff identifier position hreference hresult hidentifier,
    List.forall_mem_nil _⟩

/-- The result of a getter is a dictionary, and then a tuple with a dictionary in it. -/
theorem compiled_referenceTests_dictionary :
    let string : TypeExpr := .named (.ofWord "string".toList (by decide) (by decide))
    let int : TypeExpr := .named (.ofWord "int".toList (by decide) (by decide))
    let dictionary : TypeExpr :=
      .generic (.ofWord "Dictionary".toList (by decide) (by decide)) (.cons string (.last int))
    let tuple : TypeExpr := .nullable (.tuple dictionary (.last (.array int 1)))
    let member : Member := { name := "Index", shape := .getter "object" }
    (dictionary.spelled = "Dictionary<string, int>" ∧
      ((dictionary.resultTest {} "Contract.Ensures" .postcondition).compiled member {} 0).guard.map
        Guard.condition ≠
          some (dictionary.resultTest {} "Contract.Ensures" .postcondition).condition) ∧
    (tuple.spelled = "(Dictionary<string, int>, int[,])?" ∧
      (tuple.oldValueTest "size").compiled member {} 0 =
        (tuple.oldValueTest "size").expected {}) := by
  intro string int dictionary tuple member
  have hresult : ∀ c ∈ ({} : NamingScheme).resultVariable.toList, Text.isWordChar c = true :=
    List.all_iff_forall_prop.mp (by decide)
  have hsize : IsIdentifier "size".toList :=
    ⟨'s', "ize".toList, rfl, by decide, List.all_iff_forall_prop.mp (by decide)⟩
  have hdictionary := (dictionary.compiled_referenceTests_iff "size" member {} 0 (Or.inr rfl)
    hresult hsize _ List.mem_cons_self).1
  have htuple := (tuple.compiled_referenceTests_iff "size" member {} 0 (Or.inr rfl) hresult hsize
    (tuple.oldValueTest "size") (by simp)).2
  refine ⟨⟨by decide, fun hchecks ↦ ?_⟩, by decide, htuple rfl⟩
  exact absurd (hdictionary.mp hchecks) (by decide)

end TypeExpr

end GuardedProxy
