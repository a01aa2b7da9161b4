import GuardedProxy.Proofs.ArgumentSplit
import GuardedProxy.Proofs.ClauseOutcome
import GuardedProxy.Proofs.ReferenceRewrite

/-!
# Clauses that are calls

A clause without blanks around it is the head and one text in parentheses. Where the reader of
arguments passes over the text, the clause is compiled with the whole of it as its condition. Where
a comma divides the text, nothing behind that comma comes into the condition.
-/

namespace GuardedProxy

open Invocation

section Call

variable {first : Char} {letters : List Char} (inside : List Char) (position : Nat)
  (hfirst : Text.isBlank first = false)
include hfirst

theorem Text.trim_call : Text.trim (first :: letters ++ '(' :: inside ++ [')']) =
    first :: letters ++ '(' :: inside ++ [')'] := by
  rw [List.cons_append]
  exact Text.trim_eq_self hfirst (by decide)

/-- The text of a call is what was written, as it ends in a parenthesis. -/
theorem Clause.text_of_call :
    (Clause.mk (String.ofList (first :: letters ++ '(' :: inside ++ [')'])) position).text =
      String.ofList (first :: letters ++ '(' :: inside ++ [')']) := by
  have hsemicolon : ¬(first :: letters ++ '(' :: inside ++ [')']).getLast? = some ';' := by
    rw [List.getLast?_concat]
    decide
  rw [Clause.text, String.toList_ofList, Text.trim_call inside hfirst]
  exact if_neg hsemicolon

/-- A call without blanks around it and without a semicolon is read as it stands. -/
theorem Clause.invocation_of_call
    (hhead : ∀ c ∈ first :: letters, Invocation.isHeadChar c = true) :
    (Clause.mk (String.ofList (first :: letters ++ '(' :: inside ++ [')'])) position).invocation =
      (Invocation.readArguments (inside ++ [')'])).bind fun (arguments, rest) ↦
        if rest.all Text.isBlank then some ⟨String.ofList (first :: letters), none, arguments⟩
        else none := by
  have hopen : Invocation.isHeadChar '(' = false := by decide
  have htake : (first :: letters ++ '(' :: inside ++ [')']).takeWhile Invocation.isHeadChar =
      first :: letters := by
    rw [List.append_assoc, List.takeWhile_append_of_pos hhead]
    simp [hopen]
  have hdrop : (first :: letters ++ '(' :: inside ++ [')']).dropWhile Invocation.isHeadChar =
      '(' :: (inside ++ [')']) := by
    rw [List.append_assoc, List.dropWhile_append_of_pos hhead]
    simp [hopen]
  have htrimStart : Text.trimStart ('(' :: (inside ++ [')'])) = '(' :: (inside ++ [')']) := by
    rw [Text.trimStart, List.dropWhile_cons_of_neg (by decide)]
  have htype : Invocation.readTypeArgument ('(' :: (inside ++ [')'])) =
      some (none, '(' :: (inside ++ [')'])) := rfl
  rw [Clause.invocation, Clause.text_of_call inside position hfirst]
  simp only [Invocation.parse, String.toList_ofList, Text.trim_call inside hfirst, htake, hdrop,
    List.isEmpty_cons, Bool.false_eq_true, if_false, htype, Option.bind_eq_bind, Option.bind_some,
    htrimStart]

end Call

namespace Clause

/-- The clause that passes a text to a head. -/
def call (head inside : String) (position : Nat) : Clause :=
  ⟨head ++ "(" ++ inside ++ ")", position⟩

/-- The forms that need no type argument, with their heads. -/
def untypedHeads : List (String × ClauseForm) :=
  [("Contract.Requires", .untypedPrecondition), ("Contract.Ensures", .postcondition)]

variable {head inside : String} {form : ClauseForm} {position : Nat}

theorem call_eq (head inside : String) (position : Nat) : call head inside position =
    ⟨String.ofList (head.toList ++ '(' :: inside.toList ++ [')']), position⟩ := by
  rw [call, Clause.mk.injEq]
  refine ⟨String.toList_inj.mp ?_, rfl⟩
  simp

theorem mem_untypedHeads_iff : (head, form) ∈ untypedHeads ↔
    (head = "Contract.Requires" ∧ form = .untypedPrecondition) ∨
      (head = "Contract.Ensures" ∧ form = .postcondition) := by
  simp [untypedHeads]

theorem text_call (hhead : (head, form) ∈ untypedHeads) : (call head inside position).text =
    String.ofList (head.toList ++ '(' :: inside.toList ++ [')']) := by
  rw [call_eq]
  rcases mem_untypedHeads_iff.mp hhead with ⟨rfl, -⟩ | ⟨rfl, -⟩
  · exact text_of_call inside.toList position (by decide)
  · exact text_of_call inside.toList position (by decide)

/-- A call is an invocation with its head if its arguments can be read to the end. -/
theorem invocation_call (hhead : (head, form) ∈ untypedHeads) :
    (call head inside position).invocation =
      (readArguments (inside.toList ++ [')'])).bind fun (arguments, rest) ↦
        if rest.all Text.isBlank then some ⟨head, none, arguments⟩ else none := by
  rw [call_eq]
  rcases mem_untypedHeads_iff.mp hhead with ⟨rfl, -⟩ | ⟨rfl, -⟩
  · exact invocation_of_call inside.toList position (by decide)
      (List.all_iff_forall_prop.mp (by decide))
  · exact invocation_of_call inside.toList position (by decide)
      (List.all_iff_forall_prop.mp (by decide))

theorem form_call (hhead : (head, form) ∈ untypedHeads) :
    (call head inside position).form = form := by
  rw [Clause.form, text_call hhead]
  simp only [ClauseForm.ranked, ClauseForm.accepts, ClauseForm.opening, String.toList_ofList]
  rcases mem_untypedHeads_iff.mp hhead with ⟨rfl, rfl⟩ | ⟨rfl, rfl⟩
  · rfl
  · rfl

/-- Without a type argument, the exception is the default one. -/
theorem exceptionType_call (naming : NamingScheme) (invocation : Invocation)
    (hhead : (head, form) ∈ untypedHeads) :
    exceptionType naming form invocation = some naming.defaultException := by
  rcases mem_untypedHeads_iff.mp hhead with ⟨-, rfl⟩ | ⟨-, rfl⟩
  · rfl
  · rfl

/-- A condition that the reader of arguments passes over is compiled as it stands. -/
theorem value_compile_call (member : Member) (naming : NamingScheme) (position : Nat)
    (hhead : (head, form) ∈ untypedHeads) (hpasses : PassesOver 0 inside.toList)
    (hargument : argument? inside.toList.reverse = some inside) :
    ((call head inside position).compile member naming).value =
      let isPrecondition := guardsEntry form inside
      let checked := checkedCondition member naming isPrecondition inside
      ⟨form, some ⟨OldValue.substitute checked, naming.defaultException,
          failureMessage (messageLabel form) inside⟩,
        isPrecondition, OldValue.snapshots checked⟩ := by
  have hinvocation : (call head inside position).invocation = some ⟨head, none, [inside]⟩ := by
    rw [invocation_call hhead, readArguments_of_passesOver hpasses hargument]
    rfl
  have hcompiled : (call head inside position).compileGuard member naming form = some _ :=
    compileGuard_eq_some_iff.mpr ⟨⟨⟨head, none, [inside]⟩, inside, naming.defaultException,
      hinvocation, Nat.le_succ 1, rfl, exceptionType_call naming _ hhead, rfl⟩⟩
  rw [value_compile, form_call hhead, hcompiled]
  rfl

/-- Putting the result in brings no characters in but those of what stands for the result. -/
theorem mem_checkedCondition {member : Member} {naming : NamingScheme} {isPrecondition : Bool}
    {condition : String} {c : Char}
    (hc : c ∈ (checkedCondition member naming isPrecondition condition).toList) :
    c ∈ condition.toList ∨
      ∃ reference, member.resultReference naming = some reference ∧ c ∈ reference.toList := by
  unfold checkedCondition at hc
  split at hc
  · exact Or.inl hc
  · split at hc
    · rename_i reference hreference
      exact (ResultReference.mem_substitute hc).imp_right fun hmem ↦ ⟨reference, hreference, hmem⟩
    · exact Or.inl hc

/-- Of a text that is divided, only what stands before the comma comes into the condition. -/
theorem mem_of_mem_condition_call {member : Member} {naming : NamingScheme}
    {front back : List Char} {guard : Guard} {c : Char}
    (hhead : (head, form) ∈ untypedHeads) (hinside : inside.toList = front ++ ',' :: back)
    (hfront : PassesOver 0 front)
    (hguard : ((call head inside position).compile member naming).value.guard = some guard)
    (hc : c ∈ guard.condition.toList) :
    c ∈ front ∨ c ∈ Snapshot.suffix.toList ∨
      ∃ reference, member.resultReference naming = some reference ∧ c ∈ reference.toList := by
  rcases (call head inside position).value_compile_cases member naming with
    hdropped | ⟨compiled, hvalue, ⟨source⟩⟩
  · rw [hdropped] at hguard
    exact absurd hguard (by simp [CompiledClause.dropped])
  · obtain ⟨invocation, condition, exceptionType, hinvocation, -, hcondition, -, rfl⟩ := source
    rw [hvalue] at hguard
    obtain rfl := Option.some.inj hguard
    rw [invocation_call hhead, hinside, List.append_assoc, List.cons_append] at hinvocation
    obtain ⟨⟨arguments, rest⟩, hread, hinvocation⟩ := Option.bind_eq_some_iff.mp hinvocation
    obtain ⟨first, hfirst, hzero⟩ := condition_of_readArguments hfront hread
    have harguments : invocation.arguments = arguments := by
      dsimp only at hinvocation
      split at hinvocation
      · rw [← Option.some.inj hinvocation]
      · exact absurd hinvocation (by simp)
    rw [Invocation.condition, harguments, hzero] at hcondition
    obtain rfl := Option.some.inj hcondition
    rcases OldValue.mem_substitute hc with hc | hc
    · rcases mem_checkedCondition hc with hc | hc
      · exact Or.inl (mem_of_argument?_reverse hfirst hc)
      · exact Or.inr (Or.inr hc)
    · exact Or.inr (Or.inl hc)

end Clause

end GuardedProxy
