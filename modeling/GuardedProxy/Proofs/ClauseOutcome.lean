import GuardedProxy.CompiledClause

/-!
# The outcome of compiling a clause

A clause is either dropped, and then it contributes nothing, or it becomes a guard. In the second
case the text of its condition decides everything else: the side of the call that the guard stands
on, the condition that it checks and the snapshots that it needs.
-/

namespace GuardedProxy

/-- In a method or getter that returns a value, the variable for the result stands for it. -/
theorem Member.resultReference_of_returns {member : Member} {type : String} (naming : NamingScheme)
    (hshape : member.shape = .method (.value type) ∨ member.shape = .getter type) :
    member.resultReference naming = some naming.resultVariable := by
  rcases hshape with hshape | hshape <;>
    simp [resultReference, resultVariable, hshape, MemberShape.returnType, ReturnType.isVoid]

namespace Clause

variable {member : Member} {naming : NamingScheme} {form : ClauseForm} {clause : Clause}
  {compiled : CompiledClause}

/-- What a compiled clause was made from. -/
structure Source (member : Member) (naming : NamingScheme) (form : ClauseForm) (clause : Clause)
    (compiled : CompiledClause) where
  invocation : Invocation
  condition : String
  exceptionType : String
  invocation_eq : clause.invocation = some invocation
  arguments_le : invocation.arguments.length ≤ 2
  condition_eq : invocation.condition = some condition
  exceptionType_eq : Clause.exceptionType naming form invocation = some exceptionType
  compiled_eq : compiled =
    let isPrecondition := guardsEntry form condition
    let checked := checkedCondition member naming isPrecondition condition
    ⟨form, some ⟨OldValue.substitute checked, exceptionType,
        invocation.message.getD (failureMessage (messageLabel form) condition)⟩,
      isPrecondition, OldValue.snapshots checked⟩

/-- Compiling gives a guard exactly from an invocation, a condition and an exception. -/
theorem compileGuard_eq_some_iff :
    clause.compileGuard member naming form = some compiled ↔
      Nonempty (Source member naming form clause compiled) := by
  constructor
  · intro h
    simp only [compileGuard, Option.bind_eq_bind, Option.bind_eq_some_iff] at h
    obtain ⟨invocation, hinvocation, h⟩ := h
    split at h
    · simp at h
    · rename_i htoo
      obtain ⟨condition, hcondition, h⟩ := Option.bind_eq_some_iff.mp h
      obtain ⟨exceptionType, hexception, h⟩ := Option.bind_eq_some_iff.mp h
      exact ⟨⟨invocation, condition, exceptionType, hinvocation, Nat.le_of_not_lt htoo, hcondition,
        hexception, (Option.some.inj h).symm⟩⟩
  · rintro ⟨source⟩
    have htoo : ¬2 < source.invocation.arguments.length := Nat.not_lt_of_le source.arguments_le
    rw [source.compiled_eq]
    simp [compileGuard, source.invocation_eq, htoo, source.condition_eq, source.exceptionType_eq]

/-- A clause of no known form is never compiled. -/
theorem compileGuard_unrecognized (member : Member) (naming : NamingScheme) (clause : Clause) :
    clause.compileGuard member naming .unrecognized = none := by
  rw [Option.eq_none_iff_forall_not_mem]
  intro compiled hcompiled
  obtain ⟨source⟩ := compileGuard_eq_some_iff.mp hcompiled
  exact Option.some_ne_none _ source.exceptionType_eq.symm

/-- The value of a compilation, without its events: a clause that yields no guard is dropped. -/
theorem value_compile (member : Member) (naming : NamingScheme) (clause : Clause) :
    (clause.compile member naming).value =
      (clause.compileGuard member naming clause.form).getD (.dropped clause.form) := by
  unfold compile compileAs
  split
  · rename_i hform
    rw [hform, compileGuard_unrecognized]
    rfl
  · cases clause.compileGuard member naming clause.form with
    | none => rfl
    | some compiled => rfl

/-- A clause is dropped, or its outcome has a source. -/
theorem value_compile_cases (member : Member) (naming : NamingScheme) (clause : Clause) :
    (clause.compile member naming).value = .dropped clause.form ∨
      ∃ compiled, (clause.compile member naming).value = compiled ∧
        Nonempty (Source member naming clause.form clause compiled) := by
  rw [value_compile]
  cases hcompiled : clause.compileGuard member naming clause.form with
  | none => exact Or.inl rfl
  | some compiled => exact Or.inr ⟨compiled, rfl, compileGuard_eq_some_iff.mp hcompiled⟩

end Clause

end GuardedProxy
