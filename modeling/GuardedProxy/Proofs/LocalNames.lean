import GuardedProxy.Description.Fault
import GuardedProxy.Proofs.BodyAccess
import GuardedProxy.Proofs.SnapshotOrder

/-!
# The variables that a body declares

A body declares one variable for each snapshot and one for the result, if there is one. The names of
the first kind end in `_old` and differ from each other, and with the usual naming the second kind is
called `result`, so that no two of the variables share a name. The parameters of the method are not
looked at when the names are made. A parameter therefore shares its name with a variable exactly when
it is called `result` itself, or like the snapshot of some identifier.
-/

namespace GuardedProxy

/-- The variable that a statement declares. -/
def Statement.declared? : Statement → Option String
  | keep snapshot => some snapshot.variableName
  | check _ => none
  | call _ result => result
  | giveBack _ => none

/-- The variable of the result has the name that the scheme gives it, if there is a value to hand
back. -/
theorem Member.mem_resultVariable_iff {member : Member} {naming : NamingScheme} {name : String} :
    name ∈ member.resultVariable naming ↔
      member.returnsValue = true ∧ name = naming.resultVariable := by
  rw [resultVariable_eq]
  cases member.returnsValue <;> simp [eq_comm]

namespace MemberBody

/-- The variables that the body declares, in order. -/
def localNames (body : MemberBody) : List String := body.statements.filterMap Statement.declared?

/-- A body declares the variables of its snapshots and that of its result. -/
theorem localNames_layout (snapshots : List Snapshot) (preconditions postconditions : List Guard)
    (expression : String) (result : Option String) :
    (MemberBody.mk (layout snapshots preconditions expression result postconditions)).localNames =
      snapshots.map Snapshot.variableName ++ result.toList := by
  have hkeep : (snapshots.map Statement.keep).filterMap Statement.declared? =
      snapshots.map Snapshot.variableName := by
    simp [List.filterMap_map, Function.comp_def, Statement.declared?]
  have hcheck (guards : List Guard) :
      (guards.map Statement.check).filterMap Statement.declared? = [] := by
    simp [List.filterMap_map, Function.comp_def, Statement.declared?]
  rw [localNames, layout, List.filterMap_append, List.filterMap_append, hkeep, hcheck,
    List.nil_append, List.filterMap_cons, List.filterMap_append, hcheck, List.nil_append]
  cases result with
  | none => rfl
  | some name => rfl

section Snapshots

variable {member : Member} {naming : NamingScheme} {clauses : List Clause}

theorem nodup_variableName_orderedSnapshots :
    ((firstOfEach [] (orderedSnapshots member naming clauses)).map Snapshot.variableName).Nodup := by
  obtain ⟨occurrences, -, -, hsnapshots⟩ := Occurrence.exists_ordered member naming clauses
  rw [hsnapshots]
  apply nodup_variableName_of_nodup (nodup_firstOfEach _ _)
  intro snapshot hmem
  exact variableName_of_mem_firstOfEach hmem

/-- A variable is declared for each identifier whose old value a clause refers to. -/
theorem mem_variableName_orderedSnapshots_iff {name : String} :
    name ∈ (firstOfEach [] (orderedSnapshots member naming clauses)).map Snapshot.variableName ↔
      ∃ occurrence : Occurrence, occurrence.IsIn member naming clauses ∧
        name = occurrence.identifier ++ "_old" := by
  obtain ⟨occurrences, hmem, -, hsnapshots⟩ := Occurrence.exists_ordered member naming clauses
  have hidentifiers {identifier : String} :
      identifier ∈ (firstOfEach [] (orderedSnapshots member naming clauses)).map
        Snapshot.identifier ↔ ∃ occurrence ∈ occurrences, occurrence.identifier = identifier := by
    rw [mem_firstOfEach_iff, hsnapshots, List.map_map, List.mem_map]
    simp only [List.not_mem_nil, not_false_eq_true, and_true]
    rfl
  have hvariable {snapshot : Snapshot}
      (hsnapshot : snapshot ∈ firstOfEach [] (orderedSnapshots member naming clauses)) :
      snapshot.variableName = snapshot.identifier ++ "_old" := by
    rw [hsnapshots] at hsnapshot
    exact variableName_of_mem_firstOfEach hsnapshot
  rw [List.mem_map]
  constructor
  · rintro ⟨snapshot, hsnapshot, rfl⟩
    obtain ⟨occurrence, hoccurrence, hidentifier⟩ :=
      hidentifiers.mp (List.mem_map_of_mem hsnapshot)
    exact ⟨occurrence, (hmem occurrence).mp hoccurrence, by rw [hvariable hsnapshot, hidentifier]⟩
  · rintro ⟨occurrence, hoccurrence, rfl⟩
    obtain ⟨snapshot, hsnapshot, hidentifier⟩ :=
      List.mem_map.mp (hidentifiers.mpr ⟨occurrence, (hmem occurrence).mpr hoccurrence, rfl⟩)
    exact ⟨snapshot, hsnapshot, by rw [hvariable hsnapshot, hidentifier]⟩

end Snapshots

theorem append_old_ne_result (identifier : String) : identifier ++ "_old" ≠ "result" := by
  intro heq
  have hlast : (identifier.toList ++ "_old".toList).getLast? = some 't' := by
    rw [← String.toList_append, heq]
    rfl
  have hold : "_old".toList.getLast? = some 'd' := rfl
  rw [List.getLast?_append, hold, Option.some_or] at hlast
  exact absurd hlast (by decide)

/-- With the usual naming, the variables of the body of a method have names of their own. Only a
parameter called `result`, in a method that returns a value, or called like the variable of a
snapshot has the name of one. -/
theorem nodup_localNames_and_clash_iff (method : MethodDescription) (clauses : List Clause) :
    ∃ body, (assemble (method.member {}) {} clauses).value = .ok body ∧
      body.localNames.Nodup ∧
      ∀ parameter ∈ method.parameters, parameter.name ∈ body.localNames ↔
        ((method.member {}).returnsValue = true ∧ parameter.name = "result") ∨
          ∃ occurrence : Occurrence, occurrence.IsIn (method.member {}) {} clauses ∧
            parameter.name = occurrence.identifier ++ "_old" := by
  have hblank : Text.blankText "_contract" = false := by decide
  have htarget : (method.member {}).target = some (Text.trimmed "_contract") :=
    Member.target_of_delegate rfl hblank
  refine ⟨_, value_assemble {} clauses htarget, ?_, ?_⟩
  · rw [localNames_layout, List.nodup_append]
    refine ⟨nodup_variableName_orderedSnapshots, ?_, ?_⟩
    · cases (method.member {}).resultVariable {} with
      | none => exact .nil
      | some name => exact List.pairwise_singleton _ name
    · rintro _ hsnapshot _ hresult rfl
      obtain ⟨occurrence, -, hname⟩ := mem_variableName_orderedSnapshots_iff.mp hsnapshot
      obtain ⟨-, hresult⟩ := Member.mem_resultVariable_iff.mp (Option.mem_toList.mp hresult)
      exact append_old_ne_result occurrence.identifier (hname.symm.trans hresult)
  · intro parameter _
    rw [localNames_layout, List.mem_append, mem_variableName_orderedSnapshots_iff,
      Option.mem_toList, ← Option.mem_def, Member.mem_resultVariable_iff, or_comm]

/-- A method that returns a value and has a parameter called `result`: no fault is found in it. -/
theorem localNames_find_clash :
    let method : MethodDescription := ⟨"Find", "int", [⟨"result", "int"⟩], []⟩
    Description.memberFault "IStore" (.method method) = none ∧
      (method.parameters.map Parameter.name).Nodup ∧
      ∃ body, (assemble (method.member {}) {} []).value = .ok body ∧
        "result" ∈ body.localNames ∧ "result" ∈ method.parameters.map Parameter.name := by
  refine ⟨by decide, by decide, _, rfl, ?_, ?_⟩
  · decide
  · decide

end MemberBody

end GuardedProxy
