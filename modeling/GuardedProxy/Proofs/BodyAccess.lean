import GuardedProxy.Proofs.BodyLayout

/-!
# Reading the parts of a body back

A body is one list of statements, and only the place of its call tells the guards that stand before
the call from those behind it. In the body of a member, the parts that are read back from this list
are those that were put into it. No clause with a guard is lost, doubled or moved across the call,
and nothing but the parts stands in the list.
-/

namespace GuardedProxy

/-- A body ends in a return exactly when the member hands a value back. -/
theorem Member.toList_giveBack (member : Member) (naming : NamingScheme) :
    ((member.resultVariable naming).map Statement.giveBack).toList =
      if member.returnsValue then [.giveBack naming.resultVariable] else [] := by
  rw [resultVariable_eq]
  cases member.returnsValue <;> rfl

namespace MemberBody

section Layout

variable (snapshots : List Snapshot) (preconditions postconditions : List Guard)
  (expression : String) (result : Option String)

/-- What stands before the call. -/
def beforeCall : List Statement := snapshots.map .keep ++ preconditions.map .check

/-- What stands behind the call. -/
def afterCall : List Statement := postconditions.map .check ++ (result.map .giveBack).toList

theorem layout_eq : layout snapshots preconditions expression result postconditions =
    beforeCall snapshots preconditions ++
      .call expression result :: afterCall postconditions result := by
  rw [layout, beforeCall, afterCall, List.append_assoc]

theorem length_beforeCall :
    (beforeCall snapshots preconditions).length = snapshots.length + preconditions.length := by
  rw [beforeCall, List.length_append, List.length_map, List.length_map]

theorem isCall_of_mem_beforeCall {statement : Statement}
    (hmem : statement ∈ beforeCall snapshots preconditions) : statement.isCall = false := by
  rw [beforeCall, List.mem_append, List.mem_map, List.mem_map] at hmem
  rcases hmem with ⟨snapshot, -, rfl⟩ | ⟨guard, -, rfl⟩
  · rfl
  · rfl

theorem isCall_of_mem_afterCall {statement : Statement}
    (hmem : statement ∈ afterCall postconditions result) : statement.isCall = false := by
  rw [afterCall, List.mem_append, List.mem_map, Option.mem_toList, Option.map_eq_some_iff] at hmem
  rcases hmem with ⟨guard, -, rfl⟩ | ⟨name, -, rfl⟩
  · rfl
  · rfl

theorem filterMap_guard?_check (guards : List Guard) :
    (guards.map Statement.check).filterMap Statement.guard? = guards := by
  simp [List.filterMap_map, Function.comp_def, Statement.guard?]

theorem filterMap_guard?_beforeCall :
    (beforeCall snapshots preconditions).filterMap Statement.guard? = preconditions := by
  have hkeep : (snapshots.map Statement.keep).filterMap Statement.guard? = [] := by
    simp [List.filterMap_map, Function.comp_def, Statement.guard?]
  rw [beforeCall, List.filterMap_append, hkeep, filterMap_guard?_check, List.nil_append]

theorem filterMap_guard?_afterCall :
    (afterCall postconditions result).filterMap Statement.guard? = postconditions := by
  have hreturn : ((result.map Statement.giveBack).toList).filterMap Statement.guard? = [] := by
    cases result with
    | none => rfl
    | some name => rfl
  rw [afterCall, List.filterMap_append, hreturn, filterMap_guard?_check, List.append_nil]

theorem countP_isCall_layout :
    (layout snapshots preconditions expression result postconditions).countP Statement.isCall =
      1 := by
  have hbefore : (beforeCall snapshots preconditions).countP Statement.isCall = 0 := by
    rw [List.countP_eq_zero]
    intro statement hmem
    rw [isCall_of_mem_beforeCall snapshots preconditions hmem]
    exact Bool.false_ne_true
  have hafter : (afterCall postconditions result).countP Statement.isCall = 0 := by
    rw [List.countP_eq_zero]
    intro statement hmem
    rw [isCall_of_mem_afterCall postconditions result hmem]
    exact Bool.false_ne_true
  rw [layout_eq, List.countP_append, List.countP_cons_of_pos rfl, hbefore, hafter]

/-- The first call is the one behind the snapshots and the preconditions. -/
theorem callIndex_layout :
    (MemberBody.mk (layout snapshots preconditions expression result postconditions)).callIndex =
      (beforeCall snapshots preconditions).length := by
  have hnone : (beforeCall snapshots preconditions).findIdx? Statement.isCall = none := by
    rw [List.findIdx?_eq_none_iff]
    intro statement hmem
    exact isCall_of_mem_beforeCall snapshots preconditions hmem
  have hcall : (Statement.call expression result).isCall = true := rfl
  rw [callIndex, layout_eq, List.findIdx?_append, hnone, Option.none_or, List.findIdx?_cons,
    if_pos hcall, Option.map_some, Option.getD_some, Nat.zero_add]

/-- The guards that are read back before the call are those that were put there. -/
theorem preconditions_layout :
    (MemberBody.mk (layout snapshots preconditions expression result postconditions)).preconditions =
      preconditions := by
  rw [MemberBody.preconditions, callIndex_layout, layout_eq, List.take_left,
    filterMap_guard?_beforeCall]

/-- The guards that are read back behind the call are those that were put there. -/
theorem postconditions_layout :
    (MemberBody.mk
      (layout snapshots preconditions expression result postconditions)).postconditions =
        postconditions := by
  rw [MemberBody.postconditions, callIndex_layout, layout_eq, List.drop_left,
    List.filterMap_cons_none rfl, filterMap_guard?_afterCall]

theorem getElem?_callIndex_layout :
    (layout snapshots preconditions expression result postconditions)[
      (beforeCall snapshots preconditions).length]? = some (.call expression result) := by
  rw [layout_eq, List.getElem?_append_right (Nat.le_refl _), Nat.sub_self]
  rfl

end Layout

/-- The body has the guards of the clauses, each on its side of the call, in the order of the clauses,
and the parts make up the whole of it. -/
structure HoldsClauses (member : Member) (naming : NamingScheme) (clauses : List Clause)
    (call : Statement) (body : MemberBody) : Prop where
  countP_isCall : body.statements.countP Statement.isCall = 1
  getElem?_callIndex : body.statements[body.callIndex]? = some call
  callIndex_eq : body.callIndex = body.snapshots.length + body.preconditions.length
  /-- The clauses, each one once with its place in the list, ordered by position and then by place,
  give the guards of both sides. -/
  guards : ∃ numbered : List (Clause × Nat),
    numbered.Perm clauses.zipIdx ∧ numbered.Pairwise Clause.Precedes ∧
      body.preconditions = numbered.filterMap (fun clause ↦ clause.1.guardOn member naming true) ∧
      body.postconditions = numbered.filterMap (fun clause ↦ clause.1.guardOn member naming false)
  statements_eq : body.statements = body.snapshots.map .keep ++ body.preconditions.map .check ++
    [call] ++ body.postconditions.map .check ++
      if member.returnsValue then [.giveBack naming.resultVariable] else []

/-- Whatever the clauses of a member with a delegate are, its body holds each of their guards once
and in its place. -/
theorem holdsClauses_assemble (member : Member) (naming : NamingScheme) (clauses : List Clause)
    {delegate : String} (hdelegate : member.delegate = some delegate)
    (hblank : Text.blankText delegate = false) :
    ∃ body, (assemble member naming clauses).value = .ok body ∧
      HoldsClauses member naming clauses
        (.call (member.delegatedCall (Text.trimmed delegate)) (member.resultVariable naming))
        body := by
  have htarget := Member.target_of_delegate hdelegate hblank
  obtain ⟨numbered, hmap, hperm, hsorted⟩ := exists_numbered_inOrder clauses 0
  have hguards (isPrecondition : Bool) : orderedGuards member naming clauses isPrecondition =
      numbered.filterMap fun clause ↦ clause.1.guardOn member naming isPrecondition := by
    rw [orderedGuards, ← hmap, List.filterMap_map]
    rfl
  refine ⟨_, value_assemble naming clauses htarget, ?_⟩
  constructor
  · exact countP_isCall_layout _ _ _ _ _
  · rw [callIndex_layout]
    exact getElem?_callIndex_layout _ _ _ _ _
  · rw [callIndex_layout, snapshots_layout, preconditions_layout, length_beforeCall]
  · refine ⟨numbered, hperm, hsorted, ?_, ?_⟩
    · rw [preconditions_layout, hguards]
    · rw [postconditions_layout, hguards]
  · rw [snapshots_layout, preconditions_layout, postconditions_layout, ← Member.toList_giveBack,
      layout]
    simp only [List.append_assoc, List.cons_append, List.nil_append]

/-- Clauses of both sides at one position and against their order in the list, with one that is
dropped. -/
theorem holdsClauses_assemble_resize :
    let member : Member :=
      { name := "Resize", shape := .method (.value "int"), parameters := [⟨"size", "int"⟩],
        delegate := some "_contract" }
    let clauses : List Clause :=
      [⟨"Contract.Ensures(Contract.Result<int>() > Contract.OldValue(size))", 4⟩,
        ⟨"Contract.Invariant(size > 0)", 0⟩, ⟨"Contract.Requires(size > 0)", 4⟩,
        ⟨"Contract.Requires<ArgumentException>(size < 9)", 2⟩]
    Text.blankText "_contract" = false ∧
      ∃ body, (assemble member {} clauses).value = .ok body ∧
        HoldsClauses member {} clauses
          (.call (member.delegatedCall (Text.trimmed "_contract")) (member.resultVariable {}))
          body := by
  intro member clauses
  have hblank : Text.blankText "_contract" = false := by decide
  exact ⟨hblank, holdsClauses_assemble member {} clauses rfl hblank⟩

end MemberBody

end GuardedProxy
