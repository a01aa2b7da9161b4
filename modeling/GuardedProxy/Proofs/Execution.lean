import GuardedProxy.Proofs.BodyLayout
import GuardedProxy.Proofs.Lists

/-!
# Running a body

A body runs in a state made of the variables that it has declared and of everything else, its world.
What a name outside the body means, when a condition holds and what the delegate does are left open:
they are the setting of the run. The delegate may answer anything and may change the world in any
way, but it cannot reach the variables of the body. A run leaves the record of the guards tested and
of the calls made, each with the state it took place in, and the way it ended.

A body that was assembled for a member calls the delegate at most once, and only when every
precondition holds. A failed guard ends the run with the exception of the first failed clause of its
side of the call.
-/

namespace GuardedProxy.Execution

structure State (World Value : Type) where
  world : World
  bindings : List (String × Value)

/-- What a body leaves open. -/
structure Setting (World Value : Type) where
  lookup : World → String → Value
  holds : State World Value → String → Bool
  answer : State World Value → String → Value × World

inductive Action (World Value : Type)
  | tested (guard : Guard) (state : State World Value)
  | called (expression : String) (state : State World Value)

inductive Ending (Value : Type)
  | threw (exceptionType message : String)
  | returned (value : Value)
  | finished

/-- How a run went. -/
structure Run (World Value : Type) where
  actions : List (Action World Value)
  ending : Ending Value

variable {World Value : Type}

namespace State

def declare (state : State World Value) (name : String) (value : Value) : State World Value :=
  { state with bindings := (name, value) :: state.bindings }

/-- The variable of the body, if there is one of the name, and else what the world has. -/
def read (setting : Setting World Value) (state : State World Value) (name : String) : Value :=
  (state.bindings.lookup name).getD (setting.lookup state.world name)

def keep (setting : Setting World Value) (state : State World Value) (snapshot : Snapshot) :
    State World Value :=
  state.declare snapshot.variableName (state.read setting snapshot.identifier)

/-- The state after the delegate has answered. Only the result is new among the variables. -/
def afterCall (setting : Setting World Value) (state : State World Value) (expression : String)
    (result : Option String) : State World Value :=
  let (value, world) := setting.answer state expression
  ⟨world, (result.map fun name ↦ (name, value)).toList ++ state.bindings⟩

end State

/-- Runs the statements in order until one of them ends the run. -/
def run (setting : Setting World Value) (state : State World Value) :
    List Statement → Run World Value
  | [] => ⟨[], .finished⟩
  | .keep snapshot :: rest => run setting (state.keep setting snapshot) rest
  | .check guard :: rest =>
    if setting.holds state guard.condition then
      let later := run setting state rest
      ⟨.tested guard state :: later.actions, later.ending⟩
    else
      ⟨[.tested guard state], .threw guard.exceptionType guard.message⟩
  | .call expression result :: rest =>
    let later := run setting (state.afterCall setting expression result) rest
    ⟨.called expression state :: later.actions, later.ending⟩
  | .giveBack name :: _ => ⟨[], .returned (state.read setting name)⟩

/-- The calls of the delegate among the actions, with the states they were made in. -/
def calls (actions : List (Action World Value)) : List (String × State World Value) :=
  actions.filterMap fun
    | .tested .. => none
    | .called expression state => some (expression, state)

/-- The guards tested before the first call, with the states they were tested in. -/
def testsBeforeCall : List (Action World Value) → List (Guard × State World Value)
  | [] => []
  | .tested guard state :: rest => (guard, state) :: testsBeforeCall rest
  | .called .. :: _ => []

/-- The guards tested after the first call, with the states they were tested in. -/
def testsAfterCall : List (Action World Value) → List (Guard × State World Value)
  | [] => []
  | .tested .. :: rest => testsAfterCall rest
  | .called .. :: rest => testsBeforeCall rest

/-- Whether the guard ends a run that tests it in the state. -/
def fails (setting : Setting World Value) (state : State World Value) (guard : Guard) : Bool :=
  !setting.holds state guard.condition

/-- Snapshots are taken in order, and no run ends among them. -/
theorem run_keep_append (setting : Setting World Value) (state : State World Value)
    (snapshots : List Snapshot) (rest : List Statement) :
    run setting state (snapshots.map .keep ++ rest) =
      run setting (snapshots.foldl (State.keep setting) state) rest := by
  induction snapshots generalizing state with
  | nil => rfl
  | cons snapshot snapshots ih => exact ih (state.keep setting snapshot)

/-- Guards that all hold leave the state as it is, and the run goes on behind them. -/
theorem run_check_append_of_find?_eq_none {setting : Setting World Value}
    {state : State World Value} {guards : List Guard} (rest : List Statement)
    (hpass : guards.find? (fails setting state) = none) :
    run setting state (guards.map .check ++ rest) =
      ⟨guards.map (.tested · state) ++ (run setting state rest).actions,
        (run setting state rest).ending⟩ := by
  induction guards with
  | nil => rfl
  | cons guard guards ih =>
    rw [List.find?_cons] at hpass
    cases hholds : setting.holds state guard.condition with
    | false => simp [fails, hholds] at hpass
    | true =>
      simp only [fails, hholds, Bool.not_true] at hpass
      simp only [List.map_cons, List.cons_append, run, hholds, if_true, ih hpass]

/-- The first guard that fails ends the run, and only the guards before it were tested. -/
theorem run_check_append_of_find?_eq_some {setting : Setting World Value}
    {state : State World Value} {guards : List Guard} {failed : Guard} (rest : List Statement)
    (hfail : guards.find? (fails setting state) = some failed) :
    ∃ before, before ++ [failed] <+: guards ∧ run setting state (guards.map .check ++ rest) =
      ⟨(before ++ [failed]).map (.tested · state),
        .threw failed.exceptionType failed.message⟩ := by
  induction guards with
  | nil => simp at hfail
  | cons guard guards ih =>
    rw [List.find?_cons] at hfail
    cases hholds : setting.holds state guard.condition with
    | false =>
      simp only [fails, hholds, Bool.not_false] at hfail
      obtain rfl := Option.some.inj hfail
      refine ⟨[], by simp, ?_⟩
      simp [run, hholds]
    | true =>
      simp only [fails, hholds, Bool.not_true] at hfail
      obtain ⟨before, hinitial, hrun⟩ := ih hfail
      refine ⟨guard :: before, (List.cons_prefix_cons).mpr ⟨rfl, hinitial⟩, ?_⟩
      simp only [List.map_cons, List.cons_append, run, hholds, if_true, hrun]

theorem calls_append (first second : List (Action World Value)) :
    calls (first ++ second) = calls first ++ calls second :=
  List.filterMap_append

@[simp] theorem calls_tested (guards : List Guard) (state : State World Value) :
    calls (guards.map (.tested · state)) = [] := by
  simp [calls, List.filterMap_map]

theorem testsBeforeCall_append (guards : List Guard) (state : State World Value)
    (rest : List (Action World Value)) :
    testsBeforeCall (guards.map (.tested · state) ++ rest) =
      guards.map (·, state) ++ testsBeforeCall rest := by
  induction guards with
  | nil => rfl
  | cons guard guards ih => rw [List.map_cons, List.cons_append, testsBeforeCall, ih]; rfl

theorem testsBeforeCall_tested (guards : List Guard) (state : State World Value) :
    testsBeforeCall (guards.map (.tested · state)) = guards.map (·, state) := by
  have happend := testsBeforeCall_append guards state []
  rwa [List.append_nil, testsBeforeCall, List.append_nil] at happend

theorem testsAfterCall_append (guards : List Guard) (state : State World Value)
    (rest : List (Action World Value)) :
    testsAfterCall (guards.map (.tested · state) ++ rest) = testsAfterCall rest := by
  induction guards with
  | nil => rfl
  | cons guard guards ih => rw [List.map_cons, List.cons_append, testsAfterCall, ih]

/-! ## The clauses of a member as demands on a run -/

section Demands

variable (setting : Setting World Value) (member : Member) (naming : NamingScheme)
  (clauses : List Clause)

/-- Every guard on the given side of the call holds in the state. -/
def AllHold (isPrecondition : Bool) (state : State World Value) : Prop :=
  ∀ clause ∈ clauses, ∀ guard, clause.guardOn member naming isPrecondition = some guard →
    setting.holds state guard.condition = true

/-- The guard fails in the state, and no clause before its own has a guard on the same side of the
call that fails there. -/
def FirstFailure (isPrecondition : Bool) (state : State World Value) (guard : Guard) : Prop :=
  ∃ clause ∈ clauses.zipIdx, clause.1.guardOn member naming isPrecondition = some guard ∧
    setting.holds state guard.condition = false ∧
    ∀ other ∈ clauses.zipIdx, ∀ otherGuard,
      other.1.guardOn member naming isPrecondition = some otherGuard →
      setting.holds state otherGuard.condition = false →
      other = clause ∨ Clause.Precedes clause other

/-- What the clauses demand of a run that calls the delegate with `expression`. The snapshots have
been taken in the state `kept`, and the delegate has answered in the state `answered`. -/
structure Obeys (expression : String) (kept answered : State World Value)
    (outcome : Run World Value) : Prop where
  /-- The delegate is called at most once. -/
  calls_length_le : (calls outcome.actions).length ≤ 1
  /-- It is called, in the state with all snapshots, exactly when every precondition holds there. -/
  called_iff : calls outcome.actions = [(expression, kept)] ↔
    AllHold setting member naming clauses true kept
  /-- A failed precondition ends the run without a call, and the first failed one tells how. -/
  precondition_failure : ¬AllHold setting member naming clauses true kept →
    calls outcome.actions = [] ∧
      ∃ guard, FirstFailure setting member naming clauses true kept guard ∧
      outcome.ending = .threw guard.exceptionType guard.message
  /-- No postcondition is tested before the call: preconditions are tested there, in order. -/
  tests_before_call : testsBeforeCall outcome.actions <+:
    (MemberBody.orderedGuards member naming clauses true).map (·, kept)
  /-- No precondition is tested after the call: postconditions are tested there, in order. -/
  tests_after_call : testsAfterCall outcome.actions <+:
    (MemberBody.orderedGuards member naming clauses false).map (·, answered)
  /-- After the call, the first failed postcondition tells how the run ends. -/
  postcondition_failure : AllHold setting member naming clauses true kept →
    ¬AllHold setting member naming clauses false answered →
      ∃ guard, FirstFailure setting member naming clauses false answered guard ∧
        outcome.ending = .threw guard.exceptionType guard.message
  /-- When every guard holds, the run hands back what the delegate answered, if the member returns a
  value. -/
  success : AllHold setting member naming clauses true kept →
    AllHold setting member naming clauses false answered →
      outcome.ending =
        if member.returnsValue then .returned (setting.answer kept expression).1 else .finished

end Demands

variable {setting : Setting World Value} {member : Member} {naming : NamingScheme}
  {clauses : List Clause} {isPrecondition : Bool} {state : State World Value}

/-- No guard of a side fails exactly when all clauses hold there. -/
theorem find?_fails_eq_none_iff :
    (MemberBody.orderedGuards member naming clauses isPrecondition).find? (fails setting state) =
        none ↔
      AllHold setting member naming clauses isPrecondition state := by
  rw [List.find?_eq_none]
  simp only [MemberBody.mem_orderedGuards_iff, fails, Bool.not_eq_true', Bool.not_eq_false]
  constructor
  · intro h clause hclause guard hguard
    exact h guard ⟨clause, hclause, hguard⟩
  · rintro h guard ⟨clause, hclause, hguard⟩
    exact h clause hclause guard hguard

/-- The first guard that fails is that of the first clause that does not hold. -/
theorem firstFailure_of_find? {guard : Guard}
    (hfind : (MemberBody.orderedGuards member naming clauses isPrecondition).find?
      (fails setting state) = some guard) :
    FirstFailure setting member naming clauses isPrecondition state guard := by
  obtain ⟨numbered, hmap, hperm, hsorted⟩ := MemberBody.exists_numbered_inOrder clauses 0
  rw [MemberBody.orderedGuards, ← hmap, List.filterMap_map, Function.comp_def] at hfind
  obtain ⟨clause, hclause, hguard, hfails, hleast⟩ :=
    Lists.exists_first_of_find?_filterMap hsorted hfind
  refine ⟨clause, hperm.mem_iff.mp hclause, hguard, by simpa [fails] using hfails, ?_⟩
  intro other hother otherGuard hotherGuard hotherFails
  exact hleast other (hperm.mem_iff.mpr hother) otherGuard hotherGuard
    (by simp [fails, hotherFails])

/-! ## Runs of an assembled body -/

/-- The return hands back what the delegate answered, whatever name the result goes by. -/
theorem run_giveBack_afterCall (setting : Setting World Value) (kept : State World Value)
    (expression : String) (member : Member) (naming : NamingScheme) :
    run setting (kept.afterCall setting expression (member.resultVariable naming))
        ((member.resultVariable naming).map .giveBack).toList =
      ⟨[], if member.returnsValue then .returned (setting.answer kept expression).1
        else .finished⟩ := by
  rw [Member.resultVariable_eq]
  cases member.returnsValue with
  | false => rfl
  | true => simp [run, State.read, State.afterCall]

/-- A failed precondition: the call is never reached. -/
theorem obeys_of_precondition_failure {expression : String} {kept answered : State World Value}
    {before : List Guard} {failed : Guard}
    (hfind : (MemberBody.orderedGuards member naming clauses true).find? (fails setting kept) =
      some failed)
    (hinitial : before ++ [failed] <+: MemberBody.orderedGuards member naming clauses true) :
    Obeys setting member naming clauses expression kept answered
      ⟨(before ++ [failed]).map (.tested · kept), .threw failed.exceptionType failed.message⟩ := by
  have hnot : ¬AllHold setting member naming clauses true kept := by
    rw [← find?_fails_eq_none_iff, hfind]
    exact Option.some_ne_none failed
  have hcalls := calls_tested (before ++ [failed]) kept
  have htestsAfter := testsAfterCall_append (before ++ [failed]) kept []
  rw [List.append_nil] at htestsAfter
  constructor
  · rw [hcalls]
    exact Nat.zero_le 1
  · rw [hcalls]
    exact ⟨fun h ↦ absurd h.symm (List.cons_ne_nil _ _), fun h ↦ absurd h hnot⟩
  · intro _
    exact ⟨hcalls, failed, firstFailure_of_find? hfind, rfl⟩
  · rw [testsBeforeCall_tested]
    exact hinitial.map _
  · rw [htestsAfter, testsAfterCall]
    exact List.nil_prefix
  · intro hall
    exact absurd hall hnot
  · intro hall
    exact absurd hall hnot

/-- All preconditions hold: the call is made, and what is left of the run tests the guards `tested`
and no others. -/
theorem obeys_of_call {expression : String} {kept answered : State World Value}
    {tested : List Guard} {ending : Ending Value}
    (hpass : (MemberBody.orderedGuards member naming clauses true).find? (fails setting kept) =
      none)
    (hinitial : tested <+: MemberBody.orderedGuards member naming clauses false)
    (hfailure : ¬AllHold setting member naming clauses false answered →
      ∃ guard, FirstFailure setting member naming clauses false answered guard ∧
        ending = .threw guard.exceptionType guard.message)
    (hsuccess : AllHold setting member naming clauses false answered →
      ending =
        if member.returnsValue then .returned (setting.answer kept expression).1 else .finished) :
    Obeys setting member naming clauses expression kept answered
      ⟨(MemberBody.orderedGuards member naming clauses true).map (.tested · kept) ++
        .called expression kept :: tested.map (.tested · answered), ending⟩ := by
  have hall : AllHold setting member naming clauses true kept := find?_fails_eq_none_iff.mp hpass
  have hcalls : calls ((MemberBody.orderedGuards member naming clauses true).map (.tested · kept) ++
      .called expression kept :: tested.map (.tested · answered)) = [(expression, kept)] := by
    rw [calls_append, calls_tested, List.nil_append, ← List.singleton_append, calls_append,
      calls_tested, List.append_nil]
    rfl
  constructor
  · rw [hcalls]
    exact Nat.le_refl 1
  · exact ⟨fun _ ↦ hall, fun _ ↦ hcalls⟩
  · intro hnot
    exact absurd hall hnot
  · exact ⟨[], by rw [testsBeforeCall_append, testsBeforeCall, List.append_nil, List.append_nil]⟩
  · rw [testsAfterCall_append, testsAfterCall, testsBeforeCall_tested]
    exact hinitial.map _
  · intro _ hnot
    exact hfailure hnot
  · intro _ hpost
    exact hsuccess hpost

/-- The body of a member with a delegate exists and obeys the clauses of the member, whatever they
are, however conditions are evaluated and whatever the delegate does. -/
theorem obeys_assemble (member : Member) (naming : NamingScheme) (clauses : List Clause)
    {delegate : String} (hdelegate : member.delegate = some delegate)
    (hblank : Text.blankText delegate = false) (setting : Setting World Value)
    (entry : State World Value) :
    ∃ body, (MemberBody.assemble member naming clauses).value = .ok body ∧
      let expression := member.delegatedCall (Text.trimmed delegate)
      let kept := body.snapshots.foldl (State.keep setting) entry
      let answered := kept.afterCall setting expression (member.resultVariable naming)
      Obeys setting member naming clauses expression kept answered
        (run setting entry body.statements) := by
  have htarget := Member.target_of_delegate hdelegate hblank
  rw [MemberBody.value_assemble naming clauses htarget]
  refine ⟨_, rfl, ?_⟩
  rw [MemberBody.snapshots_layout]
  intro expression kept answered
  simp only [MemberBody.layout]
  rw [run_keep_append]
  cases hpre : (MemberBody.orderedGuards member naming clauses true).find? (fails setting kept) with
  | some failed =>
    obtain ⟨before, hinitial, hrun⟩ := run_check_append_of_find?_eq_some _ hpre
    rw [hrun]
    exact obeys_of_precondition_failure hpre hinitial
  | none =>
    rw [run_check_append_of_find?_eq_none _ hpre, run]
    cases hpost : (MemberBody.orderedGuards member naming clauses false).find?
        (fails setting answered) with
    | some failed =>
      obtain ⟨before, hinitial, hrun⟩ := run_check_append_of_find?_eq_some _ hpost
      rw [hrun]
      refine obeys_of_call hpre hinitial (fun _ ↦ ⟨failed, firstFailure_of_find? hpost, rfl⟩) ?_
      intro hall
      rw [← find?_fails_eq_none_iff, hpost] at hall
      exact absurd hall (Option.some_ne_none failed)
    | none =>
      rw [run_check_append_of_find?_eq_none _ hpost, run_giveBack_afterCall, List.append_nil]
      exact obeys_of_call hpre (List.prefix_refl _)
        (fun hnot ↦ absurd (find?_fails_eq_none_iff.mp hpost) hnot) (fun _ ↦ rfl)

/-- A withdrawal with a failing precondition among others, in a world that is the balance. -/
theorem obeys_assemble_withdraw :
    let member : Member :=
      { name := "Withdraw", shape := .method (.value "int"), delegate := some " _contract" }
    let clauses : List Clause :=
      [⟨"Contract.Ensures(Contract.Result<int>() == Contract.OldValue(amount))", 2⟩,
        ⟨"Contract.Requires<ArgumentException>(amount > 0)", 1⟩, ⟨"Contract.Requires(isOpen)", 1⟩]
    let setting : Setting Int Int :=
      ⟨fun balance _ ↦ balance, fun _ condition ↦ condition != "isOpen",
        fun state _ ↦ (state.world, state.world - 1)⟩
    member.delegate = some " _contract" ∧ Text.blankText " _contract" = false ∧
      ∃ body, (MemberBody.assemble member {} clauses).value = .ok body ∧
        let expression := member.delegatedCall (Text.trimmed " _contract")
        let kept := body.snapshots.foldl (State.keep setting) ⟨5, []⟩
        let answered := kept.afterCall setting expression (member.resultVariable {})
        Obeys setting member {} clauses expression kept answered
          (run setting ⟨5, []⟩ body.statements) := by
  intro member clauses setting
  have hblank : Text.blankText " _contract" = false := by decide
  have hobeys := obeys_assemble member {} clauses rfl hblank setting ⟨5, []⟩
  exact ⟨rfl, hblank, hobeys⟩

end GuardedProxy.Execution
