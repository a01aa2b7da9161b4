import GuardedProxy.MemberBody
import GuardedProxy.Proofs.Text

/-!
# The layout of a body

The clauses of a member are taken by position, and those at one position in the order of the list
that holds them. A clause is therefore kept together with its place in that list, which makes the
order strict. With a target to call, the body consists of the parts that the clauses compile to in
this order: the snapshots, the guards before the call, the call, the guards after it and the return.
-/

namespace GuardedProxy

/-- A delegate that is not blank is a target to call. -/
theorem Member.target_of_delegate {member : Member} {delegate : String}
    (hdelegate : member.delegate = some delegate) (hblank : Text.blankText delegate = false) :
    member.target = some (Text.trimmed delegate) := by
  have hne : Text.trimmed delegate ≠ "" := by
    intro hempty
    have hnil : Text.trim delegate.toList = [] := by
      simpa [Text.trimmed] using congrArg String.toList hempty
    rw [Text.trim_eq_nil_iff, ← Text.blankText, hblank] at hnil
    exact Bool.false_ne_true hnil
  simp [Member.target, hdelegate, hne]

/-- Whether the member hands a value back: a getter does, and so does a method that is not void. -/
def Member.returnsValue (member : Member) : Bool :=
  match member.shape with
  | .getter _ => true
  | .method (.value _) => true
  | .method .void => false
  | .setter => false

/-- The result has a variable exactly when there is a value to hand back. -/
theorem Member.resultVariable_eq (member : Member) (naming : NamingScheme) :
    member.resultVariable naming =
      if member.returnsValue then some naming.resultVariable else none := by
  unfold resultVariable returnsValue
  cases member.shape with
  | getter type => rfl
  | setter => rfl
  | method returns =>
    cases returns with
    | void => rfl
    | value type => rfl

/-- The guard of a clause, if it stands on the given side of the call. -/
def Clause.guardOn (member : Member) (naming : NamingScheme) (isPrecondition : Bool)
    (clause : Clause) : Option Guard :=
  let compiled := (clause.compile member naming).value
  if compiled.isPrecondition = isPrecondition then compiled.guard else none

/-- The clause comes before the other one: at an earlier position, or at the same position and at an
earlier place in the list of clauses. -/
def Clause.Precedes (clause other : Clause × Nat) : Prop :=
  clause.1.position < other.1.position ∨
    (clause.1.position = other.1.position ∧ clause.2 < other.2)

namespace MemberBody

/-- A clause in front of all others of the list finds its place among them by position. -/
theorem exists_numbered_insertByPosition (clause : Clause) (place : Nat)
    (numbered : List (Clause × Nat)) (hlater : ∀ other ∈ numbered, place < other.2)
    (hsorted : numbered.Pairwise Clause.Precedes) :
    ∃ inserted : List (Clause × Nat),
      inserted.map Prod.fst = insertByPosition clause (numbered.map Prod.fst) ∧
        inserted.Perm ((clause, place) :: numbered) ∧ inserted.Pairwise Clause.Precedes := by
  induction numbered with
  | nil => exact ⟨[(clause, place)], rfl, .refl _, List.pairwise_singleton _ _⟩
  | cons next rest ih =>
    obtain ⟨hnext, hrest⟩ := List.pairwise_cons.mp hsorted
    have hplace : place < next.2 := hlater next List.mem_cons_self
    by_cases hposition : clause.position ≤ next.1.position
    · refine ⟨(clause, place) :: next :: rest, ?_, .refl _, List.pairwise_cons.mpr ⟨?_, hsorted⟩⟩
      · simp [insertByPosition, hposition]
      · intro other hother
        rcases List.mem_cons.mp hother with rfl | hother
        · exact (Nat.lt_or_eq_of_le hposition).imp_right fun heq ↦ ⟨heq, hplace⟩
        · have hplaceOther := hlater other (List.mem_cons_of_mem _ hother)
          have hbetween := hnext other hother
          dsimp only [Clause.Precedes] at hbetween ⊢
          omega
    · obtain ⟨inserted, hmap, hperm, hinserted⟩ :=
        ih (fun other hother ↦ hlater other (List.mem_cons_of_mem _ hother)) hrest
      refine ⟨next :: inserted, ?_, ?_, List.pairwise_cons.mpr ⟨?_, hinserted⟩⟩
      · simp [insertByPosition, hposition, hmap]
      · exact (hperm.cons next).trans (.swap _ _ _)
      · intro other hother
        rcases List.mem_cons.mp (hperm.mem_iff.mp hother) with rfl | hother
        · exact Or.inl (Nat.lt_of_not_le hposition)
        · exact hnext other hother

/-- The clauses in order, each with its place: every place once, and strictly ordered. -/
theorem exists_numbered_inOrder (clauses : List Clause) (start : Nat) :
    ∃ numbered : List (Clause × Nat), numbered.map Prod.fst = inOrder clauses ∧
      numbered.Perm (clauses.zipIdx start) ∧ numbered.Pairwise Clause.Precedes := by
  induction clauses generalizing start with
  | nil => exact ⟨[], rfl, .refl _, .nil⟩
  | cons clause rest ih =>
    obtain ⟨numbered, hmap, hperm, hsorted⟩ := ih (start + 1)
    have hlater : ∀ other ∈ numbered, start < other.2 := by
      intro other hother
      exact List.le_snd_of_mem_zipIdx (hperm.mem_iff.mp hother)
    obtain ⟨inserted, hinserted, hinsertedPerm, hinsertedSorted⟩ :=
      exists_numbered_insertByPosition clause start numbered hlater hsorted
    refine ⟨inserted, ?_, hinsertedPerm.trans (hperm.cons _), hinsertedSorted⟩
    rw [hinserted, hmap]
    rfl

/-- Ordering clauses by position neither drops nor doubles one. -/
theorem perm_inOrder (clauses : List Clause) : (inOrder clauses).Perm clauses := by
  obtain ⟨numbered, hmap, hperm, -⟩ := exists_numbered_inOrder clauses 0
  have hfirst := hperm.map Prod.fst
  rwa [hmap, List.zipIdx_map_fst] at hfirst

/-- The guards of one side of the call, clause by clause. -/
def orderedGuards (member : Member) (naming : NamingScheme) (clauses : List Clause)
    (isPrecondition : Bool) : List Guard :=
  (inOrder clauses).filterMap (Clause.guardOn member naming isPrecondition)

/-- The snapshots that the guards ask for, clause by clause, repeated identifiers included. -/
def orderedSnapshots (member : Member) (naming : NamingScheme) (clauses : List Clause) :
    List Snapshot :=
  (inOrder clauses).flatMap fun clause ↦ (clause.compile member naming).value.snapshots

/-- Every clause with a guard on a side of the call has its guard in the list of that side. -/
theorem mem_orderedGuards_iff {member : Member} {naming : NamingScheme} {clauses : List Clause}
    {isPrecondition : Bool} {guard : Guard} :
    guard ∈ orderedGuards member naming clauses isPrecondition ↔
      ∃ clause ∈ clauses, clause.guardOn member naming isPrecondition = some guard := by
  rw [orderedGuards, List.mem_filterMap]
  simp only [(perm_inOrder clauses).mem_iff]

theorem guardsOf_map_compile (member : Member) (naming : NamingScheme) (clauses : List Clause)
    (isPrecondition : Bool) :
    guardsOf isPrecondition (clauses.map fun clause ↦ (clause.compile member naming).value) =
      clauses.filterMap (Clause.guardOn member naming isPrecondition) := by
  unfold guardsOf
  induction clauses with
  | nil => rfl
  | cons clause rest ih =>
    by_cases hside : (clause.compile member naming).value.isPrecondition = isPrecondition
    · simp [List.filterMap_cons, Clause.guardOn, hside, ih]
    · simp [Clause.guardOn, hside, ih]

@[simp] theorem value_sequence {α : Type} (xs : List (Traced α)) :
    (Traced.sequence xs).value = xs.map Traced.value := rfl

/-- The statements of a body, part by part. -/
def layout (snapshots : List Snapshot) (preconditions : List Guard) (expression : String)
    (result : Option String) (postconditions : List Guard) : List Statement :=
  snapshots.map .keep ++ (preconditions.map .check ++
    .call expression result :: (postconditions.map .check ++ (result.map .giveBack).toList))

/-- With a target, the parts of the body stand in this order and nothing else does. -/
theorem value_assemble {member : Member} {target : String} (naming : NamingScheme)
    (clauses : List Clause) (htarget : member.target = some target) :
    (assemble member naming clauses).value = .ok
      ⟨layout (firstOfEach [] (orderedSnapshots member naming clauses))
        (orderedGuards member naming clauses true) (member.delegatedCall target)
        (member.resultVariable naming) (orderedGuards member naming clauses false)⟩ := by
  have hcompiled : (Traced.sequence ((inOrder clauses).map (·.compile member naming))).value =
      (inOrder clauses).map fun clause ↦ (clause.compile member naming).value := by
    simp
  simp only [assemble, htarget, Traced.value_bind, Traced.value_pure, hcompiled,
    guardsOf_map_compile, List.flatMap_map, orderedGuards, orderedSnapshots, layout,
    List.append_assoc, List.cons_append, List.nil_append]

theorem mem_layout_check_iff {snapshots : List Snapshot} {preconditions postconditions : List Guard}
    {expression : String} {result : Option String} {guard : Guard} :
    .check guard ∈ layout snapshots preconditions expression result postconditions ↔
      guard ∈ preconditions ∨ guard ∈ postconditions := by
  simp [layout]

theorem mem_layout_keep_iff {snapshots : List Snapshot} {preconditions postconditions : List Guard}
    {expression : String} {result : Option String} {snapshot : Snapshot} :
    .keep snapshot ∈ layout snapshots preconditions expression result postconditions ↔
      snapshot ∈ snapshots := by
  cases result <;> simp [layout]

theorem mem_layout_call_iff {snapshots : List Snapshot} {preconditions postconditions : List Guard}
    {expression called : String} {result given : Option String} :
    .call called given ∈ layout snapshots preconditions expression result postconditions ↔
      called = expression ∧ given = result := by
  cases result <;> simp [layout]

theorem mem_layout_giveBack_iff {snapshots : List Snapshot}
    {preconditions postconditions : List Guard} {expression name : String}
    {result : Option String} :
    .giveBack name ∈ layout snapshots preconditions expression result postconditions ↔
      result = some name := by
  simp [layout]

theorem filterMap_snapshot?_check (guards : List Guard) :
    (guards.map Statement.check).filterMap Statement.snapshot? = [] := by
  simp [List.filterMap_map, Function.comp_def, Statement.snapshot?]

/-- The snapshots of a body are those that were put into it. -/
theorem snapshots_layout (snapshots : List Snapshot) (preconditions postconditions : List Guard)
    (expression : String) (result : Option String) :
    (MemberBody.mk (layout snapshots preconditions expression result postconditions)).snapshots =
      snapshots := by
  have hkeep : (snapshots.map Statement.keep).filterMap Statement.snapshot? = snapshots := by
    simp [List.filterMap_map, Function.comp_def, Statement.snapshot?]
  have hreturn : ((result.map Statement.giveBack).toList).filterMap Statement.snapshot? = [] := by
    cases result with
    | none => rfl
    | some name => rfl
  simp only [MemberBody.snapshots, layout, List.filterMap_append, hkeep, filterMap_snapshot?_check,
    List.filterMap_cons, Statement.snapshot?, hreturn, List.append_nil]

/-- Every snapshot of a body stands before every other statement. -/
theorem lt_of_keep_layout {snapshots : List Snapshot} {preconditions postconditions : List Guard}
    {expression : String} {result : Option String} {i j : Nat} {snapshot : Snapshot}
    {statement : Statement}
    (hkeep : (layout snapshots preconditions expression result postconditions)[i]? =
      some (.keep snapshot))
    (hstatement : (layout snapshots preconditions expression result postconditions)[j]? =
      some statement)
    (hother : statement.snapshot? = none) : i < j := by
  have hi : i < snapshots.length := by
    apply Nat.lt_of_not_le
    intro hle
    rw [layout, List.getElem?_append_right (by simpa using hle)] at hkeep
    have hmem := List.mem_of_getElem? hkeep
    cases result <;> simp at hmem
  have hj : snapshots.length ≤ j := by
    apply Nat.le_of_not_lt
    intro hlt
    rw [layout, List.getElem?_append_left (by simpa using hlt), List.getElem?_map,
      List.getElem?_eq_getElem hlt] at hstatement
    obtain rfl := Option.some.inj hstatement
    exact Option.some_ne_none _ hother
  exact Nat.lt_of_lt_of_le hi hj

end MemberBody

end GuardedProxy
