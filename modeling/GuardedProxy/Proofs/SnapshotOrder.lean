import GuardedProxy.Proofs.BodyLayout
import GuardedProxy.Proofs.ClauseOutcome
import GuardedProxy.Proofs.ReferencePlaces

/-!
# The snapshots of a body

A reference to an old value occurs at a clause, and there at a place in the condition that the guard
of the clause checks. The occurrences are ordered by clause first and by place second. The snapshots
of a body keep every identifier that occurs, each of them once, in the order of the first
occurrences, and they are taken before anything else happens.
-/

namespace GuardedProxy

namespace Clause

/-- The text of a clause in which old values are looked for: the condition of its guard, with the
result in place. A clause that is dropped has none. -/
def searchedText (member : Member) (naming : NamingScheme) (clause : Clause) : Option String :=
  if (clause.compile member naming).value.guard.isSome then
    (clause.invocation.bind Invocation.condition).map fun condition ↦
      checkedCondition member naming (guardsEntry clause.form condition) condition
  else none

/-- The references to old values that a clause contributes. -/
def oldValues (member : Member) (naming : NamingScheme) (clause : Clause) : List (Located String) :=
  ((clause.searchedText member naming).map OldValue.references).getD []

/-- A clause has a snapshot for each reference of the text that is searched. -/
theorem snapshots_compile (member : Member) (naming : NamingScheme) (clause : Clause) :
    (clause.compile member naming).value.snapshots =
      (clause.oldValues member naming).map fun found ↦ Snapshot.ofIdentifier found.value := by
  unfold oldValues searchedText
  rcases value_compile_cases member naming clause with hdropped | ⟨compiled, hcompiled, ⟨source⟩⟩
  · rw [hdropped]
    rfl
  · obtain ⟨invocation, condition, exceptionType, hinvocation, -, hcondition, -, rfl⟩ := source
    rw [hcompiled, hinvocation]
    simp [hcondition, OldValue.snapshots]

theorem mem_oldValues_iff {member : Member} {naming : NamingScheme} {clause : Clause}
    {found : Located String} :
    found ∈ clause.oldValues member naming ↔
      ∃ text, clause.searchedText member naming = some text ∧ found ∈ OldValue.references text := by
  unfold oldValues
  cases clause.searchedText member naming with
  | none => simp
  | some text => simp

theorem pairwise_oldValues (member : Member) (naming : NamingScheme) (clause : Clause) :
    (clause.oldValues member naming).Pairwise fun first second ↦ first.start < second.start := by
  unfold oldValues
  cases clause.searchedText member naming with
  | none => exact .nil
  | some text => exact (Segment.isCut_ofCondition _ _).pairwise_locate 0

end Clause

/-- A reference to the old value of an identifier, at a clause with its place in the list and at the
bytes of the text that is searched there. -/
structure Occurrence where
  clause : Clause × Nat
  start : Nat
  stop : Nat
  identifier : String

namespace Occurrence

/-- The occurrence stands in the list of clauses of a member. A reference that begins inside of
another does not count. -/
def IsIn (member : Member) (naming : NamingScheme) (clauses : List Clause)
    (occurrence : Occurrence) : Prop :=
  occurrence.clause ∈ clauses.zipIdx ∧
    ∃ text, occurrence.clause.1.searchedText member naming = some text ∧
      IsLeftmost (OldValue.StandsAt text) occurrence.start occurrence.stop occurrence.identifier

/-- By position, then by place in the list of clauses, then by offset in the condition. -/
def Before (occurrence other : Occurrence) : Prop :=
  Clause.Precedes occurrence.clause other.clause ∨
    (occurrence.clause = other.clause ∧ occurrence.start < other.start)

/-- The occurrence that a reference of a clause is. -/
def ofLocated (clause : Clause × Nat) (found : Located String) : Occurrence :=
  ⟨clause, found.start, found.stop, found.value⟩

/-- What stands in the list is what is found in its clauses. -/
theorem isIn_iff {member : Member} {naming : NamingScheme} {clauses : List Clause}
    {occurrence : Occurrence} :
    occurrence.IsIn member naming clauses ↔ ∃ clause ∈ clauses.zipIdx,
      ∃ found ∈ clause.1.oldValues member naming, ofLocated clause found = occurrence := by
  obtain ⟨clause, start, stop, identifier⟩ := occurrence
  unfold IsIn
  simp only [(OldValue.listsAll_references _).isLeftmost_iff, ofLocated, Occurrence.mk.injEq]
  constructor
  · rintro ⟨hclause, text, htext, found, hfound, hplace⟩
    exact ⟨clause, hclause, found, Clause.mem_oldValues_iff.mpr ⟨text, htext, hfound⟩, rfl, hplace⟩
  · rintro ⟨_, hclause, found, hfound, rfl, hplace⟩
    obtain ⟨text, htext, hfound⟩ := Clause.mem_oldValues_iff.mp hfound
    exact ⟨hclause, text, htext, found, hfound, hplace⟩

/-- All occurrences of a list of clauses can be listed in order. They are what the snapshots of the
clauses are made from. -/
theorem exists_ordered (member : Member) (naming : NamingScheme) (clauses : List Clause) :
    ∃ occurrences : List Occurrence,
      (∀ occurrence, occurrence ∈ occurrences ↔ occurrence.IsIn member naming clauses) ∧
        occurrences.Pairwise Before ∧
        MemberBody.orderedSnapshots member naming clauses =
          occurrences.map fun occurrence ↦ Snapshot.ofIdentifier occurrence.identifier := by
  obtain ⟨numbered, hmap, hperm, hsorted⟩ := MemberBody.exists_numbered_inOrder clauses 0
  refine ⟨numbered.flatMap fun clause ↦
      (clause.1.oldValues member naming).map (Occurrence.ofLocated clause),
    ?_, ?_, ?_⟩
  · intro occurrence
    simp only [List.mem_flatMap, List.mem_map, hperm.mem_iff, isIn_iff]
  · rw [List.pairwise_flatMap]
    constructor
    · intro clause _
      rw [List.pairwise_map]
      exact (clause.1.pairwise_oldValues member naming).imp fun hstart ↦ Or.inr ⟨rfl, hstart⟩
    · refine hsorted.imp ?_
      intro clause other hprecedes first hfirst second hsecond
      obtain ⟨_, _, rfl⟩ := List.mem_map.mp hfirst
      obtain ⟨_, _, rfl⟩ := List.mem_map.mp hsecond
      exact Or.inl hprecedes
  · rw [MemberBody.orderedSnapshots, ← hmap, List.flatMap_map, List.map_flatMap]
    simp only [Clause.snapshots_compile, List.map_map, Function.comp_def, ofLocated]

end Occurrence

namespace MemberBody

theorem firstOfEach_cons_of_mem {seen : List String} {snapshot : Snapshot} (rest : List Snapshot)
    (hseen : snapshot.identifier ∈ seen) :
    firstOfEach seen (snapshot :: rest) = firstOfEach seen rest :=
  if_pos hseen

theorem firstOfEach_cons_of_not_mem {seen : List String} {snapshot : Snapshot}
    (rest : List Snapshot) (hseen : snapshot.identifier ∉ seen) :
    firstOfEach seen (snapshot :: rest) =
      snapshot :: firstOfEach (snapshot.identifier :: seen) rest :=
  if_neg hseen

/-- Every identifier that has not been seen is kept. -/
theorem mem_firstOfEach_iff {seen : List String} {snapshots : List Snapshot} {identifier : String} :
    identifier ∈ (firstOfEach seen snapshots).map Snapshot.identifier ↔
      identifier ∈ snapshots.map Snapshot.identifier ∧ identifier ∉ seen := by
  induction snapshots generalizing seen with
  | nil => simp [firstOfEach]
  | cons snapshot rest ih =>
    by_cases hseen : snapshot.identifier ∈ seen
    · rw [firstOfEach_cons_of_mem rest hseen, ih, List.map_cons, List.mem_cons]
      constructor
      · rintro ⟨hrest, hnew⟩
        exact ⟨Or.inr hrest, hnew⟩
      · rintro ⟨rfl | hrest, hnew⟩
        · exact absurd hseen hnew
        · exact ⟨hrest, hnew⟩
    · rw [firstOfEach_cons_of_not_mem rest hseen, List.map_cons, List.mem_cons, ih, List.map_cons,
        List.mem_cons, List.mem_cons]
      constructor
      · rintro (rfl | ⟨hrest, hnew⟩)
        · exact ⟨Or.inl rfl, hseen⟩
        · exact ⟨Or.inr hrest, fun h ↦ hnew (Or.inr h)⟩
      · rintro ⟨rfl | hrest, hnew⟩
        · exact Or.inl rfl
        · by_cases hsame : identifier = snapshot.identifier
          · exact Or.inl hsame
          · exact Or.inr ⟨hrest, fun h ↦ h.elim hsame hnew⟩

theorem not_mem_seen_of_mem_firstOfEach {seen : List String} {snapshots : List Snapshot}
    {snapshot : Snapshot} (hmem : snapshot ∈ firstOfEach seen snapshots) :
    snapshot.identifier ∉ seen :=
  (mem_firstOfEach_iff.mp (List.mem_map_of_mem hmem)).2

/-- No identifier is kept twice. -/
theorem nodup_firstOfEach (seen : List String) (snapshots : List Snapshot) :
    ((firstOfEach seen snapshots).map Snapshot.identifier).Nodup := by
  induction snapshots generalizing seen with
  | nil => exact .nil
  | cons snapshot rest ih =>
    by_cases hseen : snapshot.identifier ∈ seen
    · rw [firstOfEach_cons_of_mem rest hseen]
      exact ih seen
    · rw [firstOfEach_cons_of_not_mem rest hseen, List.map_cons, List.nodup_cons]
      refine ⟨?_, ih _⟩
      intro hmem
      exact (mem_firstOfEach_iff.mp hmem).2 List.mem_cons_self

/-- Snapshots are left out and not moved. -/
theorem firstOfEach_sublist (seen : List String) (snapshots : List Snapshot) :
    (firstOfEach seen snapshots).Sublist snapshots := by
  induction snapshots generalizing seen with
  | nil => exact .slnil
  | cons snapshot rest ih =>
    by_cases hseen : snapshot.identifier ∈ seen
    · rw [firstOfEach_cons_of_mem rest hseen]
      exact (ih seen).cons _
    · rw [firstOfEach_cons_of_not_mem rest hseen]
      exact (ih _).cons_cons _

/-- Snapshots stand in the order in which their identifiers first occur. -/
theorem pairwise_firstOfEach {occurrences : List Occurrence} (seen : List String)
    (hsorted : occurrences.Pairwise Occurrence.Before) :
    (firstOfEach seen (occurrences.map fun occurrence ↦
      Snapshot.ofIdentifier occurrence.identifier)).Pairwise fun first second ↦
        ∃ occurrence ∈ occurrences, occurrence.identifier = first.identifier ∧
          ∀ other ∈ occurrences, other.identifier = second.identifier → occurrence.Before other := by
  induction occurrences generalizing seen with
  | nil => exact .nil
  | cons head rest ih =>
    obtain ⟨hhead, hrest⟩ := List.pairwise_cons.mp hsorted
    -- an identifier that is kept later on is not the one at the head
    have hlift {avoided : List String} (havoided : head.identifier ∈ avoided) :
        (firstOfEach avoided (rest.map fun occurrence ↦
          Snapshot.ofIdentifier occurrence.identifier)).Pairwise fun first second ↦
            ∃ occurrence ∈ head :: rest, occurrence.identifier = first.identifier ∧
              ∀ other ∈ head :: rest, other.identifier = second.identifier →
                occurrence.Before other := by
      refine (ih avoided hrest).imp_of_mem ?_
      rintro first second _ hsecond ⟨occurrence, hoccurrence, hfirst, hbefore⟩
      refine ⟨occurrence, List.mem_cons_of_mem _ hoccurrence, hfirst, ?_⟩
      intro other hother hidentifier
      rcases List.mem_cons.mp hother with rfl | hother
      · exact absurd (hidentifier ▸ havoided) (not_mem_seen_of_mem_firstOfEach hsecond)
      · exact hbefore other hother hidentifier
    rw [List.map_cons]
    by_cases hseen : (Snapshot.ofIdentifier head.identifier).identifier ∈ seen
    · rw [firstOfEach_cons_of_mem _ hseen]
      exact hlift hseen
    · rw [firstOfEach_cons_of_not_mem _ hseen]
      refine List.pairwise_cons.mpr ⟨?_, hlift List.mem_cons_self⟩
      intro second hsecond
      refine ⟨head, List.mem_cons_self, rfl, ?_⟩
      intro other hother hidentifier
      rcases List.mem_cons.mp hother with rfl | hother
      · exact absurd (hidentifier ▸ List.mem_cons_self) (not_mem_seen_of_mem_firstOfEach hsecond)
      · exact hhead other hother

theorem variableName_of_mem_firstOfEach {occurrences : List Occurrence} {seen : List String}
    {snapshot : Snapshot}
    (hmem : snapshot ∈ firstOfEach seen (occurrences.map fun occurrence ↦
      Snapshot.ofIdentifier occurrence.identifier)) :
    snapshot.variableName = snapshot.identifier ++ "_old" := by
  obtain ⟨occurrence, -, rfl⟩ := List.mem_map.mp ((firstOfEach_sublist _ _).subset hmem)
  rfl

/-- Two snapshots with one variable would keep one identifier. -/
theorem nodup_variableName_of_nodup {snapshots : List Snapshot}
    (hidentifiers : (snapshots.map Snapshot.identifier).Nodup)
    (hvariables : ∀ snapshot ∈ snapshots, snapshot.variableName = snapshot.identifier ++ "_old") :
    (snapshots.map Snapshot.variableName).Nodup := by
  rw [List.nodup_iff_pairwise_ne, List.pairwise_map] at hidentifiers ⊢
  refine hidentifiers.imp_of_mem ?_
  intro first second hfirst hsecond hne hsame
  apply hne
  rw [hvariables first hfirst, hvariables second hsecond] at hsame
  exact (String.append_left_inj _).mp hsame

/-- The snapshots of the body are what the guards of the clauses need. -/
structure KeepsOldValues (member : Member) (naming : NamingScheme) (clauses : List Clause)
    (body : MemberBody) : Prop where
  nodup_identifier : (body.snapshots.map Snapshot.identifier).Nodup
  nodup_variableName : (body.snapshots.map Snapshot.variableName).Nodup
  variableName_eq : ∀ snapshot ∈ body.snapshots,
    snapshot.variableName = snapshot.identifier ++ "_old"
  /-- An identifier is kept exactly when a compiled clause refers to its old value. -/
  identifier_iff : ∀ identifier, identifier ∈ body.snapshots.map Snapshot.identifier ↔
    ∃ occurrence : Occurrence, occurrence.IsIn member naming clauses ∧
      occurrence.identifier = identifier
  /-- Of two snapshots, the first one keeps an identifier that occurs before any occurrence of the
  identifier of the second one. -/
  order : body.snapshots.Pairwise fun first second ↦
    ∃ occurrence : Occurrence, occurrence.IsIn member naming clauses ∧
      occurrence.identifier = first.identifier ∧
      ∀ other : Occurrence, other.IsIn member naming clauses →
        other.identifier = second.identifier → occurrence.Before other
  /-- A snapshot stands before every guard and before the call. -/
  lt_of_keep : ∀ (i j : Nat) (snapshot : Snapshot) (statement : Statement),
    body.statements[i]? = some (.keep snapshot) → body.statements[j]? = some statement →
    (statement.guard?.isSome ∨ statement.isCall) → i < j

/-- Whatever the clauses of a member with a delegate are, its body takes exactly the snapshots that
they need. -/
theorem keepsOldValues_assemble (member : Member) (naming : NamingScheme) (clauses : List Clause)
    {delegate : String} (hdelegate : member.delegate = some delegate)
    (hblank : Text.blankText delegate = false) :
    ∃ body, (assemble member naming clauses).value = .ok body ∧
      KeepsOldValues member naming clauses body := by
  have htarget := Member.target_of_delegate hdelegate hblank
  obtain ⟨occurrences, hmem, hsorted, hsnapshots⟩ := Occurrence.exists_ordered member naming clauses
  have hidentifiers := nodup_firstOfEach [] (occurrences.map fun occurrence ↦
    Snapshot.ofIdentifier occurrence.identifier)
  have hvariables : ∀ snapshot ∈ firstOfEach [] (occurrences.map fun occurrence ↦
      Snapshot.ofIdentifier occurrence.identifier),
      snapshot.variableName = snapshot.identifier ++ "_old" :=
    fun _ hsnapshot ↦ variableName_of_mem_firstOfEach hsnapshot
  refine ⟨_, value_assemble naming clauses htarget, ?_⟩
  rw [hsnapshots]
  constructor
  · rwa [snapshots_layout]
  · rw [snapshots_layout]
    exact nodup_variableName_of_nodup hidentifiers hvariables
  · rwa [snapshots_layout]
  · intro identifier
    rw [snapshots_layout, mem_firstOfEach_iff, List.map_map, List.mem_map]
    simp only [List.not_mem_nil, not_false_eq_true, and_true, hmem]
    rfl
  · rw [snapshots_layout]
    refine (pairwise_firstOfEach [] hsorted).imp ?_
    rintro first second ⟨occurrence, hoccurrence, hfirst, hbefore⟩
    refine ⟨occurrence, (hmem occurrence).mp hoccurrence, hfirst, ?_⟩
    intro other hother
    exact hbefore other ((hmem other).mpr hother)
  · intro i j snapshot statement hkeep hstatement hkind
    refine lt_of_keep_layout hkeep hstatement ?_
    cases statement with
    | keep kept => simp [Statement.guard?, Statement.isCall] at hkind
    | check guard => rfl
    | call expression result => rfl
    | giveBack name => rfl

/-- Two clauses against their order in the list, with an identifier that both refer to. -/
theorem keepsOldValues_assemble_transfer :
    let member : Member :=
      { name := "Transfer", shape := .method .void, delegate := some "_contract" }
    let clauses : List Clause :=
      [⟨"Contract.Ensures(Contract.OldValue(from) > Contract.OldValue<int>(amount))", 1⟩,
        ⟨"Contract.Requires(Contract.OldValue(amount) > 0)", 0⟩]
    member.delegate = some "_contract" ∧ Text.blankText "_contract" = false ∧
      ∃ body, (assemble member {} clauses).value = .ok body ∧
        KeepsOldValues member {} clauses body := by
  intro member clauses
  have hblank : Text.blankText "_contract" = false := by decide
  exact ⟨rfl, hblank, keepsOldValues_assemble member {} clauses rfl hblank⟩

end MemberBody

end GuardedProxy
