import GuardedProxy.Proofs.BodyAccess
import GuardedProxy.Proofs.SnapshotOrder
import Mathlib.Data.List.Forall2

/-!
# The record of a body

Every clause of a member leaves one event, which says whether the clause was dropped, was malformed
or became a guard. The events stand in the order in which the clauses are taken, and one more event
with the sizes of the body ends the record. Its sizes are those of the body itself, so the number of
guards in the body is the number of clauses that the record tells to be compiled. A member without a
target leaves no event.
-/

namespace GuardedProxy

namespace Clause

variable {member : Member} {naming : NamingScheme} {clause : Clause}

/-- The event tells what became of the clause. For a guard it names the side of the call and counts
the references to old values. -/
structure AccountedBy (member : Member) (naming : NamingScheme) (clause : Clause) (event : Event) :
    Prop where
  unrecognized : clause.form = .unrecognized →
    event = .clauseDropped member.name clause.text ∧
      event.message = "dropping unrecognized clause"
  malformed : clause.form ≠ .unrecognized → (clause.compile member naming).value.guard = none →
    event = .clauseMalformed member.name clause.text clause.form ∧
      event.message = "malformed contract clause, dropping it"
  compiled : (clause.compile member naming).value.guard ≠ none →
    event = .clauseCompiled member.name clause.form
        (clause.compile member naming).value.isPrecondition
        (clause.oldValues member naming).length ∧
      event.message = "compiled clause"

theorem length_snapshots_compile (member : Member) (naming : NamingScheme) (clause : Clause) :
    (clause.compile member naming).value.snapshots.length =
      (clause.oldValues member naming).length := by
  rw [snapshots_compile, List.length_map]

theorem guard_of_unrecognized (hform : clause.form = .unrecognized) :
    (clause.compile member naming).value.guard = none := by
  rw [value_compile, hform, compileGuard_unrecognized]
  rfl

theorem guard_of_compileGuard {compiled : CompiledClause}
    (hcompiled : clause.compileGuard member naming clause.form = some compiled) :
    compiled.guard ≠ none := by
  obtain ⟨source⟩ := compileGuard_eq_some_iff.mp hcompiled
  rw [source.compiled_eq]
  exact Option.some_ne_none _

/-- Compiling a clause leaves exactly one event. -/
theorem exists_event_compile (member : Member) (naming : NamingScheme) (clause : Clause) :
    ∃ event, (clause.compile member naming).events = [event] ∧
      clause.AccountedBy member naming event := by
  by_cases hform : clause.form = .unrecognized
  · refine ⟨.clauseDropped member.name clause.text, ?_, fun _ ↦ ⟨rfl, rfl⟩, ?_, ?_⟩
    · rw [compile, hform]
      rfl
    · exact fun hrecognized ↦ absurd hform hrecognized
    · exact fun hguard ↦ absurd (guard_of_unrecognized hform) hguard
  · cases hcompiled : clause.compileGuard member naming clause.form with
    | none =>
      have hvalue : (clause.compile member naming).value.guard = none := by
        rw [value_compile, hcompiled]
        rfl
      refine ⟨.clauseMalformed member.name clause.text clause.form, ?_, ?_,
        fun _ _ ↦ ⟨rfl, rfl⟩, fun hguard ↦ absurd hvalue hguard⟩
      · unfold compile compileAs
        split
        · contradiction
        · rw [hcompiled]
          rfl
      · exact fun hunrecognized ↦ absurd hunrecognized hform
    | some compiled =>
      have hvalue : (clause.compile member naming).value = compiled := by
        rw [value_compile, hcompiled]
        rfl
      have hguard := guard_of_compileGuard hcompiled
      refine ⟨.clauseCompiled member.name clause.form compiled.isPrecondition
        compiled.snapshots.length, ?_, ?_, ?_, ?_⟩
      · unfold compile compileAs
        split
        · contradiction
        · rw [hcompiled]
          rfl
      · exact fun hunrecognized ↦ absurd hunrecognized hform
      · rw [hvalue]
        exact fun _ hnone ↦ absurd hnone hguard
      · rw [← length_snapshots_compile, hvalue]
        exact fun _ ↦ ⟨rfl, rfl⟩

/-- The event tells of a guard exactly when the clause has one, on one side of the call. -/
theorem AccountedBy.isSome_guardOn {event : Event}
    (hevent : clause.AccountedBy member naming event) :
    (if event.message = "compiled clause" then 1 else 0) =
      (if (clause.guardOn member naming true).isSome then 1 else 0) +
        (if (clause.guardOn member naming false).isSome then 1 else 0) := by
  by_cases hguard : (clause.compile member naming).value.guard = none
  · have hmessage : event.message ≠ "compiled clause" := by
      by_cases hform : clause.form = .unrecognized
      · rw [(hevent.unrecognized hform).2]
        decide
      · rw [(hevent.malformed hform hguard).2]
        decide
    have hnone (isPrecondition : Bool) : clause.guardOn member naming isPrecondition = none := by
      dsimp only [guardOn]
      rw [hguard, ite_self]
    rw [if_neg hmessage, hnone, hnone]
    rfl
  · rw [if_pos (hevent.compiled hguard).2]
    obtain ⟨guard, hsome⟩ := Option.ne_none_iff_exists'.mp hguard
    have hside (isPrecondition : Bool) : clause.guardOn member naming isPrecondition =
        if (clause.compile member naming).value.isPrecondition = isPrecondition then some guard
        else none := by
      rw [← hsome]
      rfl
    rw [hside, hside]
    cases (clause.compile member naming).value.isPrecondition with
    | true => rfl
    | false => rfl

end Clause

namespace MemberBody

/-- Clauses, each with its place, and the events that account for them one by one. -/
def Accounts (member : Member) (naming : NamingScheme) (clauses : List (Clause × Nat))
    (events : List Event) : Prop :=
  List.Forall₂ (fun clause event ↦ clause.1.AccountedBy member naming event) clauses events

/-- The events of clauses, in order, account for the clauses one by one. -/
theorem exists_accounts (member : Member) (naming : NamingScheme) (clauses : List (Clause × Nat)) :
    ∃ events, Accounts member naming clauses events ∧
      (clauses.map Prod.fst).flatMap (fun clause ↦ (clause.compile member naming).events) =
        events := by
  induction clauses with
  | nil => exact ⟨[], .nil, rfl⟩
  | cons clause rest ih =>
    obtain ⟨event, hevent, haccounted⟩ := clause.1.exists_event_compile member naming
    obtain ⟨events, haccounts, hevents⟩ := ih
    refine ⟨event :: events, .cons haccounted haccounts, ?_⟩
    rw [List.map_cons, List.flatMap_cons, hevent, hevents, List.singleton_append]

/-- The clauses that the events tell to be compiled are those with a guard on either side. -/
theorem Accounts.countP_compiled {member : Member} {naming : NamingScheme}
    {clauses : List (Clause × Nat)} {events : List Event}
    (haccounts : Accounts member naming clauses events) :
    events.countP (fun event ↦ event.message = "compiled clause") =
      (clauses.filterMap fun clause ↦ clause.1.guardOn member naming true).length +
        (clauses.filterMap fun clause ↦ clause.1.guardOn member naming false).length := by
  rw [List.length_filterMap_eq_countP, List.length_filterMap_eq_countP]
  induction haccounts with
  | nil => rfl
  | cons haccounted _ ih =>
    have hstep := haccounted.isSome_guardOn
    simp only [List.countP_cons, ih, decide_eq_true_eq]
    omega

/-- An assembled body leaves the events of its clauses and then one of its own. -/
theorem events_assemble {member : Member} {target : String} {body : MemberBody}
    (naming : NamingScheme) (clauses : List Clause) (htarget : member.target = some target)
    (hbody : (assemble member naming clauses).value = .ok body) :
    (assemble member naming clauses).events =
      (inOrder clauses).flatMap (fun clause ↦ (clause.compile member naming).events) ++
        [.bodyAssembled member.name body.snapshots.length body.preconditions.length
          body.postconditions.length] := by
  have hlayout := hbody.symm.trans (value_assemble naming clauses htarget)
  obtain rfl := Except.ok.inj hlayout
  have hevents : (Traced.sequence ((inOrder clauses).map (·.compile member naming))).events =
      (inOrder clauses).flatMap fun clause ↦ (clause.compile member naming).events :=
    List.flatMap_map ..
  simp only [assemble, htarget, Traced.events_bind, Traced.events_record, Traced.events_pure,
    hevents, value_sequence, List.map_map, Function.comp_def, guardsOf_map_compile,
    List.flatMap_map, snapshots_layout, preconditions_layout, postconditions_layout, orderedGuards,
    orderedSnapshots, List.append_nil]

/-- What the events say of a body that was assembled from the clauses. -/
structure Records (member : Member) (naming : NamingScheme) (clauses : List Clause)
    (body : MemberBody) (events : List Event) : Prop where
  /-- The clauses, each one once with its place in the list, ordered by position and then by place,
  are accounted for in this order. One event with the sizes of the body follows. -/
  accounts : ∃ (numbered : List (Clause × Nat)) (outcomes : List Event),
    numbered.Perm clauses.zipIdx ∧ numbered.Pairwise Clause.Precedes ∧
      Accounts member naming numbered outcomes ∧
      events = outcomes ++ [.bodyAssembled member.name body.snapshots.length
        body.preconditions.length body.postconditions.length]
  last_message : events.getLast?.map Event.message = some "assembled member body"
  count_compiled : body.preconditions.length + body.postconditions.length =
    events.countP fun event ↦ event.message = "compiled clause"

/-- Whatever the clauses of a member are, the events of its body account for each of them, and there
are none if there is no body. -/
theorem records_assemble (member : Member) (naming : NamingScheme) (clauses : List Clause) :
    match (assemble member naming clauses).value with
    | .ok body => Records member naming clauses body (assemble member naming clauses).events
    | .error _ => (assemble member naming clauses).events = [] := by
  cases htarget : member.target with
  | none =>
    have hassemble : assemble member naming clauses = ⟨[], .error ⟨member.name⟩⟩ := by
      rw [assemble, htarget]
      rfl
    rw [hassemble]
  | some target =>
    have hbody := value_assemble naming clauses htarget
    obtain ⟨numbered, hmap, hperm, hsorted⟩ := exists_numbered_inOrder clauses 0
    obtain ⟨outcomes, haccounts, houtcomes⟩ := exists_accounts member naming numbered
    have hguards (isPrecondition : Bool) : orderedGuards member naming clauses isPrecondition =
        numbered.filterMap fun clause ↦ clause.1.guardOn member naming isPrecondition := by
      rw [orderedGuards, ← hmap, List.filterMap_map]
      rfl
    have hevents := events_assemble naming clauses htarget hbody
    rw [← hmap, houtcomes] at hevents
    rw [hbody]
    dsimp only
    refine ⟨⟨numbered, outcomes, hperm, hsorted, haccounts, hevents⟩, ?_, ?_⟩
    · rw [hevents, List.getLast?_concat]
      rfl
    · rw [hevents, List.countP_append, haccounts.countP_compiled, preconditions_layout,
        postconditions_layout, hguards, hguards]
      rfl

/-- The clauses are accounted for by their positions, and the identifier that is referred to twice
is counted twice by its clause and once by the body. -/
theorem records_assemble_withdraw :
    let member : Member :=
      { name := "Withdraw", shape := .method .void, parameters := [⟨"n", "int"⟩],
        delegate := some "_contract" }
    let clauses : List Clause :=
      [⟨"Contract.Ensures(Contract.OldValue(n) == Contract.OldValue(n))", 2⟩,
        ⟨"Contract.Requires(n", 1⟩, ⟨"Assert(n)", 1⟩]
    let events : List Event :=
      [.clauseMalformed "Withdraw" "Contract.Requires(n" .untypedPrecondition,
        .clauseDropped "Withdraw" "Assert(n)",
        .clauseCompiled "Withdraw" .postcondition false 2,
        .bodyAssembled "Withdraw" 1 0 1]
    (assemble member {} clauses).events = events ∧
      ∃ body, (assemble member {} clauses).value = .ok body ∧
        Records member {} clauses body events := by
  intro member clauses events
  have hevents : (assemble member {} clauses).events = events := by
    decide +kernel
  have hbody := value_assemble {} clauses (rfl : member.target = some "_contract")
  have hrecords := records_assemble member {} clauses
  rw [hbody, hevents] at hrecords
  exact ⟨hevents, _, hbody, hrecords⟩

end MemberBody

end GuardedProxy
