import GuardedProxy.Proofs.BodyLayout
import GuardedProxy.Proofs.ClauseOutcome
import Mathlib.Data.List.Nodup

/-!
# The clauses that a body depends on

A clause that compiles to nothing leaves no trace in the body of its member, wherever it stands
among the other clauses and whatever its position is. The order by position is the only order that
counts for the clauses that remain, so that clauses at different positions may be given in any
order.
-/

namespace GuardedProxy

namespace Clause

/-- The clause compiles to a guard. Any other clause compiles to nothing. -/
def isEffective (member : Member) (naming : NamingScheme) (clause : Clause) : Bool :=
  (clause.compile member naming).value.guard.isSome

variable {member : Member} {naming : NamingScheme} {clause : Clause}

theorem guardOn_eq_none (hclause : clause.isEffective member naming = false)
    (isPrecondition : Bool) : clause.guardOn member naming isPrecondition = none := by
  have hguard : (clause.compile member naming).value.guard = none :=
    Option.isSome_eq_false_iff.mp hclause |> Option.isNone_iff_eq_none.mp
  dsimp only [guardOn]
  rw [hguard, ite_self]

/-- A clause without a guard asks for no snapshots either. -/
theorem snapshots_eq_nil (hclause : clause.isEffective member naming = false) :
    (clause.compile member naming).value.snapshots = [] := by
  rcases value_compile_cases member naming clause with hdropped | ⟨compiled, hvalue, ⟨source⟩⟩
  · rw [hdropped]
    rfl
  · have hguard : (clause.compile member naming).value.guard.isSome = true := by
      rw [hvalue, source.compiled_eq]
      rfl
    exact absurd (hguard.symm.trans hclause) Bool.noConfusion

end Clause

namespace MemberBody

/-- The clauses in order go up by position. -/
theorem pairwise_inOrder (clauses : List Clause) :
    (inOrder clauses).Pairwise fun first second ↦ first.position ≤ second.position := by
  obtain ⟨numbered, hmap, -, hsorted⟩ := exists_numbered_inOrder clauses 0
  rw [← hmap, List.pairwise_map]
  refine hsorted.imp ?_
  intro first second hprecedes
  dsimp only [Clause.Precedes] at hprecedes
  omega

/-- Clauses at different positions have one order, however they were given. -/
theorem inOrder_eq_of_perm {clauses others : List Clause} (hperm : clauses.Perm others)
    (hpositions : (clauses.map Clause.position).Nodup) : inOrder clauses = inOrder others := by
  have hordered : (inOrder clauses).Perm (inOrder others) :=
    (perm_inOrder clauses).trans (hperm.trans (perm_inOrder others).symm)
  refine hordered.eq_of_pairwise ?_ (pairwise_inOrder clauses) (pairwise_inOrder others)
  intro first second hfirst hsecond hle hge
  have hfirstMem : first ∈ clauses := (perm_inOrder clauses).mem_iff.mp hfirst
  have hsecondMem : second ∈ clauses :=
    hperm.mem_iff.mpr ((perm_inOrder others).mem_iff.mp hsecond)
  exact List.inj_on_of_nodup_map hpositions hfirstMem hsecondMem (Nat.le_antisymm hle hge)

theorem insertByPosition_of_le {clause : Clause} {ordered : List Clause}
    (hle : ∀ other ∈ ordered, clause.position ≤ other.position) :
    insertByPosition clause ordered = clause :: ordered := by
  cases ordered with
  | nil => rfl
  | cons next rest => exact if_pos (hle next List.mem_cons_self)

/-- Among clauses in order, one more clause finds the same place whether or not some of them are
left out. If it is itself left out, the others are as they were. -/
theorem filter_insertByPosition (keeps : Clause → Bool) (clause : Clause) {ordered : List Clause}
    (hsorted : ordered.Pairwise fun first second ↦ first.position ≤ second.position) :
    (insertByPosition clause ordered).filter keeps =
      if keeps clause then insertByPosition clause (ordered.filter keeps)
      else ordered.filter keeps := by
  induction ordered with
  | nil => cases hkeeps : keeps clause <;> simp [insertByPosition, hkeeps]
  | cons next rest ih =>
    obtain ⟨hnext, hrest⟩ := List.pairwise_cons.mp hsorted
    by_cases hposition : clause.position ≤ next.position
    · -- then the clause comes before all that are kept
      have hle : ∀ other ∈ (next :: rest).filter keeps, clause.position ≤ other.position := by
        intro other hother
        rcases List.mem_cons.mp (List.mem_filter.mp hother).1 with rfl | hother
        · exact hposition
        · exact Nat.le_trans hposition (hnext other hother)
      rw [insertByPosition, if_pos hposition, insertByPosition_of_le hle, List.filter_cons]
    · rw [insertByPosition, if_neg hposition, List.filter_cons, ih hrest, List.filter_cons]
      cases keeps next with
      | false => rfl
      | true =>
        cases keeps clause with
        | false => rfl
        | true => exact (if_neg hposition).symm

/-- Clauses can be left out before they are ordered or after. -/
theorem inOrder_filter (keeps : Clause → Bool) (clauses : List Clause) :
    inOrder (clauses.filter keeps) = (inOrder clauses).filter keeps := by
  induction clauses with
  | nil => rfl
  | cons clause rest ih =>
    calc inOrder ((clause :: rest).filter keeps)
        = if keeps clause then insertByPosition clause (inOrder (rest.filter keeps))
          else inOrder (rest.filter keeps) := by
          rw [List.filter_cons]
          cases keeps clause with
          | false => rfl
          | true => rfl
      _ = (inOrder (clause :: rest)).filter keeps := by
          rw [ih]
          exact (filter_insertByPosition keeps clause (pairwise_inOrder rest)).symm

section Parts

variable (member : Member) (naming : NamingScheme) (clauses : List Clause)

/-- Clauses without effect add nothing to the guards. -/
theorem orderedGuards_filter (isPrecondition : Bool) :
    orderedGuards member naming (clauses.filter (Clause.isEffective member naming))
      isPrecondition = orderedGuards member naming clauses isPrecondition := by
  rw [orderedGuards, inOrder_filter, List.filterMap_filter, orderedGuards]
  refine List.filterMap_congr fun clause _ ↦ ?_
  cases heffective : clause.isEffective member naming with
  | true => rfl
  | false => exact (Clause.guardOn_eq_none heffective isPrecondition).symm

/-- Clauses without effect add nothing to the snapshots. -/
theorem orderedSnapshots_filter :
    orderedSnapshots member naming (clauses.filter (Clause.isEffective member naming)) =
      orderedSnapshots member naming clauses := by
  rw [orderedSnapshots, inOrder_filter, orderedSnapshots]
  induction inOrder clauses with
  | nil => rfl
  | cons clause rest ih =>
    rw [List.filter_cons, List.flatMap_cons, ← ih]
    cases heffective : clause.isEffective member naming with
    | true => rfl
    | false =>
      rw [Clause.snapshots_eq_nil heffective]
      rfl

/-- The body is the one of the effective clauses alone. -/
theorem value_assemble_filter :
    (assemble member naming (clauses.filter (Clause.isEffective member naming))).value =
      (assemble member naming clauses).value := by
  cases htarget : member.target with
  | none => simp only [assemble, htarget]
  | some target =>
    rw [value_assemble naming _ htarget, value_assemble naming _ htarget, orderedSnapshots_filter,
      orderedGuards_filter, orderedGuards_filter]

end Parts

/-- Clauses at different positions can be permuted, and the events stay the same as well. Two lists
that differ only in clauses that compile to nothing, at whatever places and positions, give one
body or one failure. -/
theorem assemble_of_perm_and_of_filter (member : Member) (naming : NamingScheme)
    (clauses others : List Clause) :
    ((clauses.map Clause.position).Nodup → clauses.Perm others →
      assemble member naming clauses = assemble member naming others) ∧
    (clauses.filter (Clause.isEffective member naming) =
        others.filter (Clause.isEffective member naming) →
      (assemble member naming clauses).value = (assemble member naming others).value) := by
  constructor
  · intro hpositions hperm
    unfold assemble
    rw [inOrder_eq_of_perm hperm hpositions]
  · intro hfilter
    calc (assemble member naming clauses).value
        = (assemble member naming
            (clauses.filter (Clause.isEffective member naming))).value :=
          (value_assemble_filter member naming clauses).symm
      _ = (assemble member naming
            (others.filter (Clause.isEffective member naming))).value := by rw [hfilter]
      _ = (assemble member naming others).value := value_assemble_filter member naming others

/-- Two clauses against their order by position. With them stand one of no known form, at the
position of the first, and one with an empty argument, at the position of the second. -/
theorem assemble_of_perm_and_of_filter_withdraw :
    let member : Member :=
      { name := "Withdraw", shape := .method (.value "int"), parameters := [⟨"amount", "int"⟩],
        delegate := some "_contract" }
    let requires : Clause := ⟨"Contract.Requires(amount > 0)", 3⟩
    let ensures : Clause :=
      ⟨"Contract.Ensures(Contract.Result<int>() < Contract.OldValue(amount))", 1⟩
    let unknown : Clause := ⟨"Contract.Assume(amount > 0)", 3⟩
    let malformed : Clause := ⟨"Contract.Requires(amount, )", 1⟩
    ([requires, ensures].map Clause.position).Nodup ∧
      assemble member {} [requires, ensures] = assemble member {} [ensures, requires] ∧
      [unknown, requires, malformed, ensures].filter (Clause.isEffective member {}) =
        [requires, ensures].filter (Clause.isEffective member {}) ∧
      (assemble member {} [unknown, requires, malformed, ensures]).value =
        (assemble member {} [requires, ensures]).value := by
  intro member requires ensures unknown malformed
  have hpositions : ([requires, ensures].map Clause.position).Nodup := by decide
  have hfilter : [unknown, requires, malformed, ensures].filter (Clause.isEffective member {}) =
      [requires, ensures].filter (Clause.isEffective member {}) := by
    decide +kernel
  have hperm := (assemble_of_perm_and_of_filter member {} _ _).1 hpositions (.swap _ _ [])
  have hvalue := (assemble_of_perm_and_of_filter member {} _ _).2 hfilter
  exact ⟨hpositions, hperm, hfilter, hvalue⟩

end MemberBody

end GuardedProxy
