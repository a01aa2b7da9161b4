import GuardedProxy.CompiledClause

/-!
# Bodies of members

A body takes its snapshots, checks the preconditions, calls the target once, checks the
postconditions and returns the result, if there is one. The clauses come in by position, those at
one position in the given order, and each identifier is kept by one snapshot at most.
-/

namespace GuardedProxy

structure MemberBody where
  statements : List Statement
deriving DecidableEq, Repr

namespace MemberBody

/-- The place of the call. -/
def callIndex (body : MemberBody) : Nat := (body.statements.findIdx? Statement.isCall).getD 0

def preconditions (body : MemberBody) : List Guard :=
  (body.statements.take body.callIndex).filterMap Statement.guard?

def postconditions (body : MemberBody) : List Guard :=
  (body.statements.drop body.callIndex).filterMap Statement.guard?

def snapshots (body : MemberBody) : List Snapshot := body.statements.filterMap Statement.snapshot?

/-- Puts a clause before the first one that does not stand at an earlier position. -/
def insertByPosition (clause : Clause) : List Clause → List Clause
  | [] => [clause]
  | next :: rest =>
    if clause.position ≤ next.position then clause :: next :: rest
    else next :: insertByPosition clause rest

/-- Clauses in the order of their positions, those at one position as they were given. -/
def inOrder (clauses : List Clause) : List Clause := clauses.foldr insertByPosition []

/-- Keeps the first snapshot of each identifier that is not among those seen. -/
def firstOfEach (seen : List String) : List Snapshot → List Snapshot
  | [] => []
  | snapshot :: rest =>
    if snapshot.identifier ∈ seen then firstOfEach seen rest
    else snapshot :: firstOfEach (snapshot.identifier :: seen) rest

/-- The guards of one side of the call. -/
def guardsOf (isPrecondition : Bool) (compiled : List CompiledClause) : List Guard :=
  (compiled.filter (·.isPrecondition = isPrecondition)).filterMap CompiledClause.guard

/-- Writes the body of a member, or finds that it has no target to call. -/
def assemble (member : Member) (naming : NamingScheme) (clauses : List Clause) :
    Traced (Except MissingDelegate MemberBody) :=
  match member.target with
  | none => return .error ⟨member.name⟩
  | some target => do
    let compiled ← Traced.sequence ((inOrder clauses).map (·.compile member naming))
    let snapshots := firstOfEach [] (compiled.flatMap CompiledClause.snapshots)
    let preconditions := guardsOf true compiled
    let postconditions := guardsOf false compiled
    let result := member.resultVariable naming
    Traced.record (.bodyAssembled member.name snapshots.length preconditions.length
      postconditions.length)
    return .ok ⟨snapshots.map .keep ++ preconditions.map .check ++
      [.call (member.delegatedCall target) result] ++ postconditions.map .check ++
      (result.map .giveBack).toList⟩

end MemberBody

end GuardedProxy
