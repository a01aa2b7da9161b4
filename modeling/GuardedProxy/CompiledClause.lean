import GuardedProxy.Event
import GuardedProxy.Member
import GuardedProxy.Reference.Result
import GuardedProxy.Statement

/-!
# What a clause compiles to

A clause in one of the recognized forms, with one or two arguments, becomes a guard. A precondition
that refers to the result is checked after the call, as every postcondition is, and there each
reference to the result is replaced by what holds it. References to old values become snapshot
variables. Any other clause is dropped, and the trace says why.
-/

namespace GuardedProxy

structure CompiledClause where
  form : ClauseForm
  guard : Option Guard
  isPrecondition : Bool
  snapshots : List Snapshot
deriving DecidableEq, Repr

/-- A clause that contributes nothing to the body. -/
def CompiledClause.dropped (form : ClauseForm) : CompiledClause := ⟨form, none, true, []⟩

/-- The string literal that reports a failed condition. Its double quotes become single ones. -/
def failureMessage (label condition : String) : String :=
  let condition := String.ofList (condition.toList.map fun c ↦ if c = '"' then '\'' else c)
  "\"" ++ label ++ " (" ++ condition ++ ") is not satisfied!\""

namespace Clause

/-- The exception that the guard of a clause throws. A typed precondition names its own. -/
def exceptionType (naming : NamingScheme) (form : ClauseForm) (invocation : Invocation) :
    Option String :=
  match form with
  | .typedPrecondition => invocation.typeArgument
  | .untypedPrecondition => some naming.defaultException
  | .postcondition => some naming.defaultException
  | .unrecognized => none

def messageLabel : ClauseForm → String
  | .postcondition => "Postcondition"
  | _ => "Precondition"

/-- Whether the guard stands before the call. -/
def guardsEntry (form : ClauseForm) (condition : String) : Bool :=
  form != .postcondition && !ResultReference.occursIn condition

/-- The condition as it is checked, before old values are replaced. -/
def checkedCondition (member : Member) (naming : NamingScheme) (isPrecondition : Bool)
    (condition : String) : String :=
  if isPrecondition then condition else
  match member.resultReference naming with
  | some reference => ResultReference.substitute reference condition
  | none => condition

/-- The guard and the snapshots of a clause, unless it is malformed for the form. -/
def compileGuard (member : Member) (naming : NamingScheme) (form : ClauseForm) (clause : Clause) :
    Option CompiledClause := do
  let invocation ← clause.invocation
  if 2 < invocation.arguments.length then none else
  let condition ← invocation.condition
  let exceptionType ← exceptionType naming form invocation
  let isPrecondition := guardsEntry form condition
  let checked := checkedCondition member naming isPrecondition condition
  let message := invocation.message.getD (failureMessage (messageLabel form) condition)
  some ⟨form, some ⟨OldValue.substitute checked, exceptionType, message⟩, isPrecondition,
    OldValue.snapshots checked⟩

/-- Compiles a clause as if it had the given form. -/
def compileAs (member : Member) (naming : NamingScheme) (form : ClauseForm) (clause : Clause) :
    Traced CompiledClause :=
  match form with
  | .unrecognized => do
    Traced.record (.clauseDropped member.name clause.text)
    return .dropped form
  | form =>
    match compileGuard member naming form clause with
    | some compiled => do
      Traced.record
        (.clauseCompiled member.name form compiled.isPrecondition compiled.snapshots.length)
      return compiled
    | none => do
      Traced.record (.clauseMalformed member.name clause.text form)
      return .dropped form

def compile (member : Member) (naming : NamingScheme) (clause : Clause) : Traced CompiledClause :=
  clause.compileAs member naming clause.form

end Clause

end GuardedProxy
