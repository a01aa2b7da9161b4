import GuardedProxy.Invocation.Basic

/-!
# Contract clauses

A clause is one declarative statement, such as `Contract.Requires(x > 0);`, with a position that
orders it among the clauses of its member. Its form is told from how its text begins, the forms
being tried from the highest rank to the lowest.
-/

namespace GuardedProxy

structure Clause where
  source : String
  position : Nat := 0
deriving DecidableEq, Repr

/-- The statement without the blanks around it and without one closing semicolon. -/
def Clause.text (clause : Clause) : String :=
  let cs := Text.trim clause.source.toList
  if cs.getLast? = some ';' then String.ofList (Text.trimEnd cs.dropLast) else String.ofList cs

def Clause.invocation (clause : Clause) : Option Invocation := Invocation.parse clause.text

/-- The clauses of a list of statements, at positions 0, 1 and so on. -/
def Clause.ofStatements (statements : List String) : List Clause :=
  statements.zipIdx.map fun (statement, position) ↦ ⟨statement, position⟩

inductive ClauseForm
  | typedPrecondition
  | untypedPrecondition
  | postcondition
  | unrecognized
deriving DecidableEq, Repr

namespace ClauseForm

/-- All forms, the one that is tried first at the head. -/
def ranked : List ClauseForm :=
  [typedPrecondition, untypedPrecondition, postcondition, unrecognized]

def rank : ClauseForm → Nat
  | typedPrecondition => 100
  | untypedPrecondition => 80
  | postcondition => 60
  | unrecognized => 0

/-- How the text of a clause of this form begins. -/
def opening : ClauseForm → Option String
  | typedPrecondition => some "Contract.Requires<"
  | untypedPrecondition => some "Contract.Requires("
  | postcondition => some "Contract.Ensures("
  | unrecognized => none

def label : ClauseForm → String
  | typedPrecondition => "typed precondition"
  | untypedPrecondition => "untyped precondition"
  | postcondition => "postcondition"
  | unrecognized => "unrecognized"

def accepts (form : ClauseForm) (text : String) : Bool :=
  match form.opening with
  | some opening => opening.toList.isPrefixOf text.toList
  | none => true

end ClauseForm

/-- The first form, by rank, that accepts the text of the clause. -/
def Clause.form (clause : Clause) : ClauseForm :=
  (ClauseForm.ranked.find? (·.accepts clause.text)).getD .unrecognized

end GuardedProxy
