import GuardedProxy.Text.Trim

/-!
# Members and the names used for them

A member is a method, or one accessor of a property. Its body calls the member of the same name on
a delegate target. The naming scheme gives the field that holds the target, the variable that
receives the result of the call and the exception of clauses that name none.
-/

namespace GuardedProxy

structure NamingScheme where
  delegateField : String := "_contract"
  resultVariable : String := "result"
  defaultException : String := "Exception"
deriving DecidableEq, Repr

inductive ReturnType
  | void
  | value (type : String)
deriving DecidableEq, Repr

namespace ReturnType

/-- Blank text and `void` mean that nothing is returned. -/
def parse (text : String) : ReturnType :=
  let type := Text.trimmed text
  if type = "" ∨ type = "void" then void else value type

def text : ReturnType → String
  | void => "void"
  | value type => type

def isVoid : ReturnType → Bool
  | void => true
  | value _ => false

end ReturnType

structure Parameter where
  name : String
  type : String
deriving DecidableEq, Repr

inductive MemberKind
  | method
  | getter
  | setter
deriving DecidableEq, Repr

/-- What a member is, with the type that its kind determines. -/
inductive MemberShape
  | method (returns : ReturnType)
  | getter (type : String)
  | setter
deriving DecidableEq, Repr

namespace MemberShape

def kind : MemberShape → MemberKind
  | method _ => .method
  | getter _ => .getter
  | setter => .setter

def returnType : MemberShape → ReturnType
  | method returns => returns
  | getter type => .value type
  | setter => .void

end MemberShape

structure Member where
  name : String
  shape : MemberShape
  parameters : List Parameter := []
  delegate : Option String := none
deriving DecidableEq, Repr

/-- A body needs a target to call, and the member has none. -/
structure MissingDelegate where
  member : String
deriving DecidableEq, Repr

def MissingDelegate.message (failure : MissingDelegate) : String :=
  "Member '" ++ failure.member ++ "' has no delegate target to call"

namespace Member

def parameterNames (member : Member) : List String := member.parameters.map Parameter.name

/-- The delegate without blanks around it. A blank one is no target. -/
def target (member : Member) : Option String :=
  (member.delegate.map Text.trimmed).filter (· ≠ "")

/-- The same member of the target. -/
def onTarget (member : Member) (target : String) : String := target ++ "." ++ member.name

/-- The expression that passes a call on to the target. -/
def delegatedCall (member : Member) (target : String) : String :=
  match member.shape with
  | .method _ =>
    member.onTarget target ++ "(" ++ String.intercalate ", " member.parameterNames ++ ")"
  | .getter _ => member.onTarget target
  | .setter => member.onTarget target ++ " = value"

/-- The variable that receives the result of the call, if there is one. -/
def resultVariable (member : Member) (naming : NamingScheme) : Option String :=
  if member.shape.returnType.isVoid then none else some naming.resultVariable

/-- What a reference to the result means: the property itself after a setter has run. -/
def resultReference (member : Member) (naming : NamingScheme) : Option String :=
  match member.shape with
  | .setter => member.target.map member.onTarget
  | _ => member.resultVariable naming

end Member

end GuardedProxy
