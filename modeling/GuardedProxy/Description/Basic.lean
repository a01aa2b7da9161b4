import GuardedProxy.Clause
import GuardedProxy.Member

/-!
# Descriptions of interfaces

A description names an interface, the class that holds its contract and the namespace of the
generated class, and lists the members in order. A method has its clauses, and a property has
clauses for each accessor that it declares.
-/

namespace GuardedProxy

structure MethodDescription where
  name : String
  returnType : String
  parameters : List Parameter
  clauses : List String
deriving DecidableEq, Repr

structure PropertyDescription where
  name : String
  type : String
  getter : Option (List String)
  setter : Option (List String)
deriving DecidableEq, Repr

inductive MemberDescription
  | method (method : MethodDescription)
  | property (property : PropertyDescription)
deriving DecidableEq, Repr

structure Description where
  interfaceName : String
  contractClass : Option String
  namespaceName : Option String
  members : List MemberDescription
deriving DecidableEq, Repr

/-- The method as a member that calls the delegate field. -/
def MethodDescription.member (method : MethodDescription) (naming : NamingScheme) : Member :=
  ⟨method.name, .method (ReturnType.parse method.returnType), method.parameters,
    some naming.delegateField⟩

namespace PropertyDescription

def getterMember (property : PropertyDescription) (naming : NamingScheme) : Member :=
  ⟨property.name, .getter property.type, [], some naming.delegateField⟩

def setterMember (property : PropertyDescription) (naming : NamingScheme) : Member :=
  ⟨property.name, .setter, [], some naming.delegateField⟩

end PropertyDescription

end GuardedProxy
