import GuardedProxy.Description.Basic

/-!
# Faults of a description

A description that can be read may still lack a name, a type or an accessor. The first fault in
the order of the members is the one that is reported.
-/

namespace GuardedProxy

namespace Description

inductive Fault
  | unnamedInterface
  | unnamedMethod (interfaceName : String)
  | incompleteParameter (method : String)
  | unnamedProperty (interfaceName : String)
  | untypedProperty (property : String)
  | noAccessor (property : String)
deriving DecidableEq, Repr

namespace Fault

/-- Where the fault is. -/
def subject : Fault → String
  | unnamedInterface => "<interface>"
  | unnamedMethod interfaceName => interfaceName
  | incompleteParameter method => method
  | unnamedProperty interfaceName => interfaceName
  | untypedProperty property => property
  | noAccessor property => property

def text : Fault → String
  | unnamedInterface => "interface name is empty"
  | unnamedMethod _ => "method without a name"
  | incompleteParameter _ => "parameter needs both a name and a type"
  | unnamedProperty _ => "property without a name"
  | untypedProperty _ => "property without a type"
  | noAccessor _ => "property declares neither a getter nor a setter"

def message (fault : Fault) : String :=
  "Semantic error in member '" ++ fault.subject ++ "': " ++ fault.text

end Fault

def isIncomplete (parameter : Parameter) : Bool :=
  Text.blankText parameter.name || Text.blankText parameter.type

def memberFault (interfaceName : String) : MemberDescription → Option Fault
  | .method method =>
    if Text.blankText method.name then some (.unnamedMethod interfaceName)
    else if method.parameters.any isIncomplete then some (.incompleteParameter method.name)
    else none
  | .property property =>
    if Text.blankText property.name then some (.unnamedProperty interfaceName)
    else if Text.blankText property.type then some (.untypedProperty property.name)
    else if property.getter.isNone && property.setter.isNone then some (.noAccessor property.name)
    else none

def firstFault (description : Description) : Option Fault :=
  if Text.blankText description.interfaceName then some .unnamedInterface
  else description.members.findSome? (memberFault description.interfaceName)

end Description

end GuardedProxy
