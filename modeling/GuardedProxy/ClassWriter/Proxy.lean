import GuardedProxy.ClassWriter.Basic
import GuardedProxy.OutputName

/-!
# The proxy class

The proxy keeps an implementation of the interface in a field and passes every member on to it
through an assembled body, which is assembled before its header is written.
-/

namespace GuardedProxy.ClassWriter

/-- The parameter of the constructor: the field's name without the underscores in front. -/
def constructorParameter (field : String) : String :=
  match field.toList.dropWhile (· = '_') with
  | [] => "implementation"
  | c :: cs => String.ofList (c :: cs)

/-- The assignment of the constructor. A field named like the parameter needs qualifying. -/
def fieldAssignment (field : String) : String :=
  let parameter := constructorParameter field
  (if parameter = field then "this." else "") ++ field ++ " = " ++ parameter ++ ";"

def writeConstructor (className interfaceName : String) : WriteM Unit := do
  let field := (← get).naming.delegateField
  line ("private readonly " ++ interfaceName ++ " " ++ field ++ ";")
  emptyLine
  let parameter := interfaceName ++ " " ++ constructorParameter field
  block ("public " ++ className ++ "(" ++ parameter ++ ")") (line (fieldAssignment field))

def writeStatement : Statement → WriteM Unit
  | .check guard => block guard.test (line guard.throwing)
  | statement => line statement.text

/-- Writes a member or accessor under its header and notes its body. -/
def writeMemberBody (header : String) (member : Member) (clauses : List String) :
    WriteM Unit := do
  let body ← assemble member (Clause.ofStatements clauses)
  block header (forEach writeStatement body.statements)
  addBody ⟨member.name, member.shape.kind, body⟩

def writeMethod (method : MethodDescription) : WriteM Unit := do
  let naming := (← get).naming
  writeMemberBody (methodHeader method) (method.member naming) method.clauses

/-- Writes an accessor, if the property declares it. -/
def writeAccessor (header : String) (member : Member) : Option (List String) → WriteM Unit
  | some clauses => writeMemberBody header member clauses
  | none => pure ()

def writeProperty (property : PropertyDescription) : WriteM Unit := do
  let naming := (← get).naming
  block (propertyHeader property) do
    writeAccessor "get" (property.getterMember naming) property.getter
    writeAccessor "set" (property.setterMember naming) property.setter

def writeMember (member : MemberDescription) : WriteM Unit := do
  emptyLine
  match member with
  | .method method => writeMethod method
  | .property property => writeProperty property

/-- Writes the proxy class, in its namespace if it has one. -/
def writeProxyClass (description : Description) : WriteM Unit :=
  let className := OutputName.proxyClass description.interfaceName description.contractClass
  inNamespace description do
    block ("public sealed class " ++ className ++ " : " ++ description.interfaceName) do
      writeConstructor className description.interfaceName
      forEach writeMember description.members

/-- The text of the proxy class. -/
def proxyText (description : Description) : WriteM String := do
  reset
  writeProxyClass description
  takeText

end GuardedProxy.ClassWriter
