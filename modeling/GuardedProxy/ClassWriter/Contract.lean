import GuardedProxy.ClassWriter.Basic
import GuardedProxy.OutputName

/-!
# The stub of the contract class

The stub has every member of the interface, with its clauses as statements and a default value to
return. It has no bodies of its own and cannot fail.
-/

namespace GuardedProxy.ClassWriter

def placeholderComment : String := "// Code contract checks here"

def writeStubBody (header : String) (clauses : List String) (returns : ReturnType) :
    WriteM Unit :=
  block header do
    if clauses.isEmpty then line placeholderComment
    forEach (fun clause ↦ line ((Clause.mk clause 0).text ++ ";")) clauses
    if !returns.isVoid then line ("return default(" ++ returns.text ++ ");")

def writeStubAccessor (header : String) (returns : ReturnType) : Option (List String) → WriteM Unit
  | some clauses => writeStubBody header clauses returns
  | none => pure ()

def writeStub : MemberDescription → WriteM Unit
  | .method method =>
    writeStubBody (methodHeader method) method.clauses (ReturnType.parse method.returnType)
  | .property property =>
    block (propertyHeader property) do
      writeStubAccessor "get" (ReturnType.parse property.type) property.getter
      writeStubAccessor "set" .void property.setter

/-- Writes members with an empty line between any two. -/
def writeStubs : List MemberDescription → WriteM Unit
  | [] => pure ()
  | member :: rest => do
    writeStub member
    forEach (fun member ↦ do emptyLine; writeStub member) rest

/-- Writes the stub of the contract class, in its namespace if it has one. -/
def writeContractClass (description : Description) : WriteM Unit :=
  let className := OutputName.contractClass description.interfaceName description.contractClass
  inNamespace description do
    block ("internal abstract class " ++ className ++ " : " ++ description.interfaceName) do
      writeStubs description.members

/-- The text of the stub of the contract class. -/
def contractText (description : Description) : WriteM String := do
  reset
  writeContractClass description
  takeText

end GuardedProxy.ClassWriter
