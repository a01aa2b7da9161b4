import GuardedProxy.Description.Basic
import GuardedProxy.MemberBody

/-!
# Writing indented class text

A class writer holds the text written so far, the depth of the block it is in and the bodies that
it has written. Writing a class can fail at a member that has no target to call. The writer then
keeps what it had, and starts afresh with the next class.
-/

namespace GuardedProxy

/-- The body of a member as it went into a class. -/
structure WrittenBody where
  member : String
  kind : MemberKind
  body : MemberBody
deriving DecidableEq, Repr

structure ClassWriter where
  naming : NamingScheme
  depth : Nat := 0
  text : String := ""
  bodies : List WrittenBody := []
deriving DecidableEq, Repr

/-- An action of a class writer. -/
abbrev WriteM := ExceptT MissingDelegate (StateT ClassWriter Traced)

namespace ClassWriter

def indentation (depth : Nat) : String := String.join (List.replicate depth "    ")

/-- The writer with one more line at its depth. -/
def addLine (writer : ClassWriter) (line : String) : ClassWriter :=
  { writer with text := writer.text ++ indentation writer.depth ++ line ++ "\n" }

def line (text : String) : WriteM Unit := modify (·.addLine text)

def emptyLine : WriteM Unit := modify fun writer ↦ { writer with text := writer.text ++ "\n" }

def openBlock : WriteM Unit := do
  line "\x7b"
  modify fun writer ↦ { writer with depth := writer.depth + 1 }

def closeBlock : WriteM Unit := do
  modify fun writer ↦ { writer with depth := writer.depth - 1 }
  line "\x7d"

/-- A header line and the block that belongs to it. -/
def block (header : String) (content : WriteM Unit) : WriteM Unit := do
  line header
  openBlock
  content
  closeBlock

def reset : WriteM Unit := modify fun writer ↦ ⟨writer.naming, 0, "", []⟩

/-- The text written, which the writer gives away. -/
def takeText : WriteM String := do
  let writer ← get
  set { writer with text := "" }
  return writer.text

def addBody (body : WrittenBody) : WriteM Unit :=
  modify fun writer ↦ { writer with bodies := writer.bodies ++ [body] }

def forEach {α : Type} (write : α → WriteM Unit) : List α → WriteM Unit
  | [] => pure ()
  | value :: rest => do
    write value
    forEach write rest

/-- Assembles a body. A failure ends the class. -/
def assemble (member : Member) (clauses : List Clause) : WriteM MemberBody := do
  let writer ← get
  ExceptT.mk (StateT.lift (MemberBody.assemble member writer.naming clauses))

/-- Writes content in the namespace of the description, if it has one. -/
def inNamespace (description : Description) (content : WriteM Unit) : WriteM Unit :=
  match description.namespaceName with
  | some name => block ("namespace " ++ name) content
  | none => content

def parameterList (parameters : List Parameter) : String :=
  String.intercalate ", " (parameters.map fun parameter ↦ parameter.type ++ " " ++ parameter.name)

def methodHeader (method : MethodDescription) : String :=
  "public " ++ (ReturnType.parse method.returnType).text ++ " " ++ method.name ++ "(" ++
    parameterList method.parameters ++ ")"

def propertyHeader (property : PropertyDescription) : String :=
  "public " ++ property.type ++ " " ++ property.name

end ClassWriter

end GuardedProxy
