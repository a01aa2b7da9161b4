import GuardedProxy.ClassWriter.Contract
import GuardedProxy.ClassWriter.Proxy
import GuardedProxy.Description.Decode
import GuardedProxy.Description.Fault
import GuardedProxy.FileStore

/-!
# Compiling a description to a class

The text of a description is read and checked, and the class that was asked for is generated from
it. When the description is in a file and a directory for the output is given, the class goes into
a file there. Nothing is created for a description that fails.
-/

namespace GuardedProxy

structure Request where
  input : String
  outputDirectory : Option String := none
  verbose : Bool := false
  naming : NamingScheme := {}
  kind : ClassKind := .proxy
deriving DecidableEq, Repr

/-- A generated class. -/
structure Output where
  sourceFile : String
  interfaceName : String
  kind : ClassKind
  className : String
  fileName : String
  text : String
  bodies : List WrittenBody
  writtenTo : Option String
deriving DecidableEq, Repr

inductive Failure
  | fileNotFound (path : String)
  | inaccessible (error : FileError)
  | unreadable (file : String) (problem : Description.Problem)
  | faulty (fault : Description.Fault)
  | unassembled (cause : MissingDelegate)

namespace Failure

def message : Failure → String
  | fileNotFound path => "File not found: " ++ path
  | inaccessible error => "I/O error: " ++ error.reason
  | unreadable file problem =>
    "Invalid interface description in " ++ file ++ ": " ++ problem.message
  | faulty fault => fault.message
  | unassembled cause => "Clause compilation error: " ++ cause.message

/-- The text of what lies behind a failure, where that is told apart from it. -/
def cause : Failure → Option String
  | inaccessible error => some error.reason
  | unassembled cause => some cause.message
  | _ => none

/-- The failure followed by what lies behind it. -/
def fullMessage (failure : Failure) : String :=
  match failure.cause with
  | some cause => failure.message ++ ": " ++ cause
  | none => failure.message

end Failure

def ClassWriter.classText (kind : ClassKind) (description : Description) : WriteM String :=
  match kind with
  | .proxy => proxyText description
  | .contract => contractText description

abbrev CompileM := ExceptT Failure Traced

namespace Request

def record (event : Event) : CompileM Unit := ExceptT.lift (Traced.record event)

/-- The text of the class that was asked for, and the bodies in it. -/
def generate (request : Request) (description : Description) :
    CompileM (String × List WrittenBody) := do
  let action := ClassWriter.classText request.kind description
  let (outcome, writer) ← ExceptT.lift (action.run.run ⟨request.naming, 0, "", []⟩)
  match outcome with
  | .ok text => return (text, writer.bodies)
  | .error cause => throw (.unassembled cause)

/-- Reads a description that has no fault. -/
def readDescription (request : Request) (source : String) : CompileM Description :=
  match Description.read source with
  | .error problem => throw (.unreadable request.input problem)
  | .ok description =>
    match description.firstFault with
    | some fault => throw (.faulty fault)
    | none => return description

def compileText (request : Request) (source : String) : CompileM Output := do
  let description ← request.readDescription source
  let name := description.interfaceName
  record (.interfaceRead request.verbose name description.members.length)
  let (text, bodies) ← request.generate description
  record (.classGenerated request.verbose bodies.length (Text.byteLength text.toList))
  return ⟨request.input, name, request.kind,
    OutputName.className request.kind name description.contractClass,
    OutputName.fileName request.kind request.input name, text, bodies, none⟩

variable {m : Type → Type} [Monad m] [FileStore m]

/-- Puts a class into a file of the directory and gives the path of the file. -/
def store (directory : String) (output : Output) : m (Except FileError String) := do
  match ← FileStore.createDirectories directory with
  | .error error => return .error error
  | .ok () =>
    let path := Path.join directory output.fileName
    match ← FileStore.writeText path output.text with
    | .error error => return .error error
    | .ok () => return .ok path

/-- Compiles the description in the input file. -/
def compileFile (request : Request) : m (Traced (Except Failure Output)) := do
  if !(← FileStore.pathExists request.input) then
    return ⟨[], .error (.fileNotFound request.input)⟩
  match ← FileStore.readText request.input with
  | .error error => return ⟨[], .error (.inaccessible error)⟩
  | .ok source =>
    let compiled := (request.compileText source).run
    match compiled.value, request.outputDirectory with
    | .ok output, some directory =>
      match ← store directory output with
      | .error error => return ⟨compiled.events, .error (.inaccessible error)⟩
      | .ok path =>
        let written := Event.classWritten request.verbose path output.className
        return ⟨compiled.events ++ [written], .ok { output with writtenTo := some path }⟩
    | _, _ => return compiled

end Request

end GuardedProxy
