import GuardedProxy.CommandLine

/-!
# The program

Runs the command line on the files of the machine. Events go to the standard error stream: all of
them when progress was asked for, otherwise warnings only.
-/

namespace GuardedProxy

def attempt {α : Type} (action : IO α) : IO (Except FileError α) := do
  match ← action.toBaseIO with
  | .ok value => return .ok value
  | .error error => return .error (.other error.toString)

def readUtf8 (path : String) : IO (Except FileError String) := do
  match ← attempt (IO.FS.readBinFile path) with
  | .error error => return .error error
  | .ok bytes => return (String.fromUTF8? bytes).elim (.error .notText) .ok

instance : FileStore IO where
  pathExists path := do
    if path.isEmpty then return false
    return (← attempt (do (← IO.FS.realPath path).pathExists)).toOption.getD false
  readText := readUtf8
  createDirectories path := do
    if path.isEmpty then return .ok ()
    attempt (IO.FS.createDirAll path)
  writeText path text := attempt (IO.FS.writeFile path text)

def isShown (verbose : Bool) (event : Event) : Bool := verbose || event.level == .warn

def isVerbose (arguments : List String) : Bool :=
  match CommandLine.parse arguments with
  | .ok request => request.verbose
  | .error _ => false

end GuardedProxy

open GuardedProxy in
def main (arguments : List String) : IO UInt32 := do
  let report ← CommandLine.run (m := IO) arguments
  for event in report.events.filter (isShown (isVerbose arguments)) do
    IO.eprintln event.message
  IO.eprint report.errors
  IO.print report.output
  return report.exitCode.toUInt32
