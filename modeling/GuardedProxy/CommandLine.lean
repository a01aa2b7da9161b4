import GuardedProxy.Compilation

/-!
# The command line

One argument names the description, options say what to do with it. Options are written `--name
value`, `--name=value` or, for those with a letter, `-o value`, `-ovalue` and `-o=value`, and letters
of flags may share one dash. Each may be given once. A value of its own must not look like an
option. Two dashes end the options. Arguments are taken from left to right: the first one that
cannot be accepted ends the reading, and so does a request for help or for the version.
-/

namespace GuardedProxy.CommandLine

structure Options where
  input : Option String := none
  output : Option String := none
  contractClass : Bool := false
  verbose : Bool := false
  delegateField : Option String := none
  resultVariable : Option String := none
  defaultException : Option String := none
deriving DecidableEq, Repr

/-- Why there is nothing to compile. -/
inductive Stop
  | help
  | version
  | misuse
deriving DecidableEq, Repr

inductive Flag
  | contractClass
  | verbose
  | help
  | version
deriving DecidableEq, Repr

inductive Setting
  | output
  | delegateField
  | resultVariable
  | defaultException
deriving DecidableEq, Repr

inductive Name
  | flag (flag : Flag)
  | setting (setting : Setting)
deriving DecidableEq, Repr

def Name.ofLong : String → Option Name
  | "output" => some (.setting .output)
  | "contract-class" => some (.flag .contractClass)
  | "verbose" => some (.flag .verbose)
  | "delegate-field" => some (.setting .delegateField)
  | "result-var" => some (.setting .resultVariable)
  | "default-exception" => some (.setting .defaultException)
  | "help" => some (.flag .help)
  | "version" => some (.flag .version)
  | _ => none

def Name.ofShort : Char → Option Name
  | 'o' => some (.setting .output)
  | 'v' => some (.flag .verbose)
  | 'h' => some (.flag .help)
  | 'V' => some (.flag .version)
  | _ => none

namespace Options

def raise (options : Options) : Flag → Except Stop Options
  | .contractClass =>
    if options.contractClass then .error .misuse else .ok { options with contractClass := true }
  | .verbose => if options.verbose then .error .misuse else .ok { options with verbose := true }
  | .help => .error .help
  | .version => .error .version

/-- Fills a slot that must be empty. -/
def fill (slot : Option String) (value : String) : Except Stop (Option String) :=
  match slot with
  | none => .ok (some value)
  | some _ => .error .misuse

/-- A directory and a file need a name, the other settings may be empty. -/
def fillPath (slot : Option String) (path : String) : Except Stop (Option String) :=
  if path.isEmpty then .error .misuse else fill slot path

def assign (options : Options) (setting : Setting) (value : String) : Except Stop Options :=
  match setting with
  | .output => do return { options with output := ← fillPath options.output value }
  | .delegateField => do
    return { options with delegateField := ← fill options.delegateField value }
  | .resultVariable => do
    return { options with resultVariable := ← fill options.resultVariable value }
  | .defaultException => do
    return { options with defaultException := ← fill options.defaultException value }

def addInput (options : Options) (path : String) : Except Stop Options := do
  return { options with input := ← fillPath options.input path }

end Options

/-- What an argument leaves behind: the options so far, and a setting that still needs its value. -/
abbrev Step := Except Stop (Options × Option Setting)

/-- The value that is joined to a letter, after an equals sign or without one. -/
def joinedValue : List Char → List Char
  | '=' :: value => value
  | value => value

/-- Takes the letters behind one dash. -/
def takeLetters (options : Options) : List Char → Step
  | [] => .ok (options, none)
  | letter :: rest =>
    match Name.ofShort letter with
    | some (.flag flag) => do takeLetters (← options.raise flag) rest
    | some (.setting setting) =>
      if rest.isEmpty then .ok (options, some setting)
      else do return (← options.assign setting (String.ofList (joinedValue rest)), none)
    | none => .error .misuse

/-- Takes the name behind two dashes, with the value behind an equals sign if there is one. -/
def takeLong (options : Options) (name : List Char) (value : Option (List Char)) : Step :=
  match Name.ofLong (String.ofList name), value with
  | some (.flag flag), none => do return (← options.raise flag, none)
  | some (.flag _), some _ => .error .misuse
  | some (.setting setting), some value => do
    return (← options.assign setting (String.ofList value), none)
  | some (.setting setting), none => .ok (options, some setting)
  | none, _ => .error .misuse

/-- Splits at the first equals sign. -/
def splitEquals (cs : List Char) : List Char × Option (List Char) :=
  match cs.dropWhile (· ≠ '=') with
  | [] => (cs, none)
  | _ :: value => (cs.takeWhile (· ≠ '='), some value)

/-- Whether an argument is taken for options. A single dash is not. -/
def looksLikeOption (argument : String) : Bool :=
  argument.toList.head? = some '-' && argument ≠ "-"

def takeOption (options : Options) (argument : String) : Step :=
  match argument.toList with
  | '-' :: '-' :: rest => takeLong options (splitEquals rest).1 (splitEquals rest).2
  | '-' :: rest => takeLetters options rest
  | _ => .error .misuse

def takeInputs (options : Options) : List String → Except Stop Options
  | [] => .ok options
  | argument :: rest => do takeInputs (← options.addInput argument) rest

/-- Takes the arguments, the first of them for the setting that still needs a value, if any. -/
def takeArguments (options : Options) (pending : Option Setting) :
    List String → Except Stop Options
  | [] => if pending.isSome then .error .misuse else .ok options
  | argument :: rest =>
    match pending with
    | some setting =>
      if looksLikeOption argument then .error .misuse
      else do takeArguments (← options.assign setting argument) none rest
    | none =>
      if argument = "--" then takeInputs options rest
      else if looksLikeOption argument then do
        let (options, pending) ← takeOption options argument
        takeArguments options pending rest
      else do takeArguments (← options.addInput argument) none rest

def Options.request (options : Options) : Except Stop Request :=
  match options.input with
  | none => .error .misuse
  | some input =>
    let standard : NamingScheme := {}
    .ok ⟨input, options.output, options.verbose,
      ⟨options.delegateField.getD standard.delegateField,
        options.resultVariable.getD standard.resultVariable,
        options.defaultException.getD standard.defaultException⟩,
      if options.contractClass then .contract else .proxy⟩

/-- The request that a command line makes. -/
def parse (arguments : List String) : Except Stop Request := do
  (← takeArguments {} none arguments).request

def versionText : String := "contractc 0.1.0\n"

def usageLine : String := "Usage: contractc [OPTIONS] <FILE>\n"

def misuseText : String :=
  "error: invalid arguments\n\n" ++ usageLine ++ "\nFor more information, try '--help'.\n"

def helpText : String :=
  "Generates contract-checking proxy classes from interface contract descriptions\n\n" ++
  usageLine ++
  "\nArguments:\n" ++
  "  <FILE>  Interface description (JSON)\n" ++
  "\nOptions:\n" ++
  "  -o, --output <DIR>              " ++
  "Output directory for the generated class; prints to stdout when absent\n" ++
  "      --contract-class            Generate the contract class stub instead of the proxy\n" ++
  "  -v, --verbose                   Enable verbose output\n" ++
  "      --delegate-field <NAME>     " ++
  "Field holding the wrapped implementation [default: _contract]\n" ++
  "      --result-var <NAME>         " ++
  "Local variable receiving the delegated call's result [default: result]\n" ++
  "      --default-exception <TYPE>  " ++
  "Exception thrown by clauses that do not declare one [default: Exception]\n" ++
  "  -h, --help                      Print help\n" ++
  "  -V, --version                   Print version\n"

/-- What a run of the command line leaves behind. -/
structure Report where
  exitCode : Nat
  output : String := ""
  errors : String := ""
  events : List Event := []

def Stop.report : Stop → Report
  | help => ⟨0, helpText, "", []⟩
  | version => ⟨0, versionText, "", []⟩
  | misuse => ⟨2, "", misuseText, []⟩

def successText (output : Output) : String :=
  "Compilation successful!\n  Source: " ++ output.sourceFile ++ "\n  Class: " ++ output.className ++
    " (" ++ toString output.bodies.length ++ " member bodies)\n"

def outcomeReport (request : Request) (outcome : Traced (Except Failure Output)) : Report :=
  match outcome.value with
  | .error failure => ⟨1, "", "Compilation failed: " ++ failure.fullMessage ++ "\n", outcome.events⟩
  | .ok output =>
    match output.writtenTo with
    | some path =>
      ⟨0, path ++ "\n", if request.verbose then successText output else "", outcome.events⟩
    | none => ⟨0, output.text, "", outcome.events⟩

variable {m : Type → Type} [Monad m] [FileStore m]

def run (arguments : List String) : m Report := do
  match parse arguments with
  | .error stop => return stop.report
  | .ok request => return outcomeReport request (← request.compileFile)

end GuardedProxy.CommandLine
