import GuardedProxy.Path
import GuardedProxy.Text.Trim

/-!
# Names of generated classes and files

From an interface two classes can be generated: the proxy that checks its contract, and the stub
of the contract class that holds its clauses. An input named `X.contract.json` decides the file
name, any other leaves it to the name of the interface.
-/

namespace GuardedProxy

inductive ClassKind
  | proxy
  | contract
deriving DecidableEq, Repr

namespace OutputName

/-- The text before a suffix, if the text ends in it. -/
def beforeSuffix (suffix text : String) : Option String :=
  if suffix.toList.isSuffixOf text.toList then
    some (String.ofList (text.toList.take (text.toList.length - suffix.toList.length)))
  else none

/-- A contract class lends its name, less its own suffix, to the proxy. -/
def proxyClass (interfaceName : String) (contractClass : Option String) : String :=
  match contractClass with
  | some className => (beforeSuffix "_Contract" className).getD className ++ "_Proxy"
  | none => interfaceName ++ "_Proxy"

def defaultContractClass (interfaceName : String) : String := interfaceName ++ "_Contract"

def contractClass (interfaceName : String) (contractClass : Option String) : String :=
  contractClass.getD (defaultContractClass interfaceName)

def defaultProxyFile (interfaceName : String) : String := interfaceName ++ ".proxy.cs"

def defaultContractFile (interfaceName : String) : String := interfaceName ++ ".contract.cs"

/-- The proxy's file beside a contract's file. -/
def proxyFile (contractFile : String) : String :=
  String.ofList (Text.replaceAll ".contract".toList ".proxy".toList contractFile.toList)

/-- The stem of an input that holds a contract by its name. -/
def contractStem (input : String) : Option String :=
  ((Path.lastName input).map Path.stem).filter fun stem ↦
    ".contract".toList.isSuffixOf stem.toList

def className (kind : ClassKind) (interfaceName : String) (givenClass : Option String) : String :=
  match kind with
  | .proxy => proxyClass interfaceName givenClass
  | .contract => contractClass interfaceName givenClass

def fileName (kind : ClassKind) (input interfaceName : String) : String :=
  match kind, contractStem input with
  | .proxy, some stem => proxyFile stem ++ ".cs"
  | .proxy, none => defaultProxyFile interfaceName
  | .contract, some stem => stem ++ ".cs"
  | .contract, none => defaultContractFile interfaceName

end OutputName

end GuardedProxy
