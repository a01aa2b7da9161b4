import GuardedProxy.Decimal.FloatText
import GuardedProxy.Json.Tree
import GuardedProxy.Text.Quoted

/-!
# What is wrong with the text of a description

The first problem from left to right is the one that is reported. A text that is no JSON at all is
told apart from one that does not have the shape of a description.
-/

namespace GuardedProxy.Description

/-- What stands in the text where something else was wanted. -/
inductive Found
  | null
  | bool (value : Bool)
  | number (value : Json.Number)
  | string (value : String)
  | sequence
  | map

inductive Wanted
  | string
  | sequence
  | description
  | parameter
  | member
  | memberKind
deriving DecidableEq, Repr

/-- The records of a description, each of which may also be written as a sequence. -/
inductive RecordKind
  | description
  | method
  | parameter
  | property
deriving DecidableEq, Repr

inductive Problem
  | malformed
  | missingField (name : String)
  | duplicateField (name : String)
  | unknownKind (kind : String)
  | wrongType (found : Found) (wanted : Wanted)
  | tooShort (count : Nat) (kind : RecordKind)
  | tooLong (count : Nat) (kind : RecordKind)

namespace Found

/-- What a value is, unless it has a fault of its own. -/
def ofTree : Json.Tree → Option Found
  | .null => some null
  | .bool value => some (bool value)
  | .number value => value.map number
  | .string value => value.map string
  | .array .. => some sequence
  | .object .. => some map
  | .broken => none

def text : Found → String
  | null => "null"
  | bool value => "boolean \x60" ++ (if value then "true" else "false") ++ "\x60"
  | number (.integer value) => "integer \x60" ++ toString value ++ "\x60"
  | number (.float value) => "floating point \x60" ++ Decimal.floatText value ++ "\x60"
  | string value => "string " ++ Text.quoted value
  | sequence => "sequence"
  | map => "map"

end Found

namespace RecordKind

/-- How many fields a record has. -/
def size : RecordKind → Nat
  | description => 4
  | method => 4
  | parameter => 2
  | property => 4

def text : RecordKind → String
  | description => "struct InterfaceDecl"
  | method => "struct MethodDecl"
  | parameter => "struct ParamDecl"
  | property => "struct PropertyDecl"

end RecordKind

def Wanted.text : Wanted → String
  | string => "a string"
  | sequence => "a sequence"
  | description => RecordKind.description.text
  | parameter => RecordKind.parameter.text
  | member => "internally tagged enum MemberDecl"
  | memberKind => "variant identifier"

def Problem.message : Problem → String
  | malformed => "malformed JSON"
  | missingField name => "missing field \x60" ++ name ++ "\x60"
  | duplicateField name => "duplicate field \x60" ++ name ++ "\x60"
  | unknownKind kind =>
    "unknown variant \x60" ++ kind ++ "\x60, expected \x60method\x60 or \x60property\x60"
  | wrongType found wanted => "invalid type: " ++ found.text ++ ", expected " ++ wanted.text
  | tooShort count kind =>
    "invalid length " ++ toString count ++ ", expected " ++ kind.text ++ " with " ++
      toString kind.size ++ " elements"
  | tooLong count kind =>
    "invalid length " ++ toString count ++ ", expected " ++ toString kind.size ++
      " elements in sequence"

end GuardedProxy.Description
