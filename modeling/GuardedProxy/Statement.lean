import GuardedProxy.Reference.OldValue

/-!
# Statements of a generated body

A body is made of four kinds of statement. A snapshot keeps a value, a guard throws unless its
condition holds, the call passes the work on, and the return hands back the result.
-/

namespace GuardedProxy

/-- Throws an exception with a message unless the condition holds. -/
structure Guard where
  condition : String
  exceptionType : String
  message : String
deriving DecidableEq, Repr

inductive Statement
  | keep (snapshot : Snapshot)
  | check (guard : Guard)
  | call (expression : String) (result : Option String)
  | giveBack (variableName : String)
deriving DecidableEq, Repr

def Guard.test (guard : Guard) : String := "if (!(" ++ guard.condition ++ "))"

def Guard.throwing (guard : Guard) : String :=
  "throw new " ++ guard.exceptionType ++ "(" ++ guard.message ++ ");"

namespace Statement

/-- The statement on one line. -/
def text : Statement → String
  | keep snapshot => "var " ++ snapshot.variableName ++ " = " ++ snapshot.identifier ++ ";"
  | check guard => guard.test ++ " " ++ guard.throwing
  | call expression (some result) => "var " ++ result ++ " = " ++ expression ++ ";"
  | call expression none => expression ++ ";"
  | giveBack variableName => "return " ++ variableName ++ ";"

def snapshot? : Statement → Option Snapshot
  | keep snapshot => some snapshot
  | _ => none

def guard? : Statement → Option Guard
  | check guard => some guard
  | _ => none

def isCall : Statement → Bool
  | call .. => true
  | _ => false

end Statement

end GuardedProxy
