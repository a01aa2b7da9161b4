import GuardedProxy.Invocation.Arguments
import GuardedProxy.TypeArgument

/-!
# Invocations

A clause has the shape of a call: a head such as `Contract.Requires`, a type argument in angle
brackets or none, and one or more arguments in parentheses. Blanks may stand around the whole,
around each argument, inside the angle brackets and before the opening parenthesis.
-/

namespace GuardedProxy

structure Invocation where
  head : String
  typeArgument : Option String
  arguments : List String
deriving DecidableEq, Repr

namespace Invocation

def isHeadChar (c : Char) : Bool := Text.isAlphanumeric c || c == '_' || c == '.'

/-- An optional type argument. Angle brackets that hold only blanks are refused. -/
def readTypeArgument : List Char → Option (Option String × List Char)
  | '<' :: rest => do
    let (inside, rest) ← TypeArgument.read ('<' :: rest)
    let inside := Text.trim inside
    if inside.isEmpty then none else some (some (String.ofList inside), rest)
  | rest => some (none, rest)

/-- Reads the text as one invocation and nothing else. -/
def parse (text : String) : Option Invocation := do
  let cs := Text.trim text.toList
  let head := cs.takeWhile isHeadChar
  if head.isEmpty then none else
  let (typeArgument, rest) ← readTypeArgument (cs.dropWhile isHeadChar)
  match Text.trimStart rest with
  | '(' :: body => do
    let (arguments, rest) ← readArguments body
    if rest.all Text.isBlank then some ⟨String.ofList head, typeArgument, arguments⟩ else none
  | _ => none

/-- The asserted condition: the first argument. -/
def condition (invocation : Invocation) : Option String := invocation.arguments[0]?

/-- The message expression: the second argument. -/
def message (invocation : Invocation) : Option String := invocation.arguments[1]?

end Invocation

end GuardedProxy
