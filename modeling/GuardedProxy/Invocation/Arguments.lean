import GuardedProxy.Text.Trim

/-!
# Argument lists

The text after an opening parenthesis is divided at the commas that stand outside every bracket
and every literal, up to the parenthesis that closes the list. A string or character literal ends
at its own quote, where a backslash takes the next character with it. In a verbatim string, which
an at sign opens, a quote is written twice instead. Brackets are counted without regard to their
kind.
-/

namespace GuardedProxy.Invocation

/-- Where the reader stands: in code, in a literal that ends at the given quote, or in a verbatim
string. -/
inductive Mode
  | code
  | quoted (quote : Char)
  | verbatim
deriving DecidableEq, Repr

/-- The argument spelled by the characters read, latest first. A blank one is no argument. -/
def argument? (piece : List Char) : Option String :=
  match Text.trim piece.reverse with
  | [] => none
  | c :: cs => some (String.ofList (c :: cs))

/-- Reads the rest of an argument list: `depth` brackets are open, `piece` is the argument under
way and `found` are the arguments before it, both latest first. Gives the arguments and the text
after the closing parenthesis. -/
def splitArguments (mode : Mode) (depth : Nat) (piece : List Char) (found : List String) :
    List Char → Option (List String × List Char)
  | [] => none
  | c :: rest =>
    match mode with
    | .quoted quote =>
      if c = '\\' then
        match rest with
        | [] => none
        | escaped :: rest => splitArguments mode depth (escaped :: c :: piece) found rest
      else
        splitArguments (if c = quote then .code else mode) depth (c :: piece) found rest
    | .verbatim =>
      if c = '"' then
        match rest with
        | '"' :: rest => splitArguments mode depth ('"' :: c :: piece) found rest
        | rest => splitArguments .code depth (c :: piece) found rest
      else
        splitArguments mode depth (c :: piece) found rest
    | .code =>
      match c with
      | '@' =>
        match rest with
        | '"' :: rest => splitArguments .verbatim depth ('"' :: c :: piece) found rest
        | rest => splitArguments mode depth (c :: piece) found rest
      | '"' => splitArguments (.quoted c) depth (c :: piece) found rest
      | '\'' => splitArguments (.quoted c) depth (c :: piece) found rest
      | '(' => splitArguments mode (depth + 1) (c :: piece) found rest
      | '[' => splitArguments mode (depth + 1) (c :: piece) found rest
      | '{' => splitArguments mode (depth + 1) (c :: piece) found rest
      | ')' =>
        match depth with
        | 0 => (argument? piece).map fun last ↦ ((last :: found).reverse, rest)
        | depth + 1 => splitArguments mode depth (c :: piece) found rest
      | ']' =>
        match depth with
        | 0 => none
        | depth + 1 => splitArguments mode depth (c :: piece) found rest
      | '}' =>
        match depth with
        | 0 => none
        | depth + 1 => splitArguments mode depth (c :: piece) found rest
      | ',' =>
        match depth with
        | 0 =>
          match argument? piece with
          | none => none
          | some next => splitArguments mode 0 [] (next :: found) rest
        | depth + 1 => splitArguments mode (depth + 1) (c :: piece) found rest
      | c => splitArguments mode depth (c :: piece) found rest

/-- Reads the argument list whose opening parenthesis stands just before the text. -/
def readArguments (cs : List Char) : Option (List String × List Char) :=
  splitArguments .code 0 [] [] cs

/-- The arguments at the front of a text, and the byte behind the parenthesis that ends them. -/
def split (body : String) : Option (List String × Nat) :=
  (readArguments body.toList).map fun (arguments, rest) ↦
    (arguments, Text.byteLength body.toList - Text.byteLength rest)

end GuardedProxy.Invocation
