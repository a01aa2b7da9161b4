import GuardedProxy.Text.Unprintable

/-!
# Text quoted in messages

A message shows foreign text between double quotes. Quotes, backslashes and the common control
characters are escaped with a letter. Characters that would not be seen as themselves are shown by
their code point in braces.
-/

namespace GuardedProxy.Text

/-- Whether a character stands for itself in a message. -/
def isPrintable (c : Char) : Bool :=
  if c.toNat < 0x7F then 0x20 ≤ c.toNat else !inRanges unprintableRanges c

def shownChar (c : Char) : List Char :=
  match c with
  | '\x00' => ['\\', '0']
  | '\t' => ['\\', 't']
  | '\r' => ['\\', 'r']
  | '\n' => ['\\', 'n']
  | '\\' => ['\\', '\\']
  | '"' => ['\\', '"']
  | c => if isPrintable c then [c] else ['\\', 'u', '{'] ++ Nat.toDigits 16 c.toNat ++ ['}']

def quoted (text : String) : String :=
  String.ofList ('"' :: text.toList.flatMap shownChar ++ ['"'])

end GuardedProxy.Text
