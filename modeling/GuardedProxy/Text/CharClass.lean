import GuardedProxy.Text.Age
import GuardedProxy.Text.Alphabetic
import GuardedProxy.Text.Mark
import GuardedProxy.Text.Number

/-!
# Character classes of clause text

Three classes decide how clause text is read. Blanks have the property White_Space and are what
trimming removes. Alphanumeric characters, Alphabetic or a number of any kind, spell the head of an
invocation. Word characters continue an identifier and decide where a word begins or ends:
Alphabetic, any mark, a decimal digit, connector punctuation or one of the two joiners. Word
characters keep to version 16.0 of Unicode, the other classes to version 17.0, so a letter that is
new in the latter is alphanumeric and no word character.
-/

namespace GuardedProxy.Text

def isBlank (c : Char) : Bool :=
  let code := c.toNat
  (0x9 ≤ code && code ≤ 0xD) || code == 0x20 || code == 0x85 || code == 0xA0 || code == 0x1680 ||
    (0x2000 ≤ code && code ≤ 0x200A) || code == 0x2028 || code == 0x2029 || code == 0x202F ||
    code == 0x205F || code == 0x3000

def isAscii (c : Char) : Bool := c.toNat < 0x80

def isAlphabetic (c : Char) : Bool :=
  if isAscii c then c.isAlpha else inRanges alphabeticRanges c

def isDecimalDigit (c : Char) : Bool :=
  if isAscii c then c.isDigit else inRanges decimalDigitRanges c

def isMark (c : Char) : Bool := !isAscii c && inRanges markRanges c

def isOtherNumber (c : Char) : Bool := !isAscii c && inRanges otherNumberRanges c

/-- The general category Pc. -/
def isConnector (c : Char) : Bool :=
  c == '_' || inRanges [(0x203F, 0x2040), (0x2054, 0x2054), (0xFE33, 0xFE34), (0xFE4D, 0xFE4F),
    (0xFF3F, 0xFF3F)] c

/-- The property Join_Control: the zero width non-joiner and joiner. -/
def isJoiner (c : Char) : Bool := c.toNat == 0x200C || c.toNat == 0x200D

def isAlphanumeric (c : Char) : Bool := isAlphabetic c || isDecimalDigit c || isOtherNumber c

/-- The property Age is 17.0: no earlier version of Unicode has the character. -/
def isNewest (c : Char) : Bool := !isAscii c && inRanges newestRanges c

def isWordChar (c : Char) : Bool :=
  (isAlphabetic c || isMark c || isDecimalDigit c || isConnector c || isJoiner c) && !isNewest c

/-- An ASCII letter or an underscore: what an identifier begins with. -/
def isIdentifierStart (c : Char) : Bool := c.isAlpha || c == '_'

/-- The code points of the blanks, one by one. -/
def blankCodes : List Nat :=
  [0x9, 0xA, 0xB, 0xC, 0xD, 0x20, 0x85, 0xA0, 0x1680, 0x2000, 0x2001, 0x2002, 0x2003, 0x2004, 0x2005,
    0x2006, 0x2007, 0x2008, 0x2009, 0x200A, 0x2028, 0x2029, 0x202F, 0x205F, 0x3000]

theorem toNat_mem_blankCodes {c : Char} (hblank : isBlank c = true) : c.toNat ∈ blankCodes := by
  simp only [isBlank, Bool.or_eq_true, Bool.and_eq_true, decide_eq_true_eq, beq_iff_eq] at hblank
  simp only [blankCodes, List.mem_cons, List.not_mem_nil, or_false]
  omega

/-- A blank separates words wherever it stands. -/
theorem not_isWordChar_of_isBlank {c : Char} (hblank : isBlank c = true) : isWordChar c = false := by
  have hcodes : ∀ code ∈ blankCodes, isWordChar (Char.ofNat code) = false := by
    decide +kernel
  have hword := hcodes c.toNat (toNat_mem_blankCodes hblank)
  rwa [Char.ofNat_toNat] at hword

end GuardedProxy.Text
