import GuardedProxy.Json.Numeral

/-!
# Tokens of a JSON text

A text becomes a list of tokens, up to the first place where no token can be read. There the list
ends in `bad`. A string whose escapes leave half of a surrogate pair, and a number that is out of
range, are tokens without a value: a reader that needs the value must refuse them, one that skips
them need not.
-/

namespace GuardedProxy.Json

inductive Token
  | openArray
  | closeArray
  | openObject
  | closeObject
  | comma
  | colon
  | null
  | bool (value : Bool)
  | number (value : Option Number)
  | string (value : Option String)
  | bad
deriving Repr

/-- What stands for one character of a string or for half of it: the character itself, or a
16-bit unit written with four hexadecimal digits. -/
inductive StringUnit
  | char (c : Char)
  | unit (code : Nat)
deriving DecidableEq, Repr

def hexValue (c : Char) : Option Nat :=
  if c.isDigit then some (c.toNat - '0'.toNat)
  else if 'a' ≤ c ∧ c ≤ 'f' then some (c.toNat - 'a'.toNat + 10)
  else if 'A' ≤ c ∧ c ≤ 'F' then some (c.toNat - 'A'.toNat + 10)
  else none

def hexUnit (a b c d : Char) : Option Nat := do
  return (((← hexValue a) * 16 + (← hexValue b)) * 16 + (← hexValue c)) * 16 + (← hexValue d)

/-- The character that a letter stands for after a backslash. -/
def escapedChar : Char → Option Char
  | '"' => some '"'
  | '\\' => some '\\'
  | '/' => some '/'
  | 'b' => some '\x08'
  | 'f' => some '\x0c'
  | 'n' => some '\n'
  | 'r' => some '\r'
  | 't' => some '\t'
  | _ => none

/-- Reads the rest of a string after its opening quote. -/
def readUnits : List Char → Option (List StringUnit × List Char)
  | [] => none
  | '"' :: rest => some ([], rest)
  | '\\' :: 'u' :: a :: b :: c :: d :: rest => do
    let code ← hexUnit a b c d
    let (units, rest) ← readUnits rest
    some (.unit code :: units, rest)
  | '\\' :: c :: rest => do
    let c ← escapedChar c
    let (units, rest) ← readUnits rest
    some (.char c :: units, rest)
  | c :: rest =>
    if c = '\\' ∨ c.toNat < 0x20 then none else do
    let (units, rest) ← readUnits rest
    some (.char c :: units, rest)

def isHighSurrogate (code : Nat) : Bool := 0xD800 ≤ code && code ≤ 0xDBFF

def isLowSurrogate (code : Nat) : Bool := 0xDC00 ≤ code && code ≤ 0xDFFF

/-- The character of a surrogate pair. -/
def pairedChar (high low : Nat) : Char :=
  Char.ofNat ((high - 0xD800) * 0x400 + (low - 0xDC00) + 0x10000)

/-- The text that units spell, unless half of a surrogate pair is missing. -/
def spelled : List StringUnit → Option (List Char)
  | [] => some []
  | .char c :: rest => (spelled rest).map (c :: ·)
  | .unit high :: .unit low :: rest =>
    if isHighSurrogate high then
      if isLowSurrogate low then (spelled rest).map (pairedChar high low :: ·) else none
    else if isLowSurrogate high then none
    else (spelled (.unit low :: rest)).map (Char.ofNat high :: ·)
  | .unit code :: rest =>
    if isHighSurrogate code || isLowSurrogate code then none
    else (spelled rest).map (Char.ofNat code :: ·)

/-! ## The whole text -/

def isSpace (c : Char) : Bool := c = ' ' || c = '\n' || c = '\t' || c = '\r'

theorem length_of_readUnits {cs rest : List Char} {units : List StringUnit}
    (h : readUnits cs = some (units, rest)) : rest.length < cs.length := by
  fun_induction readUnits cs generalizing units rest with
  | case1 | case5 => contradiction
  | case2 after =>
    obtain ⟨-, rfl⟩ := Prod.mk.inj (Option.some.inj h)
    exact Nat.lt_succ_self _
  | case3 a b c d after ih =>
    simp only [Option.bind_eq_bind, Option.bind_eq_some_iff] at h
    obtain ⟨_, -, ⟨_, _⟩, hafter, hresult⟩ := h
    obtain ⟨-, rfl⟩ := Prod.mk.inj (Option.some.inj hresult)
    exact Nat.lt_add_right 6 (ih hafter)
  | case4 c after _ ih =>
    simp only [Option.bind_eq_bind, Option.bind_eq_some_iff] at h
    obtain ⟨_, -, ⟨_, _⟩, hafter, hresult⟩ := h
    obtain ⟨-, rfl⟩ := Prod.mk.inj (Option.some.inj hresult)
    exact Nat.lt_add_right 2 (ih hafter)
  | case6 c after _ _ _ _ ih =>
    simp only [Option.bind_eq_bind, Option.bind_eq_some_iff] at h
    obtain ⟨⟨_, _⟩, hafter, hresult⟩ := h
    obtain ⟨-, rfl⟩ := Prod.mk.inj (Option.some.inj hresult)
    exact Nat.lt_add_right 1 (ih hafter)

theorem length_dropWhile_le (p : Char → Bool) (cs : List Char) :
    (cs.dropWhile p).length ≤ cs.length :=
  (List.dropWhile_suffix p).length_le

theorem length_of_readWhole {cs digits rest : List Char} (h : readWhole cs = some (digits, rest)) :
    rest.length < cs.length := by
  unfold readWhole at h
  split at h
  · simp at h
  · rename_i hdigits
    split at h <;> simp at h
    obtain ⟨rfl, rfl⟩ := h
    have hsplit : (cs.takeWhile Char.isDigit ++ cs.dropWhile Char.isDigit).length = cs.length :=
      congrArg List.length List.takeWhile_append_dropWhile
    have hpositive : 0 < (cs.takeWhile Char.isDigit).length := List.length_pos_iff.mpr hdigits
    rw [List.length_append] at hsplit
    omega

theorem length_of_readFraction {cs digits rest : List Char}
    (h : readFraction cs = some (digits, rest)) : rest.length ≤ cs.length := by
  unfold readFraction at h
  split at h
  · split at h <;> simp at h
    obtain ⟨_, rfl⟩ := h
    exact Nat.le_succ_of_le (length_dropWhile_le _ _)
  · simp at h
    obtain ⟨_, rfl⟩ := h
    exact Nat.le_refl _

theorem length_readSign_le (cs : List Char) : (readSign cs).2.length ≤ cs.length := by
  unfold readSign
  split
  · exact Nat.le_succ _
  · exact Nat.le_succ _
  · exact Nat.le_refl _

theorem length_of_readExponent {cs rest : List Char} {exponent : Option (Bool × List Char)}
    (h : readExponent cs = some (exponent, rest)) : rest.length ≤ cs.length := by
  unfold readExponent at h
  split at h
  · rename_i c tail
    split at h
    · dsimp only at h
      split at h
      · contradiction
      · obtain ⟨-, rfl⟩ := Prod.mk.inj (Option.some.inj h)
        exact Nat.le_succ_of_le
          (Nat.le_trans (length_dropWhile_le _ _) (length_readSign_le tail))
    · obtain ⟨-, rfl⟩ := Prod.mk.inj (Option.some.inj h)
      exact Nat.le_refl _
  · obtain ⟨-, rfl⟩ := Prod.mk.inj (Option.some.inj h)
    exact Nat.le_refl _

theorem length_of_readNumeral {cs rest : List Char} {numeral : Numeral}
    (h : readNumeral cs = some (numeral, rest)) : rest.length < cs.length := by
  simp only [readNumeral, Option.bind_eq_bind, Option.bind_eq_some_iff] at h
  obtain ⟨⟨_, afterWhole⟩, hwhole, ⟨_, afterFraction⟩, hfraction, ⟨_, afterExponent⟩, hexponent,
    hresult⟩ := h
  obtain ⟨_, rfl⟩ : _ ∧ afterExponent = rest := by simpa using hresult
  have h1 := length_of_readWhole hwhole
  have h2 := length_of_readFraction hfraction
  have h3 := length_of_readExponent hexponent
  have h4 : (if cs.head? = some '-' then cs.tail else cs).length ≤ cs.length := by
    split <;> simp
  dsimp only at h2 h3
  omega

/-- Divides a text into tokens. -/
def tokens (cs : List Char) : List Token :=
  match cs with
  | [] => []
  | '[' :: rest => .openArray :: tokens rest
  | ']' :: rest => .closeArray :: tokens rest
  | '{' :: rest => .openObject :: tokens rest
  | '}' :: rest => .closeObject :: tokens rest
  | ',' :: rest => .comma :: tokens rest
  | ':' :: rest => .colon :: tokens rest
  | 'n' :: 'u' :: 'l' :: 'l' :: rest => .null :: tokens rest
  | 't' :: 'r' :: 'u' :: 'e' :: rest => .bool true :: tokens rest
  | 'f' :: 'a' :: 'l' :: 's' :: 'e' :: rest => .bool false :: tokens rest
  | '"' :: rest =>
    match _h : readUnits rest with
    | none => [.bad]
    | some (units, after) => .string ((spelled units).map String.ofList) :: tokens after
  | c :: rest =>
    if isSpace c then tokens rest
    else
      match _h : readNumeral (c :: rest) with
      | none => [.bad]
      | some (numeral, after) => .number numeral.number :: tokens after
termination_by cs.length
decreasing_by
  all_goals first
    | exact Nat.lt_succ_of_lt (length_of_readUnits _h)
    | exact length_of_readNumeral _h
    | (simp only [List.length_cons]; omega)

end GuardedProxy.Json
