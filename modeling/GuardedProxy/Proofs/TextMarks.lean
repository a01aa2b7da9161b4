import GuardedProxy.Proofs.ArgumentText

/-!
# Marks of a text

A text can be read in layers. The first layer tells for each character whether it is code or belongs
to a literal, from the characters before it. The second adds how deep in brackets of the code the
character stands. From these marks the third finds the parenthesis that ends an argument list and
cuts what stands before it at the commas. Each layer is finished before the next begins, and the
same cuts are made when the marks are gathered one by one.
-/

namespace GuardedProxy.Invocation

open Literal

/-- What a character is a part of. -/
inductive Role
  | code
  | string
  | verbatim
  | character
deriving DecidableEq, Repr

/-- What has to be known of the characters before a character to tell its role. -/
inductive Scan
  /-- In code, where an at sign may stand just before. -/
  | code (afterAt : Bool)
  /-- In a literal that ends at the quote, where a backslash may take the next character with it. -/
  | quoted (quote : Char) (escaped : Bool)
  /-- In a verbatim string, where a quote just before ends it unless the next is a quote as well. -/
  | verbatim (afterQuote : Bool)
deriving DecidableEq, Repr

def Role.ofQuote (quote : Char) : Role := if quote = '"' then .string else .character

namespace Scan

/-- The role of a character that no literal goes on to, and what is known behind it. -/
def readCode (afterAt : Bool) (c : Char) : Role × Scan :=
  if c = '"' then
    if afterAt then (.verbatim, .verbatim false) else (.string, .quoted c false)
  else if c = '\'' then (.character, .quoted c false)
  else (.code, .code (c == '@'))

def read : Scan → Char → Role × Scan
  | .code afterAt, c => readCode afterAt c
  | .quoted quote true, _ => (.ofQuote quote, .quoted quote false)
  | .quoted quote false, c =>
    (.ofQuote quote,
      if c = '\\' then .quoted quote true
      else if c = quote then .code false
      else .quoted quote false)
  | .verbatim false, c => (.verbatim, .verbatim (c == '"'))
  | .verbatim true, c => if c = '"' then (.verbatim, .verbatim false) else readCode false c

end Scan

/-- The characters of a text with their roles. -/
def classify : Scan → List Char → List (Char × Role)
  | _, [] => []
  | scan, c :: rest => (c, (scan.read c).1) :: classify (scan.read c).2 rest

theorem Role.ofQuote_ne_code (quote : Char) : ofQuote quote ≠ .code := by
  unfold ofQuote
  split <;> simp

/-- A character that begins no literal is code, and so is what follows it until a literal begins. -/
theorem classify_code {c : Char} {rest : List Char} (hc : c ∉ quotes)
    (hat : c = '@' → rest.head? ≠ some '"') :
    classify (.code false) (c :: rest) = (c, .code) :: classify (.code false) rest := by
  simp only [quotes, List.mem_cons, List.not_mem_nil, or_false, not_or] at hc
  have hread : (Scan.code false).read c = (.code, .code (c == '@')) := by
    simp [Scan.read, Scan.readCode, hc]
  rw [classify, hread]
  cases rest with
  | nil => rfl
  | cons d rest =>
    by_cases hd : d = '"'
    · have hne : (c == '@') = false := beq_eq_false_iff_ne.mpr fun hc ↦ hat hc (congrArg some hd)
      rw [hne]
    · -- what an at sign tells is of use only at a quote
      have hsame : (Scan.code (c == '@')).read d = (Scan.code false).read d := by
        simp [Scan.read, Scan.readCode, hd]
      rw [classify, hsame]
      rfl

theorem classify_quote {quote : Char} (hquote : quote ∈ quotes) (rest : List Char) :
    classify (.code false) (quote :: rest) =
      (quote, .ofQuote quote) :: classify (.quoted quote false) rest := by
  simp only [quotes, List.mem_cons, List.not_mem_nil, or_false] at hquote
  rcases hquote with rfl | rfl
  · rfl
  · rfl

/-- All of a quoted literal has its role, up to the quote that ends it. -/
theorem classify_quoted {quote : Char} {body : List Char} (hquote : quote ≠ '\\')
    (hbody : QuotedBody quote body) (rest : List Char) :
    classify (.quoted quote false) (body ++ quote :: rest) =
      (body ++ [quote]).map (·, Role.ofQuote quote) ++ classify (.code false) rest := by
  induction hbody with
  | nil => simp [classify, Scan.read, hquote]
  | plain hc hbackslash _ ih => simpa [classify, Scan.read, hc, hbackslash] using ih
  | escape _ ih => simpa [classify, Scan.read] using ih

/-- All of a verbatim string has its role, up to the quote that is not doubled. -/
theorem classify_verbatim {body rest : List Char} (hbody : VerbatimBody body)
    (hrest : rest.head? ≠ some '"') :
    classify (.verbatim false) (body ++ '"' :: rest) =
      (body ++ ['"']).map (·, Role.verbatim) ++ classify (.code false) rest := by
  induction hbody with
  | nil =>
    cases rest with
    | nil => rfl
    | cons c rest =>
      have hc : c ≠ '"' := fun hc ↦ hrest (congrArg some hc)
      simp [classify, Scan.read, hc]
  | plain hc _ ih => simpa [classify, Scan.read, beq_eq_false_iff_ne.mpr hc] using ih
  | doubled _ ih => simpa [classify, Scan.read] using ih

theorem classify_quotedLiteral {quote : Char} {body : List Char} (hquote : quote ∈ quotes)
    (hbody : QuotedBody quote body) (rest : List Char) :
    classify (.code false) (quote :: body ++ [quote] ++ rest) =
      (quote :: body ++ [quote]).map (·, Role.ofQuote quote) ++ classify (.code false) rest := by
  rw [List.append_assoc, List.cons_append, List.singleton_append, classify_quote hquote,
    classify_quoted (ne_backslash_of_mem_quotes hquote) hbody]
  rfl

/-- The at sign of a verbatim string is still code. -/
theorem classify_verbatimLiteral {body rest : List Char} (hbody : VerbatimBody body)
    (hrest : rest.head? ≠ some '"') :
    classify (.code false) ('@' :: '"' :: body ++ ['"'] ++ rest) =
      ('@', .code) :: (('"' :: body ++ ['"']).map (·, Role.verbatim) ++
        classify (.code false) rest) := by
  rw [List.append_assoc, List.singleton_append]
  exact congrArg (fun chars ↦ ('@', Role.code) :: ('"', Role.verbatim) :: chars)
    (classify_verbatim hbody hrest)

/-! ## Depth -/

/-- A character, its role, and the brackets that are open before it. -/
structure Mark where
  char : Char
  role : Role
  depth : Int
deriving DecidableEq, Repr

namespace Mark

def isCode (mark : Mark) (chars : List Char) : Bool :=
  mark.role == .code && chars.contains mark.char

def opens (mark : Mark) : Bool := mark.isCode openings

def closes (mark : Mark) : Bool := mark.isCode closings

/-- What the character adds to the open brackets. -/
def weight (mark : Mark) : Int :=
  if mark.opens then 1 else if mark.closes then -1 else 0

/-- The parenthesis that ends an argument list. -/
def ends (mark : Mark) : Bool := mark.depth == 0 && mark.isCode [')']

/-- A bracket of another kind that closes nothing. -/
def strays (mark : Mark) : Bool := mark.depth == 0 && mark.isCode [']', '}']

/-- A comma between two arguments. -/
def divides (mark : Mark) : Bool := mark.depth == 0 && mark.isCode [',']

end Mark

/-- The marks of characters with roles, the first of which stands at the given depth. -/
def levels : Int → List (Char × Role) → List Mark
  | _, [] => []
  | depth, (c, role) :: rest =>
    ⟨c, role, depth⟩ :: levels (depth + Mark.weight ⟨c, role, depth⟩) rest

/-- The marks of a text that begins in code and outside of brackets. -/
def marks (text : List Char) : List Mark := levels 0 (classify (.code false) text)

theorem map_char_levels (depth : Int) (scan : Scan) (text : List Char) :
    (levels depth (classify scan text)).map Mark.char = text := by
  induction text generalizing depth scan with
  | nil => rfl
  | cons c rest ih => rw [classify, levels, List.map_cons, ih]

theorem map_char_marks (text : List Char) : (marks text).map Mark.char = text :=
  map_char_levels 0 (.code false) text

/-! ## Cuts -/

/-- The texts between the commas that divide the marks. -/
def pieces (front : List Mark) : List (List Char) :=
  (front.splitOnP Mark.divides).map (List.map Mark.char)

def asArgument (piece : List Char) : String := String.ofList (Text.trim piece)

theorem pieces_ne_nil (front : List Mark) : pieces front ≠ [] := by
  rw [pieces, Ne, List.map_eq_nil_iff]
  exact List.splitOnP_ne_nil Mark.divides front

theorem pieces_divides {mark : Mark} (hmark : mark.divides = true) (front : List Mark) :
    pieces (mark :: front) = [] :: pieces front := by
  rw [pieces, List.splitOnP_cons_eq_if_modifyHead, if_pos hmark]
  rfl

theorem pieces_cons {mark : Mark} (hmark : mark.divides = false) (front : List Mark) :
    pieces (mark :: front) = (pieces front).modifyHead (mark.char :: ·) := by
  rw [pieces, List.splitOnP_cons_eq_if_modifyHead, if_neg (Bool.eq_false_iff.mp hmark), pieces]
  cases front.splitOnP Mark.divides with
  | nil => rfl
  | cons first others => rfl

theorem Mark.mem_of_isCode {mark : Mark} {chars : List Char} (hmark : mark.isCode chars = true) :
    mark.char ∈ chars := by
  rw [isCode, Bool.and_eq_true, List.contains_iff_mem] at hmark
  exact hmark.2

theorem Mark.char_of_divides {mark : Mark} (hmark : mark.divides = true) : mark.char = ',' :=
  List.mem_singleton.mp (mem_of_isCode (Bool.and_eq_true_iff.mp hmark).2)

theorem Mark.char_of_ends {mark : Mark} (hmark : mark.ends = true) : mark.char = ')' :=
  List.mem_singleton.mp (mem_of_isCode (Bool.and_eq_true_iff.mp hmark).2)

/-- The pieces and the commas between them are all of the text. -/
theorem intercalate_pieces (front : List Mark) :
    [','].intercalate (pieces front) = front.map Mark.char := by
  induction front with
  | nil => rfl
  | cons mark front ih =>
    cases hmark : mark.divides with
    | true =>
      rw [pieces_divides hmark, List.intercalate_cons_of_ne_nil (pieces_ne_nil front), ih,
        List.map_cons, Mark.char_of_divides hmark]
      rfl
    | false =>
      obtain ⟨first, others, hpieces⟩ := List.exists_cons_of_ne_nil (pieces_ne_nil front)
      rw [pieces_cons hmark, List.map_cons, ← ih, hpieces, List.modifyHead_cons]
      cases others with
      | nil => rfl
      | cons second others => rfl

/-- An argument list among marks: it goes up to the mark of the index, the first parenthesis that
closes no bracket. No other bracket before it closes none, and none of its pieces is blank. -/
structure IsArgumentList (body : List Mark) (index : Nat) (parts : List (List Char)) : Prop where
  findIdx_eq : body.findIdx? Mark.ends = some index
  not_strays : ∀ mark ∈ body.take index, mark.strays = false
  parts_eq : parts = pieces (body.take index)
  not_blank : ∀ part ∈ parts, Text.trim part ≠ []

/-- The pieces and the parenthesis make up the text of the list. -/
theorem IsArgumentList.intercalate_append {text : List Char} {index : Nat}
    {parts : List (List Char)} (hlist : IsArgumentList (marks text) index parts) :
    [','].intercalate parts ++ [')'] = text.take (index + 1) := by
  obtain ⟨hindex, hends, -⟩ := List.findIdx?_eq_some_iff_getElem.mp hlist.findIdx_eq
  rw [hlist.parts_eq, intercalate_pieces, ← Mark.char_of_ends hends, ← List.map_singleton,
    ← List.map_append, ← List.take_succ_eq_append_getElem hindex, List.map_take, map_char_marks]

/-- Gathers the arguments from the marks as they come: `piece` is the argument under way and `found`
are the arguments before it, both latest first. -/
def gather (piece : List Char) (found : List String) :
    List Mark → Option (List String × List Char)
  | [] => none
  | mark :: rest =>
    if mark.ends then (argument? piece).map fun last ↦ ((last :: found).reverse, rest.map Mark.char)
    else if mark.strays then none
    else if mark.divides then (argument? piece).bind fun next ↦ gather [] (next :: found) rest
    else gather (mark.char :: piece) found rest

/-- The mark goes into the argument under way. -/
def Mark.Passed (mark : Mark) : Prop :=
  mark.ends = false ∧ mark.strays = false ∧ mark.divides = false

/-- Marks that are passed over go into the argument under way. -/
theorem gather_append {taken : List Mark} (htaken : ∀ mark ∈ taken, mark.Passed)
    (piece : List Char) (found : List String) (rest : List Mark) :
    gather piece found (taken ++ rest) =
      gather ((taken.map Mark.char).reverse ++ piece) found rest := by
  induction taken generalizing piece with
  | nil => rfl
  | cons mark taken ih =>
    obtain ⟨⟨hends, hstrays, hdivides⟩, htaken⟩ := List.forall_mem_cons.mp htaken
    simp [gather, hends, hstrays, hdivides, ih htaken]

theorem exists_findIdx?_cons {mark : Mark} (hends : mark.ends = false) (body : List Mark)
    {property : Nat → Prop} :
    (∃ index, (mark :: body).findIdx? Mark.ends = some index ∧ property index) ↔
      ∃ index, body.findIdx? Mark.ends = some index ∧ property (index + 1) := by
  rw [List.findIdx?_cons, if_neg (Bool.eq_false_iff.mp hends)]
  cases body.findIdx? Mark.ends <;> simp

theorem argument?_reverse_eq (piece : List Char) :
    argument? piece.reverse = if Text.trim piece = [] then none else some (asArgument piece) := by
  split
  · rename_i hblank
    rw [argument?, List.reverse_reverse, hblank]
  · rename_i hblank
    exact argument?_eq_some_iff.mpr ⟨hblank, rfl⟩

/-- Gathering makes the cuts of the third layer. The argument under way goes on in the first
piece. -/
theorem gather_eq_some_iff (piece : List Char) (found : List String) {body : List Mark}
    {arguments : List String} {rest : List Char} :
    gather piece.reverse found.reverse body = some (arguments, rest) ↔
      ∃ index, body.findIdx? Mark.ends = some index ∧
        (∀ mark ∈ body.take index, mark.strays = false) ∧
        let parts := (pieces (body.take index)).modifyHead (piece ++ ·)
        (∀ part ∈ parts, Text.trim part ≠ []) ∧ arguments = found ++ parts.map asArgument ∧
          rest = (body.drop (index + 1)).map Mark.char := by
  induction body generalizing piece found with
  | nil => simp [gather]
  | cons mark body ih =>
    cases hends : mark.ends with
    | true =>
      have hpieces : (pieces ((mark :: body).take 0)).modifyHead (piece ++ ·) = [piece] := by
        simp [pieces]
      rw [gather, if_pos hends, List.findIdx?_cons, if_pos hends, argument?_reverse_eq]
      simp only [Option.some.injEq, ↓existsAndEq, hpieces]
      by_cases hblank : Text.trim piece = []
      · simp [hblank]
      · simp [hblank, @eq_comm _ arguments, @eq_comm _ rest]
    | false =>
      rw [exists_findIdx?_cons hends, gather, if_neg (Bool.eq_false_iff.mp hends)]
      cases hstrays : mark.strays with
      | true => simp [hstrays]
      | false =>
        simp only [List.take_succ_cons, List.drop_succ_cons, List.forall_mem_cons, hstrays,
          true_and, Bool.false_eq_true, if_false]
        cases hdivides : mark.divides with
        | true =>
          have hfound : asArgument piece :: found.reverse =
              (found ++ [asArgument piece]).reverse := by
            simp
          have hnext := ih [] (found ++ [asArgument piece])
          simp only [Lists.modifyHead_nil_append] at hnext
          rw [argument?_reverse_eq]
          simp only [pieces_divides hdivides, List.modifyHead_cons, List.append_nil,
            List.forall_mem_cons, List.map_cons, if_true]
          by_cases hblank : Text.trim piece = []
          · simp [hblank]
          · rw [if_neg hblank, Option.bind_some, hfound]
            refine hnext.trans ?_
            simp [hblank]
        | false =>
          have hpiece : mark.char :: piece.reverse = (piece ++ [mark.char]).reverse := by simp
          have hmodify (parts : List (List Char)) :
              (parts.modifyHead (mark.char :: ·)).modifyHead (piece ++ ·) =
                parts.modifyHead (piece ++ [mark.char] ++ ·) := by
            cases parts <;> simp
          simp only [Bool.false_eq_true, if_false, hpiece, ih, pieces_cons hdivides, hmodify]

end GuardedProxy.Invocation
