import GuardedProxy.Text.CharClass

/-!
# Trimming, measuring and replacing text

Text is scanned as a list of characters. Offsets and sizes count the bytes of its UTF-8 encoding.
-/

namespace GuardedProxy.Text

def trimStart (cs : List Char) : List Char := cs.dropWhile isBlank

/-- The blanks that `trimStart` removes. -/
def leadingBlanks (cs : List Char) : List Char := cs.takeWhile isBlank

theorem leadingBlanks_append_trimStart (cs : List Char) : leadingBlanks cs ++ trimStart cs = cs :=
  List.takeWhile_append_dropWhile

def trimEnd (cs : List Char) : List Char := (cs.reverse.dropWhile isBlank).reverse

def trim (cs : List Char) : List Char := trimEnd (trimStart cs)

/-- The text without the blanks around it. -/
def trimmed (s : String) : String := String.ofList (trim s.toList)

/-- Empty, or blanks only. -/
def blankText (s : String) : Bool := s.toList.all isBlank

def byteLength (cs : List Char) : Nat := cs.foldr (fun c length ↦ c.utf8Size + length) 0

@[simp] theorem byteLength_nil : byteLength [] = 0 := rfl

@[simp] theorem byteLength_cons (c : Char) (cs : List Char) :
    byteLength (c :: cs) = c.utf8Size + byteLength cs := rfl

@[simp] theorem byteLength_append (left right : List Char) :
    byteLength (left ++ right) = byteLength left + byteLength right := by
  induction left with
  | nil => simp
  | cons c left ih => simp [ih, Nat.add_assoc]

/-- Replaces every occurrence of a nonempty `needle`, from left to right and without overlap. -/
def replaceAll (needle replacement : List Char) : List Char → List Char
  | [] => []
  | c :: rest =>
    if needle.isPrefixOf (c :: rest) then
      replacement ++ replaceAll needle replacement (rest.drop (needle.length - 1))
    else
      c :: replaceAll needle replacement rest
termination_by cs => cs.length
decreasing_by
  · simp only [List.length_drop, List.length_cons]
    omega
  · simp

end GuardedProxy.Text
