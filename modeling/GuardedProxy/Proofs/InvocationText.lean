import GuardedProxy.Invocation.Basic
import GuardedProxy.Proofs.ArgumentText
import Mathlib.Data.List.Forall2

/-!
# Printed invocations

An invocation is printed as its head, its type argument in angle brackets and its arguments in
parentheses, with a comma and a blank between two of them. Reading inverts printing. Every
invocation whose arguments are built from plain characters, literals and matched brackets is read
off its printed text, with any blanks added that the form allows, and whatever invocation is read
off a text is also read off its own printed text. Its type argument and its arguments stand in the
text that it was read off as they are.
-/

namespace GuardedProxy

open Literal

/-- Blanks around a text do not count for its balance. -/
theorem TypeArgument.Balanced.trim {text : List Char} (htext : Balanced text) :
    Balanced (Text.trim text) := by
  obtain ⟨before, after, hbefore, hafter, heq⟩ := Text.exists_trim_append text
  intro counts
  have hfull : (before ++ Text.trim text ++ after).foldlM pass counts = some counts := by
    rw [heq]
    exact htext counts
  rw [List.append_assoc, List.foldlM_append, IsBlank.balanced hbefore counts, Option.bind_eq_bind,
    Option.bind_some, List.foldlM_append] at hfull
  obtain ⟨next, hnext, hend⟩ := Option.bind_eq_some_iff.mp hfull
  rw [IsBlank.balanced hafter next] at hend
  exact hnext.trans hend

namespace Invocation

/-- The kinds of brackets. -/
def brackets : List (Char × Char) := [('(', ')'), ('[', ']'), ('{', '}')]

/-- Plain characters, literals and groups in matched brackets. A comma may stand only in a group. A
double quote behind an at sign opens a verbatim string, and behind one it would go on with it. -/
inductive IsExpression : Bool → List Char → Prop
  | nil {inGroup : Bool} : IsExpression inGroup []
  | plain {inGroup : Bool} {c : Char} {rest : List Char} (hc : c ∉ signs)
      (hrest : IsExpression inGroup rest) : IsExpression inGroup (c :: rest)
  | atSign {inGroup : Bool} {rest : List Char} (hnext : rest.head? ≠ some '"')
      (hrest : IsExpression inGroup rest) : IsExpression inGroup ('@' :: rest)
  | comma {rest : List Char} (hrest : IsExpression true rest) : IsExpression true (',' :: rest)
  | quoted {inGroup : Bool} {quote : Char} {body rest : List Char} (hquote : quote ∈ quotes)
      (hbody : QuotedBody quote body) (hrest : IsExpression inGroup rest) :
      IsExpression inGroup (quote :: body ++ quote :: rest)
  | verbatim {inGroup : Bool} {body rest : List Char} (hbody : VerbatimBody body)
      (hnext : rest.head? ≠ some '"') (hrest : IsExpression inGroup rest) :
      IsExpression inGroup ('@' :: '"' :: body ++ '"' :: rest)
  | group {inGroup : Bool} {opening closing : Char} {inside rest : List Char}
      (hbrackets : (opening, closing) ∈ brackets) (hinside : IsExpression true inside)
      (hrest : IsExpression inGroup rest) :
      IsExpression inGroup (opening :: inside ++ closing :: rest)

theorem mem_openings_of_brackets {opening closing : Char} (h : (opening, closing) ∈ brackets) :
    opening ∈ openings ∧ closing ∈ closings := by
  have hall : ∀ pair ∈ brackets, pair.1 ∈ openings ∧ pair.2 ∈ closings :=
    List.all_iff_forall_prop.mp (by decide)
  exact hall _ h

theorem Passage.cons {depth middle after : Nat} {c : Char} {rest : List Char}
    (hstep : Step depth [c] middle) (hat : c ≠ '@') (hrest : Passage middle rest after) :
    Passage depth (c :: rest) after :=
  Passage.step hstep (fun h ↦ absurd (Option.some.inj h) hat) hrest

/-- Matched brackets are closed in the order in which the reader counts them, so it comes out where
it went in. -/
theorem IsExpression.passage {inGroup : Bool} {text : List Char} (htext : IsExpression inGroup text)
    {depth : Nat} (hdepth : inGroup = true → 0 < depth) : Passage depth text depth := by
  induction htext generalizing depth with
  | nil => exact .nil
  | plain hc _ ih =>
    refine .cons (.plain hc) ?_ (ih hdepth)
    rintro rfl
    exact hc (by decide)
  | atSign hnext _ ih => exact Passage.step .atSign (fun _ ↦ hnext) (ih hdepth)
  | comma _ ih =>
    obtain ⟨depth, rfl⟩ := Nat.exists_eq_add_one_of_ne_zero (hdepth rfl).ne'
    exact .cons .comma (by decide) (ih hdepth)
  | @quoted _ quote body rest hquote hbody _ ih =>
    have hends : Ends (quote :: body ++ [quote]) rest := by
      intro hat
      obtain rfl := Option.some.inj hat
      exact absurd hquote (by decide)
    have hpassage := Passage.step (.quoted hquote hbody) hends (ih hdepth)
    rwa [List.append_assoc] at hpassage
  | verbatim hbody hnext _ ih =>
    have hpassage := Passage.step (.verbatim hbody) (fun _ ↦ hnext) (ih hdepth)
    rwa [List.append_assoc] at hpassage
  | @group _ opening closing inside rest hbrackets _ _ ihinside ihrest =>
    obtain ⟨hopening, hclosing⟩ := mem_openings_of_brackets hbrackets
    have hat : ∀ c ∈ openings ++ closings, c ≠ '@' ∧ c ≠ '"' :=
      List.all_iff_forall_prop.mp (by decide)
    have hnext : (closing :: rest).head? ≠ some '"' := fun h ↦
      (hat closing (List.mem_append_right _ hclosing)).2 (Option.some.inj h)
    have hclose : Passage (depth + 1) (closing :: rest) depth :=
      .cons (.closing hclosing) (hat closing (List.mem_append_right _ hclosing)).1 (ihrest hdepth)
    have hinside : Passage (depth + 1) inside (depth + 1) := ihinside fun _ ↦ Nat.succ_pos depth
    exact .cons (.opening hopening) (hat opening (List.mem_append_left _ hopening)).1
      (hinside.append hclose hnext)

def typeText : Option String → List Char
  | none => []
  | some type => '<' :: type.toList ++ ['>']

def render (invocation : Invocation) : String :=
  String.ofList (invocation.head.toList ++ typeText invocation.typeArgument ++
    '(' :: [',', ' '].intercalate (invocation.arguments.map String.toList) ++ [')'])

/-- The text of an argument with blanks around it. -/
def IsSpaced (text : List Char) (argument : String) : Prop :=
  ∃ before after, IsBlank before ∧ IsBlank after ∧ text = before ++ argument.toList ++ after

/-- The printed text with any blanks before the head, before the opening parenthesis, around the
arguments and after the closing parenthesis. -/
def IsSpelling (invocation : Invocation) (text : List Char) : Prop :=
  ∃ before beforeList after pieces, IsBlank before ∧ IsBlank beforeList ∧ IsBlank after ∧
    List.Forall₂ IsSpaced pieces invocation.arguments ∧
    text = before ++ (invocation.head.toList ++ (typeText invocation.typeArgument ++ (beforeList ++
      '(' :: ([','].intercalate pieces ++ [')'])))) ++ after

/-- The parts of an invocation are of the given forms. A type argument is trimmed and ends at the
bracket that closes it, and an argument is trimmed. -/
structure HasParts (IsArgument : List Char → Prop) (invocation : Invocation) : Prop where
  head_ne_nil : invocation.head.toList ≠ []
  isHeadChar_head : ∀ c ∈ invocation.head.toList, isHeadChar c = true
  typeArgument : ∀ type ∈ invocation.typeArgument, type.toList ≠ [] ∧
    Text.trim type.toList = type.toList ∧
    TypeArgument.read ('<' :: type.toList ++ ['>']) = some (type.toList, [])
  arguments_ne_nil : invocation.arguments ≠ []
  arguments : ∀ argument ∈ invocation.arguments, argument.toList ≠ [] ∧
    Text.trim argument.toList = argument.toList ∧ IsArgument argument.toList

/-- The arguments leave the reader where it was, so it reads them. -/
def IsReadable (invocation : Invocation) : Prop :=
  invocation.HasParts fun argument ↦ Passage 0 argument 0

/-- An invocation with expressions for arguments can be read back. -/
theorem HasParts.isReadable {invocation : Invocation}
    (hparts : invocation.HasParts (IsExpression false)) : invocation.IsReadable where
  head_ne_nil := hparts.head_ne_nil
  isHeadChar_head := hparts.isHeadChar_head
  typeArgument := hparts.typeArgument
  arguments_ne_nil := hparts.arguments_ne_nil
  arguments argument hmem := by
    obtain ⟨hne, htrim, hargument⟩ := hparts.arguments argument hmem
    exact ⟨hne, htrim, hargument.passage (by simp)⟩

/-- The blank behind a comma can be taken for a part of the next argument. -/
theorem intercalate_comma_blank (first : List Char) (others : List (List Char)) :
    [',', ' '].intercalate (first :: others) =
      [','].intercalate (first :: others.map fun other ↦ ' ' :: other) := by
  induction others generalizing first with
  | nil => simp
  | cons next others ih =>
    have hblank : ∀ rest : List (List Char), [','].intercalate ((' ' :: next) :: rest) =
        ' ' :: [','].intercalate (next :: rest) := by
      intro rest
      cases rest <;> simp
    rw [List.intercalate_cons_cons, ih, List.map_cons, List.intercalate_cons_cons, hblank]
    simp

theorem isSpaced_self (argument : String) : IsSpaced argument.toList argument :=
  ⟨[], [], by simp [IsBlank], by simp [IsBlank], by simp⟩

theorem isSpaced_blank (argument : String) : IsSpaced (' ' :: argument.toList) argument :=
  ⟨[' '], [], by simp [IsBlank, Text.isBlank], by simp [IsBlank], by simp⟩

/-- A comma and a blank between arguments put a blank before each argument but the first. -/
theorem exists_spaced (arguments : List String) :
    ∃ pieces, List.Forall₂ IsSpaced pieces arguments ∧
      [',', ' '].intercalate (arguments.map String.toList) = [','].intercalate pieces := by
  cases arguments with
  | nil => exact ⟨[], .nil, rfl⟩
  | cons first others =>
    refine ⟨first.toList :: (others.map String.toList).map fun other ↦ ' ' :: other, ?_, ?_⟩
    · rw [List.map_map]
      refine .cons (isSpaced_self first) ?_
      rw [List.forall₂_map_left_iff, List.forall₂_same]
      exact fun argument _ ↦ isSpaced_blank argument
    · exact intercalate_comma_blank _ _

theorem isSpelling_render (invocation : Invocation) :
    invocation.IsSpelling invocation.render.toList := by
  obtain ⟨pieces, hspaced, heq⟩ := exists_spaced invocation.arguments
  refine ⟨[], [], [], pieces, by simp [IsBlank], by simp [IsBlank], by simp [IsBlank], hspaced, ?_⟩
  rw [render, heq]
  simp

/-! ## Reading -/

/-- An invocation is read off a text part by part. -/
theorem parse_eq_some_iff {text : String} {invocation : Invocation} :
    parse text = some invocation ↔
      ∃ rest body after, (Text.trim text.toList).takeWhile isHeadChar = invocation.head.toList ∧
        invocation.head.toList ≠ [] ∧
        readTypeArgument ((Text.trim text.toList).dropWhile isHeadChar) =
          some (invocation.typeArgument, rest) ∧
        Text.trimStart rest = '(' :: body ∧
        readArguments body = some (invocation.arguments, after) ∧
        after.all Text.isBlank = true := by
  constructor
  · intro hparse
    dsimp only [parse] at hparse
    split at hparse
    · contradiction
    · rename_i hhead
      obtain ⟨⟨typeArgument, rest⟩, htype, hbody⟩ := Option.bind_eq_some_iff.mp hparse
      dsimp only at hbody
      split at hbody
      · rename_i body hrest
        obtain ⟨⟨arguments, after⟩, harguments, hend⟩ := Option.bind_eq_some_iff.mp hbody
        dsimp only at hend
        split at hend
        · rename_i hafter
          obtain rfl := Option.some.inj hend
          rw [List.isEmpty_iff] at hhead
          exact ⟨rest, body, after, String.toList_ofList.symm, by rwa [String.toList_ofList], htype,
            hrest, harguments, hafter⟩
        · contradiction
      · contradiction
  · rintro ⟨rest, body, after, hhead, hne, htype, hrest, harguments, hafter⟩
    dsimp only [parse]
    rw [hhead, if_neg (fun hempty ↦ hne (List.isEmpty_iff.mp hempty)), htype, Option.bind_eq_bind,
      Option.bind_some, hrest]
    refine Option.bind_eq_some_iff.mpr ⟨(invocation.arguments, after), harguments, ?_⟩
    dsimp only
    rw [if_pos hafter, String.ofList_toList]

theorem not_isHeadChar_of_isBlank {c : Char} (hblank : Text.isBlank c = true) :
    isHeadChar c = false := by
  have hcodes : ∀ code ∈ Text.blankCodes, isHeadChar (Char.ofNat code) = false := by
    decide +kernel
  have hhead := hcodes c.toNat (Text.toNat_mem_blankCodes hblank)
  rwa [Char.ofNat_toNat] at hhead

/-- An argument with blanks around it is a piece that spells the argument. -/
theorem IsSpaced.isPiece {text : List Char} {argument : String} (htext : IsSpaced text argument)
    (hne : argument.toList ≠ []) (htrim : Text.trim argument.toList = argument.toList)
    (hargument : Passage 0 argument.toList 0) :
    IsPiece text ∧ String.ofList (Text.trim text) = argument := by
  obtain ⟨before, after, hbefore, hafter, rfl⟩ := htext
  have hcore : Text.trim (before ++ argument.toList ++ after) = argument.toList :=
    (Text.trim_append_blanks hbefore hafter _).trans htrim
  refine ⟨⟨(hargument.blanks_append hbefore).append_blanks hafter, ?_⟩, ?_⟩
  · rwa [hcore]
  · rw [hcore, String.ofList_toList]

theorem pieces_of_spaced {pieces : List (List Char)} {arguments : List String}
    (hspaced : List.Forall₂ IsSpaced pieces arguments)
    (harguments : ∀ argument ∈ arguments, argument.toList ≠ [] ∧
      Text.trim argument.toList = argument.toList ∧ Passage 0 argument.toList 0) :
    (∀ piece ∈ pieces, IsPiece piece) ∧
      arguments = pieces.map fun piece ↦ String.ofList (Text.trim piece) := by
  induction hspaced with
  | nil => simp
  | cons hfirst _ ih =>
    obtain ⟨⟨hne, htrim, hpassage⟩, hothers⟩ := List.forall_mem_cons.mp harguments
    obtain ⟨hpiece, hargument⟩ := hfirst.isPiece hne htrim hpassage
    obtain ⟨hpieces, heq⟩ := ih hothers
    exact ⟨List.forall_mem_cons.mpr ⟨hpiece, hpieces⟩, by rw [List.map_cons, hargument, ← heq]⟩

/-- The arguments of an invocation are read back from pieces with blanks around them. -/
theorem readArguments_of_spaced {invocation : Invocation} (hreadable : invocation.IsReadable)
    {pieces : List (List Char)} (hspaced : List.Forall₂ IsSpaced pieces invocation.arguments) :
    readArguments ([','].intercalate pieces ++ [')']) = some (invocation.arguments, []) := by
  obtain ⟨hpieces, heq⟩ := pieces_of_spaced hspaced hreadable.arguments
  have hne : pieces ≠ [] := by
    rintro rfl
    exact hreadable.arguments_ne_nil heq
  exact readArguments_eq_some_iff.mpr ⟨pieces, hne, hpieces, rfl, heq⟩

/-- What follows the head begins with a character that no head contains. -/
theorem exists_next_not_isHeadChar (typeArgument : Option String) {blanks : List Char}
    (hblanks : IsBlank blanks) (inside : List Char) :
    ∃ next rest, typeText typeArgument ++ (blanks ++ '(' :: inside) = next :: rest ∧
      isHeadChar next = false := by
  cases typeArgument with
  | some type => exact ⟨'<', _, rfl, by decide⟩
  | none =>
    cases blanks with
    | nil => exact ⟨'(', _, rfl, by decide⟩
    | cons c blanks =>
      exact ⟨c, _, rfl, not_isHeadChar_of_isBlank (hblanks c List.mem_cons_self)⟩

theorem readTypeArgument_typeText {invocation : Invocation} (hreadable : invocation.IsReadable)
    {blanks : List Char} (hblanks : IsBlank blanks) (inside : List Char) :
    readTypeArgument (typeText invocation.typeArgument ++ (blanks ++ '(' :: inside)) =
      some (invocation.typeArgument, blanks ++ '(' :: inside) := by
  have htype := hreadable.typeArgument
  cases hargument : invocation.typeArgument with
  | none =>
    have hangle : ∀ rest, blanks ++ '(' :: inside ≠ '<' :: rest := by
      intro rest heq
      cases blanks with
      | nil => exact absurd (List.cons.inj heq).1 (by decide)
      | cons c blanks =>
        have hc := hblanks c List.mem_cons_self
        rw [(List.cons.inj heq).1] at hc
        exact absurd hc (by decide)
    rw [typeText, List.nil_append, readTypeArgument]
    exact fun rest heq ↦ hangle rest heq
  | some type =>
    obtain ⟨hne, htrim, hread⟩ := htype type hargument
    have hbalanced := (TypeArgument.read_eq_some_iff.mp hread).2
    have hmore : TypeArgument.read ('<' :: type.toList ++ '>' :: (blanks ++ '(' :: inside)) =
        some (type.toList, blanks ++ '(' :: inside) :=
      TypeArgument.read_eq_some_iff.mpr ⟨rfl, hbalanced⟩
    rw [typeText, List.append_assoc, List.singleton_append, List.cons_append, readTypeArgument,
      ← List.cons_append, hmore]
    simp [htrim, hne]

/-- Only what stands before the head and behind the last parenthesis is trimmed off a spelling. -/
theorem trim_spelling {head rest before after : List Char} (hne : head ≠ [])
    (hhead : ∀ c ∈ head, isHeadChar c = true) (hrest : rest.getLast? = some ')')
    (hbefore : IsBlank before) (hafter : IsBlank after) :
    Text.trim (before ++ (head ++ rest) ++ after) = head ++ rest := by
  obtain ⟨first, others, rfl⟩ := List.exists_cons_of_ne_nil hne
  obtain ⟨middle, rfl⟩ := List.getLast?_eq_some_iff.mp hrest
  have hfirst : Text.isBlank first = false := by
    rw [Bool.eq_false_iff]
    intro hblank
    have hchar := hhead first List.mem_cons_self
    rw [not_isHeadChar_of_isBlank hblank] at hchar
    exact Bool.false_ne_true hchar
  rw [Text.trim_append_blanks hbefore hafter, ← List.append_assoc, List.cons_append]
  exact Text.trim_eq_self hfirst (by decide)

/-- Every spelling of a readable invocation is parsed to the invocation. -/
theorem parse_of_isSpelling {invocation : Invocation} (hreadable : invocation.IsReadable)
    {text : List Char} (htext : invocation.IsSpelling text) :
    parse (String.ofList text) = some invocation := by
  obtain ⟨before, beforeList, after, pieces, hbefore, hbeforeList, hafter, hspaced, rfl⟩ := htext
  have hread := readTypeArgument_typeText hreadable hbeforeList ([','].intercalate pieces ++ [')'])
  have hlast : (typeText invocation.typeArgument ++
      (beforeList ++ '(' :: ([','].intercalate pieces ++ [')']))).getLast? = some ')' := by
    simp [List.getLast?_append, List.getLast?_cons]
  obtain ⟨next, rest, hrest, hnext⟩ := exists_next_not_isHeadChar invocation.typeArgument hbeforeList
    ([','].intercalate pieces ++ [')'])
  rw [hrest] at hread hlast ⊢
  have htrim := trim_spelling hreadable.head_ne_nil hreadable.isHeadChar_head hlast hbefore hafter
  have htake : (invocation.head.toList ++ next :: rest).takeWhile isHeadChar =
      invocation.head.toList := by
    rw [List.takeWhile_append_of_pos hreadable.isHeadChar_head,
      List.takeWhile_cons_of_neg (by simp [hnext]), List.append_nil]
  have hdrop : (invocation.head.toList ++ next :: rest).dropWhile isHeadChar = next :: rest := by
    rw [List.dropWhile_append_of_pos hreadable.isHeadChar_head,
      List.dropWhile_cons_of_neg (by simp [hnext])]
  have hstart : Text.trimStart (beforeList ++ '(' :: ([','].intercalate pieces ++ [')'])) =
      '(' :: ([','].intercalate pieces ++ [')']) :=
    Text.trimStart_blanks_append hbeforeList (by decide)
  have hlist := readArguments_of_spaced hreadable hspaced
  rw [parse_eq_some_iff, String.toList_ofList, htrim, htake, hdrop]
  exact ⟨_, _, [], rfl, hreadable.head_ne_nil, hread, hstart, hlist, rfl⟩

/-- A type argument that was read is trimmed, not empty, and read back from its own text. -/
theorem trimmed_of_readTypeArgument {cs rest : List Char} {typeArgument : Option String}
    (hread : readTypeArgument cs = some (typeArgument, rest)) :
    ∀ type ∈ typeArgument, type.toList ≠ [] ∧ Text.trim type.toList = type.toList ∧
      TypeArgument.read ('<' :: type.toList ++ ['>']) = some (type.toList, []) := by
  unfold readTypeArgument at hread
  split at hread
  · obtain ⟨⟨inside, after⟩, hinside, hsome⟩ := Option.bind_eq_some_iff.mp hread
    have hbalanced := (TypeArgument.read_eq_some_iff.mp hinside).2.trim
    dsimp only at hsome
    split at hsome
    · contradiction
    · rename_i hne
      obtain ⟨rfl, -⟩ := Prod.mk.inj (Option.some.inj hsome)
      rintro type ⟨⟩
      rw [String.toList_ofList]
      refine ⟨fun hnil ↦ hne (List.isEmpty_iff.mpr hnil), Text.trim_trim inside, ?_⟩
      exact TypeArgument.read_eq_some_iff.mpr ⟨rfl, hbalanced⟩
  · obtain ⟨rfl, -⟩ := Prod.mk.inj (Option.some.inj hread)
    simp

/-- The argument that a piece spells is trimmed and not empty, and the reader passes over it. -/
theorem IsPiece.trimmed {text : List Char} (htext : IsPiece text) :
    (String.ofList (Text.trim text)).toList ≠ [] ∧
      Text.trim (String.ofList (Text.trim text)).toList = (String.ofList (Text.trim text)).toList ∧
      Passage 0 (String.ofList (Text.trim text)).toList 0 := by
  rw [String.toList_ofList]
  exact ⟨htext.2, Text.trim_trim text, htext.1.trim⟩

/-- What is read off a text can be read off its printed text again. -/
theorem isReadable_of_parse {text : String} {invocation : Invocation}
    (hparse : parse text = some invocation) : invocation.IsReadable := by
  obtain ⟨rest, body, after, hhead, hne, htype, -, harguments, -⟩ := parse_eq_some_iff.mp hparse
  obtain ⟨pieces, hpieces, hpiece, -, heq⟩ := readArguments_eq_some_iff.mp harguments
  refine ⟨hne, ?_, trimmed_of_readTypeArgument htype, ?_, ?_⟩
  · rw [← hhead]
    exact fun c hc ↦ List.all_eq_true.mp List.all_takeWhile c hc
  · rw [heq]
    simpa using hpieces
  · rw [heq]
    intro argument hargument
    obtain ⟨piece, hmem, rfl⟩ := List.mem_map.mp hargument
    exact (hpiece piece hmem).trimmed

theorem isInfix_of_readTypeArgument {cs rest : List Char} {typeArgument : Option String}
    (hread : readTypeArgument cs = some (typeArgument, rest)) :
    (∀ type ∈ typeArgument, type.toList <:+: cs) ∧ rest <:+: cs := by
  unfold readTypeArgument at hread
  split at hread
  · obtain ⟨⟨inside, after⟩, hinside, hsome⟩ := Option.bind_eq_some_iff.mp hread
    have hparts := TypeArgument.eq_of_read hinside
    dsimp only at hsome
    split at hsome
    · contradiction
    · obtain ⟨rfl, rfl⟩ := Prod.mk.inj (Option.some.inj hsome)
      rw [hparts]
      constructor
      · rintro type ⟨⟩
        rw [String.toList_ofList]
        exact (Text.isInfix_trim inside).trans ⟨['<'], '>' :: after, rfl⟩
      · exact ⟨'<' :: inside ++ ['>'], [], by simp⟩
  · obtain ⟨rfl, rfl⟩ := Prod.mk.inj (Option.some.inj hread)
    simp

theorem isInfix_of_readArguments {cs rest : List Char} {arguments : List String}
    (hread : readArguments cs = some (arguments, rest)) :
    ∀ argument ∈ arguments, argument.toList <:+: cs := by
  obtain ⟨pieces, -, -, rfl, rfl⟩ := readArguments_eq_some_iff.mp hread
  intro argument hargument
  obtain ⟨piece, hpiece, rfl⟩ := List.mem_map.mp hargument
  rw [String.toList_ofList]
  exact List.infix_append_of_infix_left
    ((Text.isInfix_trim piece).trans (Lists.isInfix_intercalate _ hpiece))

/-- The type argument and the arguments of an invocation are pieces of its text. -/
theorem isInfix_of_parse {text : String} {invocation : Invocation}
    (hparse : parse text = some invocation) :
    (∀ type ∈ invocation.typeArgument, type.toList <:+: text.toList) ∧
      ∀ argument ∈ invocation.arguments, argument.toList <:+: text.toList := by
  obtain ⟨rest, body, after, -, -, htype, hrest, harguments, -⟩ := parse_eq_some_iff.mp hparse
  obtain ⟨htypeArgument, hrestInfix⟩ := isInfix_of_readTypeArgument htype
  have hbehind : (Text.trim text.toList).dropWhile isHeadChar <:+: text.toList :=
    (List.dropWhile_suffix _).isInfix.trans (Text.isInfix_trim _)
  have hbody : body <:+: rest := by
    have hlist : '(' :: body <:+: rest := hrest ▸ (List.dropWhile_suffix _).isInfix
    exact (List.suffix_cons _ _).isInfix.trans hlist
  constructor
  · intro type hmem
    exact (htypeArgument type hmem).trans hbehind
  · intro argument hmem
    have hargument := isInfix_of_readArguments harguments argument hmem
    exact ((hargument.trans hbody).trans hrestInfix).trans hbehind

/-! ## Both directions -/

/-- Reading inverts printing, and blanks may be added where the form allows them. What is read off
any text whatever is read off its own printed text as well. -/
theorem parse_render (invocation : Invocation) :
    (invocation.HasParts (IsExpression false) → parse invocation.render = some invocation ∧
      ∀ text, invocation.IsSpelling text → parse (String.ofList text) = some invocation) ∧
    ∀ text, parse text = some invocation → parse invocation.render = some invocation := by
  have hrender : invocation.IsReadable → parse invocation.render = some invocation := by
    intro hreadable
    rw [← String.ofList_toList (s := invocation.render)]
    exact parse_of_isSpelling hreadable invocation.isSpelling_render
  refine ⟨fun hparts ↦ ⟨hrender hparts.isReadable, fun text htext ↦ ?_⟩, fun text hparse ↦ ?_⟩
  · exact parse_of_isSpelling hparts.isReadable htext
  · exact hrender (isReadable_of_parse hparse)

/-- A precondition with a type argument, a comma in brackets, a parenthesis in a character literal
and a comma between doubled quotes, printed with more blanks than usual. -/
theorem parse_spelled_requires :
    ∃ invocation : Invocation, invocation = ⟨"Contract.Requires", some "Fault<int>",
        ["s[i, 0] != ')'", "@\"a \"\",\"\" b\""]⟩ ∧
      invocation.HasParts (IsExpression false) ∧
      parse invocation.render = some invocation ∧
      parse " Contract.Requires<Fault<int>> ( s[i, 0] != ')',  @\"a \"\",\"\" b\" ) " =
        some invocation := by
  have hcondition : IsExpression false ('s' :: ('[' :: ['i', ',', ' ', '0'] ++ ']' ::
      (' ' :: '!' :: '=' :: ' ' :: ('\'' :: [')'] ++ '\'' :: [])))) := by
    refine .plain (by decide) (.group (by decide) ?_ ?_)
    · exact .plain (by decide) (.comma (.plain (by decide) (.plain (by decide) .nil)))
    · refine .plain (by decide) (.plain (by decide) (.plain (by decide) (.plain (by decide) ?_)))
      exact .quoted (by decide) (.plain (by decide) (by decide) .nil) .nil
  have hmessage : IsExpression false ('@' :: '"' :: ['a', ' ', '"', '"', ',', '"', '"', ' ', 'b'] ++
      '"' :: []) := by
    refine .verbatim ?_ (by simp) .nil
    refine .plain (by decide) (.plain (by decide) (.doubled (.plain (by decide) (.doubled ?_))))
    exact .plain (by decide) (.plain (by decide) .nil)
  have hparts : (Invocation.mk "Contract.Requires" (some "Fault<int>")
      ["s[i, 0] != ')'", "@\"a \"\",\"\" b\""]).HasParts (IsExpression false) := by
    refine ⟨by decide, List.all_eq_true.mp (by decide +kernel), ?_, by simp, ?_⟩
    · rintro type ⟨⟩
      exact ⟨by decide, by decide, by decide⟩
    · rw [List.forall_mem_cons, List.forall_mem_singleton]
      exact ⟨⟨by decide, by decide, hcondition⟩, ⟨by decide, by decide, hmessage⟩⟩
  have hspelling : (Invocation.mk "Contract.Requires" (some "Fault<int>")
      ["s[i, 0] != ')'", "@\"a \"\",\"\" b\""]).IsSpelling
      " Contract.Requires<Fault<int>> ( s[i, 0] != ')',  @\"a \"\",\"\" b\" ) ".toList := by
    refine ⟨[' '], [' '], [' '], [" s[i, 0] != ')'".toList, "  @\"a \"\",\"\" b\" ".toList],
      by decide, by decide, by decide, .cons ?_ (.cons ?_ .nil), by decide⟩
    · exact ⟨[' '], [], by decide, by decide, by decide⟩
    · exact ⟨[' ', ' '], [' '], by decide, by decide, by decide⟩
  obtain ⟨hrender, hspelled⟩ := (parse_render _).1 hparts
  exact ⟨_, rfl, hparts, hrender, hspelled _ hspelling⟩

end Invocation

end GuardedProxy
