import GuardedProxy.Proofs.Literal
import GuardedProxy.Proofs.ReferenceShape
import Mathlib.Data.List.Basic
import Mathlib.Data.List.Induction

/-!
# The text of an argument

The reader of an argument list advances by one character of code or by one literal at a time, and
each such step may open or close a bracket. A passage is a text that it takes into the argument
under way step by step. An argument list is read exactly when it is a list of passages that leave no
bracket open, divided by commas and none of them blank, and each argument is a passage without the
blanks around it.
-/

namespace GuardedProxy.Invocation

open Literal

def openings : List Char := ['(', '[', '{']

def closings : List Char := [')', ']', '}']

theorem mem_signs_iff {c : Char} :
    c ∈ signs ↔ c = '@' ∨ c ∈ quotes ∨ c ∈ openings ∨ c ∈ closings ∨ c = ',' := by
  simp [signs, quotes, openings, closings, or_assoc]

theorem not_mem_closings {c : Char} (hc : c ∈ openings) : c ∉ closings := by
  have hdisjoint : ∀ c ∈ openings, c ∉ closings := List.all_iff_forall_prop.mp (by decide)
  exact hdisjoint c hc

/-- The text is one character of code or one literal. It takes the reader from the one depth of
brackets to the other. -/
inductive Step : Nat → List Char → Nat → Prop
  | plain {depth : Nat} {c : Char} (hc : c ∉ signs) : Step depth [c] depth
  | atSign {depth : Nat} : Step depth ['@'] depth
  | quoted {depth : Nat} {quote : Char} {body : List Char} (hquote : quote ∈ quotes)
      (hbody : QuotedBody quote body) : Step depth (quote :: body ++ [quote]) depth
  | verbatim {depth : Nat} {body : List Char} (hbody : VerbatimBody body) :
      Step depth ('@' :: '"' :: body ++ ['"']) depth
  | opening {depth : Nat} {c : Char} (hc : c ∈ openings) : Step depth [c] (depth + 1)
  | closing {depth : Nat} {c : Char} (hc : c ∈ closings) : Step (depth + 1) [c] depth
  | comma {depth : Nat} : Step (depth + 1) [','] (depth + 1)

/-- A quote behind a step that begins with an at sign would belong to it. -/
def Ends (text rest : List Char) : Prop := text.head? = some '@' → rest.head? ≠ some '"'

variable {depth after : Nat} {piece text rest : List Char} {found : List String}

theorem splitArguments_atSign (hrest : rest.head? ≠ some '"') :
    splitArguments .code depth piece found ('@' :: rest) =
      splitArguments .code depth ('@' :: piece) found rest := by
  rw [splitArguments]
  rintro tail rfl
  exact hrest rfl

/-- The reader takes a whole literal at once, and fails where the literal has no end. -/
theorem splitArguments_quote {quote : Char} (hquote : quote ∈ quotes) :
    splitArguments .code depth piece found (quote :: rest) =
      (readQuoted quote rest).bind fun (body, rest) ↦
        splitArguments .code depth (quote :: (body.reverse ++ quote :: piece)) found rest := by
  rw [← splitArguments_quoted]
  simp only [quotes, List.mem_cons, List.not_mem_nil, or_false] at hquote
  rcases hquote with rfl | rfl <;> rfl

theorem splitArguments_opening {c : Char} (hc : c ∈ openings) :
    splitArguments .code depth piece found (c :: rest) =
      splitArguments .code (depth + 1) (c :: piece) found rest := by
  simp only [openings, List.mem_cons, List.not_mem_nil, or_false] at hc
  rcases hc with rfl | rfl | rfl <;> rfl

theorem splitArguments_closing {c : Char} (hc : c ∈ closings) :
    splitArguments .code (depth + 1) piece found (c :: rest) =
      splitArguments .code depth (c :: piece) found rest := by
  simp only [closings, List.mem_cons, List.not_mem_nil, or_false] at hc
  rcases hc with rfl | rfl | rfl <;> rfl

/-- The reader takes a step whatever follows it, and adds its text to the argument under way. -/
theorem Step.splitArguments_append (hstep : Step depth text after) (hends : Ends text rest) :
    splitArguments .code depth piece found (text ++ rest) =
      splitArguments .code after (text.reverse ++ piece) found rest := by
  cases hstep with
  | plain hc => exact passesOver_singleton hc piece found rest
  | atSign => exact splitArguments_atSign (hends rfl)
  | @quoted _ quote body hquote hbody =>
    have hread : readQuoted quote (body ++ quote :: rest) = some (body, rest) :=
      (readQuoted_eq_some_iff (ne_backslash_of_mem_quotes hquote)).mpr ⟨hbody, rfl⟩
    rw [List.append_assoc, List.cons_append, splitArguments_quote hquote, List.singleton_append,
      hread]
    simp
  | @verbatim _ body hbody =>
    have hread : readVerbatim (body ++ '"' :: rest) = some (body, rest) :=
      readVerbatim_eq_some_iff.mpr ⟨hbody, rfl, hends rfl⟩
    rw [List.append_assoc, List.cons_append, List.cons_append, splitArguments,
      splitArguments_verbatim, List.singleton_append, hread]
    simp
  | opening hc => exact splitArguments_opening hc
  | closing hc => exact splitArguments_closing hc
  | comma => rfl

/-- There is no step to take: the text is at its end, or it opens a literal and does not end it. -/
inductive Unfinished : List Char → Prop
  | nil : Unfinished []
  | quoted {quote : Char} {rest : List Char} (hquote : quote ∈ quotes)
      (hread : readQuoted quote rest = none) : Unfinished (quote :: rest)
  | verbatim {rest : List Char} (hread : readVerbatim rest = none) :
      Unfinished ('@' :: '"' :: rest)

/-- Nothing is read where a literal or the list itself has no end. -/
theorem Unfinished.splitArguments_eq_none (htext : Unfinished text) :
    splitArguments .code depth piece found text = none := by
  cases htext with
  | nil => rw [splitArguments]
  | quoted hquote hread => rw [splitArguments_quote hquote, hread, Option.bind_none]
  | verbatim hread => rw [splitArguments, splitArguments_verbatim, hread, Option.bind_none]

/-- The reader can take a step, unless the text is unfinished or a bracket or a comma outside of
brackets is next. -/
theorem step_cases (depth : Nat) (cs : List Char) :
    (∃ text after rest, Step depth text after ∧ Ends text rest ∧ cs = text ++ rest) ∨
      (depth = 0 ∧ ∃ c rest, (c ∈ closings ∨ c = ',') ∧ cs = c :: rest) ∨ Unfinished cs := by
  cases cs with
  | nil => exact .inr (.inr .nil)
  | cons c rest =>
    by_cases hat : c = '@'
    · subst hat
      by_cases hnext : rest.head? = some '"'
      · obtain ⟨tail, rfl⟩ := List.head?_eq_some_iff.mp hnext
        cases hread : readVerbatim tail with
        | none => exact .inr (.inr (.verbatim hread))
        | some parts =>
          obtain ⟨hbody, rfl, hbehind⟩ := readVerbatim_eq_some_iff.mp hread
          exact .inl ⟨_, _, parts.2, .verbatim hbody, fun _ ↦ hbehind, by simp⟩
      · exact .inl ⟨_, _, rest, .atSign, fun _ ↦ hnext, rfl⟩
    have hends : Ends [c] rest := fun h ↦ absurd (Option.some.inj h) hat
    by_cases hquote : c ∈ quotes
    · cases hread : readQuoted c rest with
      | none => exact .inr (.inr (.quoted hquote hread))
      | some parts =>
        obtain ⟨hbody, rfl⟩ := (readQuoted_eq_some_iff (ne_backslash_of_mem_quotes hquote)).mp hread
        exact .inl ⟨_, _, parts.2, .quoted hquote hbody, fun h ↦ absurd (Option.some.inj h) hat,
          by simp⟩
    by_cases hopening : c ∈ openings
    · exact .inl ⟨_, _, rest, .opening hopening, hends, rfl⟩
    by_cases hclosing : c ∈ closings
    · cases depth with
      | succ depth => exact .inl ⟨_, _, rest, .closing hclosing, hends, rfl⟩
      | zero => exact .inr (.inl ⟨rfl, c, rest, .inl hclosing, rfl⟩)
    by_cases hcomma : c = ','
    · subst hcomma
      cases depth with
      | succ depth => exact .inl ⟨_, _, rest, .comma, hends, rfl⟩
      | zero => exact .inr (.inl ⟨rfl, ',', rest, .inr rfl, rfl⟩)
    · have hc : c ∉ signs := by
        rw [mem_signs_iff]
        simp [hat, hquote, hopening, hclosing, hcomma]
      exact .inl ⟨_, _, rest, .plain hc, hends, rfl⟩

/-- Where the reader comes to a result it can take a step, unless a parenthesis or a comma ends the
argument under way. -/
theorem exists_step {result : List String × List Char} {cs : List Char}
    (hsplit : splitArguments .code depth piece found cs = some result) :
    (∃ text after rest, Step depth text after ∧ Ends text rest ∧ cs = text ++ rest) ∨
      depth = 0 ∧ ∃ rest, cs = ')' :: rest ∨ cs = ',' :: rest := by
  rcases step_cases depth cs with hstep | ⟨rfl, c, rest, hclosing | rfl, rfl⟩ | hunfinished
  · exact .inl hstep
  · simp only [closings, List.mem_cons, List.not_mem_nil, or_false] at hclosing
    rcases hclosing with rfl | rfl | rfl
    · exact .inr ⟨rfl, rest, .inl rfl⟩
    · exact absurd hsplit (by simp [splitArguments])
    · exact absurd hsplit (by simp [splitArguments])
  · exact .inr ⟨rfl, rest, .inr rfl⟩
  · rw [hunfinished.splitArguments_eq_none] at hsplit
    exact absurd hsplit (by simp)

theorem Step.text_ne_nil (hstep : Step depth text after) : text ≠ [] := by
  cases hstep <;> simp

/-! ## Passages -/

/-- The text takes the reader from code at the one depth to code at the other. -/
inductive Passage : Nat → List Char → Nat → Prop
  | nil {depth : Nat} : Passage depth [] depth
  | step {depth middle after : Nat} {text rest : List Char} (hstep : Step depth text middle)
      (hends : Ends text rest) (hrest : Passage middle rest after) :
      Passage depth (text ++ rest) after

theorem Ends.append {back : List Char} (hends : Ends text rest) (hback : back.head? ≠ some '"') :
    Ends text (rest ++ back) := by
  intro hat
  cases rest with
  | nil => exact hback
  | cons c rest => exact hends hat

/-- The reader goes over a whole passage as over its steps. -/
theorem Passage.splitArguments_append (htext : Passage depth text after)
    (hrest : rest.head? ≠ some '"') :
    splitArguments .code depth piece found (text ++ rest) =
      splitArguments .code after (text.reverse ++ piece) found rest := by
  induction htext generalizing piece with
  | nil => rfl
  | step hstep hends _ ih =>
    rw [List.append_assoc, hstep.splitArguments_append (hends.append hrest), ih,
      List.reverse_append, List.append_assoc]

/-- Passages can be joined unless a quote at the joint would make a literal longer. -/
theorem Passage.append {middle : Nat} {front back : List Char} (hfront : Passage depth front middle)
    (hback : Passage middle back after) (hnext : back.head? ≠ some '"') :
    Passage depth (front ++ back) after := by
  induction hfront with
  | nil => exact hback
  | step hstep hends _ ih =>
    rw [List.append_assoc]
    exact .step hstep (hends.append hnext) (ih hback)

/-- Every text that the reader takes into an argument is a passage. -/
theorem exists_passage_of_splitArguments {arguments : List String} {cs : List Char}
    (hsplit : splitArguments .code depth piece found cs = some (arguments, rest)) :
    ∃ text next, Passage depth text 0 ∧ argument? (text.reverse ++ piece) = some next ∧
      (cs = text ++ ')' :: rest ∧ arguments = (next :: found).reverse ∨
        ∃ tail, cs = text ++ ',' :: tail ∧
          splitArguments .code 0 [] (next :: found) tail = some (arguments, rest)) := by
  induction hlength : cs.length using Nat.strong_induction_on generalizing cs depth piece with
  | _ length ih =>
    rcases exists_step hsplit with ⟨first, middle, tail, hstep, hends, rfl⟩ | ⟨rfl, tail, hend⟩
    · have hshorter : tail.length < length := by
        have hpos := List.length_pos_iff.mpr hstep.text_ne_nil
        rw [← hlength, List.length_append]
        omega
      rw [hstep.splitArguments_append hends] at hsplit
      obtain ⟨text, next, htext, hnext, hend⟩ := ih _ hshorter hsplit rfl
      have hfirst : Ends first text := by
        intro hat
        have hquote := hends hat
        cases text with
        | nil => simp
        | cons c text =>
          rcases hend with ⟨rfl, -⟩ | ⟨behind, rfl, -⟩ <;> exact hquote
      refine ⟨first ++ text, next, .step hstep hfirst htext, ?_, ?_⟩
      · rwa [List.reverse_append, List.append_assoc]
      · simpa only [List.append_assoc, List.append_cancel_left_eq] using hend
    · rcases hend with rfl | rfl
      · rw [splitArguments] at hsplit
        obtain ⟨next, hnext, heq⟩ := Option.map_eq_some_iff.mp hsplit
        obtain ⟨rfl, rfl⟩ := Prod.mk.inj heq
        exact ⟨[], next, .nil, hnext, .inl ⟨rfl, rfl⟩⟩
      · rw [splitArguments] at hsplit
        cases hnext : argument? piece with
        | none => simp [hnext] at hsplit
        | some next =>
          rw [hnext] at hsplit
          exact ⟨[], next, .nil, hnext, .inr ⟨tail, rfl, hsplit⟩⟩

/-- A step leaves no literal open. -/
theorem Step.closed_append (hstep : Step depth text after) (hends : Ends text rest)
    (hrest : Closed rest) : Closed (text ++ rest) := by
  have hcode : ∀ c : Char, c ∉ quotes → Ends [c] rest → Closed (c :: rest) := by
    intro c hc hends
    have hskip := first?_cons hc fun hat ↦ hends (congrArg some hat)
    cases hrest with
    | code hfree => exact .code (List.forall_mem_cons.mpr ⟨hc, hfree⟩)
    | literal hfirst hafter => exact .literal (hskip.trans hfirst) hafter
  cases hstep with
  | plain hc => exact hcode _ (fun hquote ↦ hc (mem_signs_iff.mpr (.inr (.inl hquote)))) hends
  | atSign => exact hcode _ (by decide) hends
  | @quoted _ quote body hquote hbody =>
    have hbetween : Between [] ⟨false, quote :: body ++ [quote]⟩ rest :=
      .quoted hquote (by simp) hbody
    exact .literal (first?_of_between (by simp [QuoteFree]) hbetween) hrest
  | verbatim hbody =>
    have hat : QuoteFree ['@'] := by simp [QuoteFree, quotes]
    exact .literal (first?_of_between hat (.verbatim rfl hbody (hends rfl))) hrest
  | opening hc =>
    have hopenings : ∀ c ∈ openings, c ∉ quotes := List.all_iff_forall_prop.mp (by decide)
    exact hcode _ (hopenings _ hc) hends
  | closing hc =>
    have hclosings : ∀ c ∈ closings, c ∉ quotes := List.all_iff_forall_prop.mp (by decide)
    exact hcode _ (hclosings _ hc) hends
  | comma => exact hcode _ (by decide) hends

/-- A passage ends every literal that it opens. -/
theorem Passage.closed (htext : Passage depth text after) : Closed text := by
  induction htext with
  | nil => exact .code (by simp [QuoteFree])
  | step hstep hends _ ih => exact hstep.closed_append hends ih

theorem not_mem_signs_of_isBlank {c : Char} (hblank : Text.isBlank c = true) : c ∉ signs := by
  have hsigns : ∀ sign ∈ signs, Text.isBlank sign = false :=
    List.all_iff_forall_prop.mp (by decide)
  intro hmem
  rw [hsigns c hmem] at hblank
  exact Bool.false_ne_true hblank

theorem Passage.blanks_append {blanks : List Char} (hblanks : IsBlank blanks)
    (htext : Passage depth text after) : Passage depth (blanks ++ text) after := by
  induction blanks with
  | nil => exact htext
  | cons c blanks ih =>
    have hc : c ∉ signs := not_mem_signs_of_isBlank (hblanks c List.mem_cons_self)
    have hends : Ends [c] (blanks ++ text) := by
      intro hat
      obtain rfl := Option.some.inj hat
      exact absurd (by decide) hc
    have hrest : Passage depth (blanks ++ text) after :=
      ih fun d hd ↦ hblanks d (List.mem_cons_of_mem _ hd)
    have hpassage : Passage depth ([c] ++ (blanks ++ text)) after := .step (.plain hc) hends hrest
    exact hpassage

theorem head?_ne_quote_of_isBlank {blanks : List Char} (hblanks : IsBlank blanks) :
    blanks.head? ≠ some '"' := by
  intro hhead
  have hblank := hblanks '"' (List.mem_of_mem_head? hhead)
  exact absurd hblank (by decide)

theorem Passage.append_blanks {blanks : List Char} (htext : Passage depth text after)
    (hblanks : IsBlank blanks) : Passage depth (text ++ blanks) after := by
  have hpassage : Passage after (blanks ++ []) after := Passage.nil.blanks_append hblanks
  rw [List.append_nil] at hpassage
  exact htext.append hpassage (head?_ne_quote_of_isBlank hblanks)

/-- A step that begins or ends with a character of no meaning to the reader is that character. -/
theorem Step.eq_nil_of_cons {c : Char} (hstep : Step depth (c :: text) after) (hc : c ∉ signs) :
    text = [] ∧ after = depth := by
  rw [mem_signs_iff] at hc
  cases hstep <;> simp_all

/-- A step that ends in a plain character is that character alone. -/
theorem Step.eq_nil_of_append {c : Char} (hstep : Step depth (text ++ [c]) after) (hc : c ∉ signs) :
    text = [] ∧ after = depth := by
  have hlast : ∀ (front : List Char) (last : Char), text ++ [c] = front ++ [last] →
      text = front ∧ c = last := by
    intro front last heq
    simpa using List.append_inj' heq rfl
  rw [mem_signs_iff] at hc
  generalize hfull : text ++ [c] = full at hstep
  cases hstep with
  | plain => exact ⟨(hlast [] _ hfull).1, rfl⟩
  | atSign | opening | closing | comma =>
    obtain ⟨rfl, rfl⟩ := hlast [] _ hfull
    simp_all
  | quoted | verbatim =>
    obtain ⟨rfl, rfl⟩ := hlast _ _ hfull
    simp_all [quotes]

theorem Passage.of_blank_cons {c : Char} (htext : Passage depth (c :: text) after)
    (hc : Text.isBlank c = true) : Passage depth text after := by
  generalize hfull : c :: text = full at htext
  cases htext with
  | nil => contradiction
  | @step _ middle _ first rest hstep hends hrest =>
    cases first with
    | nil => exact absurd rfl hstep.text_ne_nil
    | cons d first =>
      obtain ⟨rfl, rfl⟩ := List.cons.inj hfull
      obtain ⟨rfl, rfl⟩ := hstep.eq_nil_of_cons (not_mem_signs_of_isBlank hc)
      exact hrest

/-- A blank at the end of a passage can be taken off, as no literal ends in one. -/
theorem Passage.of_append_blank {c : Char} (htext : Passage depth (text ++ [c]) after)
    (hc : Text.isBlank c = true) : Passage depth text after := by
  generalize hfull : text ++ [c] = full at htext
  induction htext generalizing text with
  | nil => simp at hfull
  | @step depth middle after first rest hstep hends hrest ih =>
    rcases List.eq_nil_or_concat' rest with rfl | ⟨rest, last, rfl⟩
    · rw [List.append_nil] at hfull
      subst hfull
      obtain ⟨rfl, rfl⟩ := hstep.eq_nil_of_append (not_mem_signs_of_isBlank hc)
      exact hrest
    · rw [← List.append_assoc] at hfull
      obtain ⟨rfl, hlast⟩ := List.append_inj' hfull rfl
      refine .step hstep (fun hat hquote ↦ hends hat ?_) (ih (congrArg (rest ++ ·) hlast))
      rw [List.head?_append, hquote, Option.some_or]

theorem Passage.of_blanks_append {blanks : List Char} (htext : Passage depth (blanks ++ text) after)
    (hblanks : IsBlank blanks) : Passage depth text after := by
  induction blanks with
  | nil => exact htext
  | cons c blanks ih =>
    have hrest := htext.of_blank_cons (hblanks c List.mem_cons_self)
    exact ih hrest fun d hd ↦ hblanks d (List.mem_cons_of_mem _ hd)

theorem Passage.of_append_blanks {blanks : List Char} (htext : Passage depth (text ++ blanks) after)
    (hblanks : IsBlank blanks) : Passage depth text after := by
  induction blanks using List.reverseRecOn with
  | nil => rwa [List.append_nil] at htext
  | append_singleton blanks c ih =>
    rw [← List.append_assoc] at htext
    have hfront := htext.of_append_blank (hblanks c (List.mem_append_right _ List.mem_cons_self))
    exact ih hfront fun d hd ↦ hblanks d (List.mem_append_left _ hd)

/-- The blanks that trimming takes off are of no meaning to the reader. -/
theorem Passage.trim (htext : Passage depth text after) : Passage depth (Text.trim text) after := by
  obtain ⟨before, behind, hbefore, hbehind, heq⟩ := Text.exists_trim_append text
  have hfull : Passage depth (before ++ Text.trim text ++ behind) after := by rwa [heq]
  exact (hfull.of_append_blanks hbehind).of_blanks_append hbefore

/-! ## Argument lists -/

/-- The text of an argument with blanks around it, as the reader takes it. -/
def IsPiece (text : List Char) : Prop := Passage 0 text 0 ∧ Text.trim text ≠ []

/-- An argument is a piece without the blanks around it, and a blank piece is none. -/
theorem argument?_eq_some_iff {argument : String} :
    argument? text.reverse = some argument ↔
      Text.trim text ≠ [] ∧ argument = String.ofList (Text.trim text) := by
  rw [argument?, List.reverse_reverse]
  cases Text.trim text with
  | nil => simp
  | cons c trimmed => simp [eq_comm]

/-- Pieces with commas between them are read back as the arguments they spell. -/
theorem splitArguments_intercalate {pieces : List (List Char)} (hne : pieces ≠ [])
    (hpieces : ∀ piece ∈ pieces, IsPiece piece) (found : List String) (rest : List Char) :
    splitArguments .code 0 [] found ([','].intercalate pieces ++ ')' :: rest) =
      some (found.reverse ++ pieces.map fun piece ↦ String.ofList (Text.trim piece), rest) := by
  induction pieces generalizing found with
  | nil => exact absurd rfl hne
  | cons piece pieces ih =>
    obtain ⟨hpassage, htrim⟩ := hpieces piece List.mem_cons_self
    have hargument := argument?_eq_some_iff.mpr ⟨htrim, rfl⟩
    cases pieces with
    | nil =>
      rw [List.intercalate_singleton, hpassage.splitArguments_append (by simp), List.append_nil,
        splitArguments, hargument]
      simp
    | cons next pieces =>
      have hrest := ih (by simp) fun p hp ↦ hpieces p (List.mem_cons_of_mem _ hp)
      rw [List.intercalate_cons_cons, List.append_assoc, List.append_assoc, List.singleton_append,
        hpassage.splitArguments_append (by simp), List.append_nil, splitArguments, hargument]
      simp [hrest]

/-- Whatever is read as a list of arguments consists of pieces with commas between them. -/
theorem exists_pieces_of_splitArguments {arguments : List String} {cs : List Char}
    (hsplit : splitArguments .code 0 [] found cs = some (arguments, rest)) :
    ∃ pieces, pieces ≠ [] ∧ (∀ piece ∈ pieces, IsPiece piece) ∧
      cs = [','].intercalate pieces ++ ')' :: rest ∧
      arguments = found.reverse ++ pieces.map fun piece ↦ String.ofList (Text.trim piece) := by
  induction hlength : cs.length using Nat.strong_induction_on generalizing cs found with
  | _ length ih =>
    obtain ⟨text, next, hpassage, hnext, hend⟩ := exists_passage_of_splitArguments hsplit
    rw [List.append_nil] at hnext
    obtain ⟨htrim, rfl⟩ := argument?_eq_some_iff.mp hnext
    rcases hend with ⟨rfl, rfl⟩ | ⟨tail, rfl, htail⟩
    · exact ⟨[text], by simp, by simpa using ⟨hpassage, htrim⟩, by simp, by simp⟩
    · have hshorter : tail.length < length := by
        rw [← hlength, List.length_append, List.length_cons]
        omega
      obtain ⟨pieces, hne, hpieces, rfl, rfl⟩ := ih _ hshorter htail rfl
      refine ⟨text :: pieces, by simp,
        List.forall_mem_cons.mpr ⟨⟨hpassage, htrim⟩, hpieces⟩, ?_, ?_⟩
      · rw [List.intercalate_cons_of_ne_nil hne]
        simp
      · simp

/-- An argument list is read exactly when it is divided by commas into pieces, and its arguments
are the pieces without the blanks around them. -/
theorem readArguments_eq_some_iff {arguments : List String} {cs : List Char} :
    readArguments cs = some (arguments, rest) ↔
      ∃ pieces, pieces ≠ [] ∧ (∀ piece ∈ pieces, IsPiece piece) ∧
        cs = [','].intercalate pieces ++ ')' :: rest ∧
        arguments = pieces.map fun piece ↦ String.ofList (Text.trim piece) := by
  constructor
  · intro hread
    exact exists_pieces_of_splitArguments hread
  · rintro ⟨pieces, hne, hpieces, rfl, rfl⟩
    exact splitArguments_intercalate hne hpieces [] rest

end GuardedProxy.Invocation
