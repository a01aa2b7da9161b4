import GuardedProxy.Proofs.ArgumentSplit
import GuardedProxy.Proofs.Lists

/-!
# Literals

A string or character literal goes on to the next quote of its kind that no backslash takes with it,
and a verbatim string, which follows an at sign, to the next quote that is not doubled. The reader of
arguments delimits literals by these rules. Text outside of literals is code, and a quote in code
opens a literal. A text is closed when every literal that it opens ends in it.
-/

namespace GuardedProxy

/-- A literal with its quotes. The at sign before a verbatim string is not a part of it. -/
structure Literal where
  isVerbatim : Bool
  text : List Char
deriving DecidableEq, Repr

namespace Literal

def quotes : List Char := ['"', '\'']

/-- What may stand between two quotes of a string or character literal. -/
inductive QuotedBody (quote : Char) : List Char → Prop
  | nil : QuotedBody quote []
  | plain {c : Char} {body : List Char} (hquote : c ≠ quote) (hbackslash : c ≠ '\\')
      (hbody : QuotedBody quote body) : QuotedBody quote (c :: body)
  | escape {c : Char} {body : List Char} (hbody : QuotedBody quote body) :
      QuotedBody quote ('\\' :: c :: body)

/-- What may stand between the quotes of a verbatim string. -/
inductive VerbatimBody : List Char → Prop
  | nil : VerbatimBody []
  | plain {c : Char} {body : List Char} (hquote : c ≠ '"') (hbody : VerbatimBody body) :
      VerbatimBody (c :: body)
  | doubled {body : List Char} (hbody : VerbatimBody body) : VerbatimBody ('"' :: '"' :: body)

/-- Reads the rest of a literal that ends at the given quote: the text before that quote, and what
follows the quote. -/
def readQuoted (quote : Char) : List Char → Option (List Char × List Char)
  | [] => none
  | c :: rest =>
    if c = '\\' then
      match rest with
      | [] => none
      | escaped :: rest =>
        (readQuoted quote rest).map fun (body, after) ↦ (c :: escaped :: body, after)
    else if c = quote then some ([], rest)
    else (readQuoted quote rest).map fun (body, after) ↦ (c :: body, after)

/-- Reads the rest of a verbatim string. -/
def readVerbatim : List Char → Option (List Char × List Char)
  | [] => none
  | c :: rest =>
    if c = '"' then
      match rest with
      | '"' :: rest => (readVerbatim rest).map fun (body, after) ↦ (c :: '"' :: body, after)
      | rest => some ([], rest)
    else (readVerbatim rest).map fun (body, after) ↦ (c :: body, after)

theorem readQuoted_of_ne {quote c : Char} (hc : c ≠ '\\') (rest : List Char) :
    readQuoted quote (c :: rest) =
      if c = quote then some ([], rest)
      else (readQuoted quote rest).map fun (body, after) ↦ (c :: body, after) := by
  cases rest <;> simp [readQuoted, hc]

theorem readVerbatim_of_ne {c : Char} (hc : c ≠ '"') (rest : List Char) :
    readVerbatim (c :: rest) =
      (readVerbatim rest).map fun (body, after) ↦ (c :: body, after) := by
  rw [readVerbatim.eq_def]
  simp [hc]

/-- A quoted literal goes up to the first quote that no backslash takes. -/
theorem readQuoted_eq_some_iff {quote : Char} {cs body rest : List Char} (hquote : quote ≠ '\\') :
    readQuoted quote cs = some (body, rest) ↔
      QuotedBody quote body ∧ cs = body ++ quote :: rest := by
  constructor
  · intro hread
    fun_induction readQuoted quote cs generalizing body with
    | case1 => exact absurd hread (by simp)
    | case2 => exact absurd hread (by simp)
    | case3 escaped tail ih =>
      obtain ⟨⟨front, after⟩, hfront, heq⟩ := Option.map_eq_some_iff.mp hread
      obtain ⟨rfl, rfl⟩ := Prod.mk.inj heq
      obtain ⟨hbody, rfl⟩ := ih hfront
      exact ⟨.escape hbody, rfl⟩
    | case4 tail =>
      obtain ⟨rfl, rfl⟩ := Prod.mk.inj (Option.some.inj hread)
      exact ⟨.nil, rfl⟩
    | case5 c tail hbackslash hc ih =>
      obtain ⟨⟨front, after⟩, hfront, heq⟩ := Option.map_eq_some_iff.mp hread
      obtain ⟨rfl, rfl⟩ := Prod.mk.inj heq
      obtain ⟨hbody, rfl⟩ := ih hfront
      exact ⟨.plain hc hbackslash hbody, rfl⟩
  · rintro ⟨hbody, rfl⟩
    induction hbody with
    | nil => rw [List.nil_append, readQuoted_of_ne hquote, if_pos rfl]
    | plain hc hbackslash _ ih =>
      rw [List.cons_append, readQuoted_of_ne hbackslash, if_neg hc, ih]
      rfl
    | escape _ ih =>
      rw [List.cons_append, List.cons_append, readQuoted, if_pos rfl, ih]
      rfl

/-- A verbatim string goes up to the first quote that is not doubled. -/
theorem readVerbatim_eq_some_iff {cs body rest : List Char} :
    readVerbatim cs = some (body, rest) ↔
      VerbatimBody body ∧ cs = body ++ '"' :: rest ∧ rest.head? ≠ some '"' := by
  constructor
  · intro hread
    fun_induction readVerbatim cs generalizing body with
    | case1 => exact absurd hread (by simp)
    | case2 tail ih =>
      obtain ⟨⟨front, after⟩, hfront, heq⟩ := Option.map_eq_some_iff.mp hread
      obtain ⟨rfl, rfl⟩ := Prod.mk.inj heq
      obtain ⟨hbody, rfl, hnext⟩ := ih hfront
      exact ⟨.doubled hbody, rfl, hnext⟩
    | case3 tail hnext =>
      obtain ⟨rfl, rfl⟩ := Prod.mk.inj (Option.some.inj hread)
      refine ⟨.nil, rfl, ?_⟩
      intro hhead
      obtain ⟨after, htail⟩ := List.head?_eq_some_iff.mp hhead
      exact hnext after htail
    | case4 c tail hc ih =>
      obtain ⟨⟨front, after⟩, hfront, heq⟩ := Option.map_eq_some_iff.mp hread
      obtain ⟨rfl, rfl⟩ := Prod.mk.inj heq
      obtain ⟨hbody, rfl, hnext⟩ := ih hfront
      exact ⟨.plain hc hbody, rfl, hnext⟩
  · rintro ⟨hbody, rfl, hnext⟩
    induction hbody with
    | nil =>
      cases rest with
      | nil => rfl
      | cons c rest =>
        have hc : c ≠ '"' := fun h ↦ hnext (congrArg some h)
        simp [readVerbatim, hc]
    | plain hc _ ih =>
      rw [List.cons_append, readVerbatim_of_ne hc, ih]
      rfl
    | doubled _ ih =>
      rw [List.cons_append, List.cons_append, readVerbatim, if_pos rfl, ih]
      rfl

/-! ## The literals of a text -/

/-- No character of the text is a quote. -/
def QuoteFree (text : List Char) : Prop := ∀ c ∈ text, c ∉ quotes

instance (text : List Char) : Decidable (QuoteFree text) :=
  decidable_of_iff (text.all fun c ↦ c ∉ quotes) List.all_iff_forall_prop

theorem QuoteFree.append {front back : List Char} (hfront : QuoteFree front)
    (hback : QuoteFree back) : QuoteFree (front ++ back) := by
  intro c hc
  rcases List.mem_append.mp hc with hmem | hmem
  · exact hfront c hmem
  · exact hback c hmem

/-- The first literal of a text that begins in code, and what follows the literal. There is none
where it does not end. -/
def first? : List Char → Option (Literal × List Char)
  | [] => none
  | '@' :: '"' :: rest =>
    (readVerbatim rest).map fun (body, after) ↦ (⟨true, '"' :: body ++ ['"']⟩, after)
  | c :: rest =>
    if c ∈ quotes then
      (readQuoted c rest).map fun (body, after) ↦ (⟨false, c :: body ++ [c]⟩, after)
    else first? rest

/-- The literal can stand between these two texts if it opens in code. -/
inductive Between : List Char → Literal → List Char → Prop
  | quoted {before body after : List Char} {quote : Char} (hquote : quote ∈ quotes)
      (hbefore : quote = '"' → before.getLast? ≠ some '@') (hbody : QuotedBody quote body) :
      Between before ⟨false, quote :: body ++ [quote]⟩ after
  | verbatim {before body after : List Char} (hbefore : before.getLast? = some '@')
      (hbody : VerbatimBody body) (hafter : after.head? ≠ some '"') :
      Between before ⟨true, '"' :: body ++ ['"']⟩ after

theorem ne_backslash_of_mem_quotes {quote : Char} (hquote : quote ∈ quotes) : quote ≠ '\\' := by
  rintro rfl
  exact absurd hquote (by decide)

theorem first?_cons {c : Char} {rest : List Char} (hc : c ∉ quotes)
    (hat : c = '@' → rest.head? ≠ some '"') : first? (c :: rest) = first? rest := by
  rw [first?, if_neg hc]
  rintro tail rfl rfl
  exact hat rfl rfl

/-- A quote outside of literals begins one, which may have no end. -/
theorem first?_quote {quote : Char} (hquote : quote ∈ quotes) (rest : List Char) :
    first? (quote :: rest) =
      (readQuoted quote rest).map fun (body, after) ↦
        (⟨false, quote :: body ++ [quote]⟩, after) := by
  rw [first?, if_pos hquote]
  rintro tail rfl
  exact absurd hquote (by decide)

/-- Text without quotes is skipped, unless it ends in the at sign of a verbatim string. -/
theorem first?_append {code text : List Char} (hcode : QuoteFree code)
    (hat : code.getLast? = some '@' → text.head? ≠ some '"') :
    first? (code ++ text) = first? text := by
  induction code with
  | nil => rfl
  | cons c code ih =>
    have hskip : c = '@' → (code ++ text).head? ≠ some '"' := by
      rintro rfl
      cases code with
      | nil => exact hat rfl
      | cons next code =>
        have hnext : next ∉ quotes := hcode next (List.mem_cons_of_mem _ List.mem_cons_self)
        rintro ⟨⟩
        exact hnext (by decide)
    rw [List.cons_append, first?_cons (hcode c List.mem_cons_self) hskip]
    refine ih (fun d hd ↦ hcode d (List.mem_cons_of_mem _ hd)) fun hlast ↦ hat ?_
    rw [List.getLast?_cons, hlast, Option.getD_some]

theorem first?_eq_none {text : List Char} (htext : QuoteFree text) : first? text = none := by
  have happend : first? (text ++ []) = first? [] := first?_append htext (by simp)
  rwa [List.append_nil] at happend

/-- The first literal stands behind code without quotes. -/
theorem exists_between_of_first? {text after : List Char} {literal : Literal}
    (hfirst : first? text = some (literal, after)) :
    ∃ code, QuoteFree code ∧ Between code literal after ∧ text = code ++ literal.text ++ after := by
  fun_induction first? text with
  | case1 => exact absurd hfirst (by simp)
  | case2 rest =>
    obtain ⟨⟨body, behind⟩, hread, heq⟩ := Option.map_eq_some_iff.mp hfirst
    obtain ⟨rfl, rfl⟩ := Prod.mk.inj heq
    obtain ⟨hbody, rfl, hafter⟩ := readVerbatim_eq_some_iff.mp hread
    refine ⟨['@'], by simp [QuoteFree, quotes], .verbatim rfl hbody hafter, by simp⟩
  | case3 quote rest _ hquote =>
    obtain ⟨⟨body, behind⟩, hread, heq⟩ := Option.map_eq_some_iff.mp hfirst
    obtain ⟨rfl, rfl⟩ := Prod.mk.inj heq
    obtain ⟨hbody, rfl⟩ := (readQuoted_eq_some_iff (ne_backslash_of_mem_quotes hquote)).mp hread
    exact ⟨[], by simp [QuoteFree], .quoted hquote (by simp) hbody, by simp⟩
  | case4 c rest hat hc ih =>
    obtain ⟨code, hcode, hbetween, rfl⟩ := ih hfirst
    refine ⟨c :: code, List.forall_mem_cons.mpr ⟨hc, hcode⟩, ?_, rfl⟩
    cases hbetween with
    | quoted hquote hbefore hbody =>
      refine .quoted hquote (fun hdouble ↦ ?_) hbody
      subst hdouble
      rw [List.getLast?_cons]
      cases hlast : code.getLast? with
      | some last => exact fun h ↦ hbefore rfl (hlast.trans h)
      | none =>
        obtain rfl := List.getLast?_eq_none_iff.mp hlast
        intro h
        exact hat _ (Option.some.inj h) rfl
    | verbatim hbefore hbody hafter =>
      refine .verbatim ?_ hbody hafter
      rw [List.getLast?_cons, hbefore, Option.getD_some]

/-- The first literal and what follows it depend on nothing else than where they stand. -/
theorem first?_of_between {code after : List Char} {literal : Literal} (hcode : QuoteFree code)
    (hbetween : Between code literal after) :
    first? (code ++ literal.text ++ after) = some (literal, after) := by
  rw [List.append_assoc]
  cases hbetween with
  | quoted hquote hbefore hbody =>
    rename_i body quote
    have hread : readQuoted quote (body ++ quote :: after) = some (body, after) :=
      (readQuoted_eq_some_iff (ne_backslash_of_mem_quotes hquote)).mpr ⟨hbody, rfl⟩
    rw [first?_append hcode, List.append_assoc, List.cons_append, first?_quote hquote,
      List.singleton_append, hread]
    · rfl
    · intro hlast hhead
      exact hbefore (Option.some.inj hhead) hlast
  | verbatim hbefore hbody hafter =>
    rename_i body
    have hread : readVerbatim (body ++ '"' :: after) = some (body, after) :=
      readVerbatim_eq_some_iff.mpr ⟨hbody, rfl, hafter⟩
    obtain ⟨front, rfl⟩ := List.getLast?_eq_some_iff.mp hbefore
    rw [List.append_assoc, first?_append]
    · simp [first?, hread]
    · exact fun c hc ↦ hcode c (List.mem_append_left _ hc)
    · simp

theorem Between.text_ne_nil {before after : List Char} {literal : Literal}
    (hbetween : Between before literal after) : literal.text ≠ [] := by
  cases hbetween <;> simp

/-- A literal stands between two quotes of one kind. -/
theorem Between.exists_quote {before after : List Char} {literal : Literal}
    (hbetween : Between before literal after) :
    ∃ quote ∈ quotes, ∃ body, literal.text = quote :: body ++ [quote] := by
  cases hbetween with
  | quoted hquote => exact ⟨_, hquote, _, rfl⟩
  | verbatim => exact ⟨'"', by decide, _, rfl⟩

/-- A literal is told by what stands just behind it, not by the rest. -/
theorem Between.of_append {before front back : List Char} {literal : Literal}
    (hbetween : Between before literal (front ++ back)) : Between before literal front := by
  generalize hafter : front ++ back = after at hbetween
  cases hbetween with
  | quoted hquote hbefore hbody => exact .quoted hquote hbefore hbody
  | verbatim hbefore hbody hnext =>
    refine .verbatim hbefore hbody fun hhead ↦ hnext ?_
    rw [← hafter, List.head?_append, hhead, Option.some_or]

theorem length_lt_of_first? {text after : List Char} {literal : Literal}
    (hfirst : first? text = some (literal, after)) : after.length < text.length := by
  obtain ⟨code, -, hbetween, rfl⟩ := exists_between_of_first? hfirst
  have hpos := List.length_pos_iff.mpr hbetween.text_ne_nil
  simp only [List.length_append]
  omega

/-- The literals of a text, from left to right, up to one that does not end. -/
def all (text : List Char) : List Literal :=
  match hfirst : first? text with
  | none => []
  | some (literal, after) =>
    have := length_lt_of_first? hfirst
    literal :: all after
termination_by text.length

theorem all_of_none {text : List Char} (hfirst : first? text = none) : all text = [] := by
  rw [all]
  split
  · rfl
  · rename_i hsome
    rw [hfirst] at hsome
    contradiction

theorem all_of_some {text after : List Char} {literal : Literal}
    (hfirst : first? text = some (literal, after)) : all text = literal :: all after := by
  rw [all]
  split
  · rename_i hnone
    rw [hfirst] at hnone
    contradiction
  · rename_i hsome
    rw [hfirst] at hsome
    obtain ⟨rfl, rfl⟩ := Prod.mk.inj (Option.some.inj hsome)
    rfl

theorem all_congr {text other : List Char} (hfirst : first? text = first? other) :
    all text = all other := by
  cases hother : first? other with
  | none => rw [all_of_none (hfirst.trans hother), all_of_none hother]
  | some found => rw [all_of_some (hfirst.trans hother), all_of_some hother]

/-! ## Closed texts -/

/-- Read from code, every literal of the text ends in it. -/
inductive Closed : List Char → Prop
  | code {text : List Char} (htext : QuoteFree text) : Closed text
  | literal {text after : List Char} {literal : Literal}
      (hfirst : first? text = some (literal, after)) (hafter : Closed after) : Closed text

/-- What is added behind a literal, and does not go on with it, leaves it as it is. -/
theorem first?_append_of_some {front after back : List Char} {literal : Literal}
    (hfirst : first? front = some (literal, after)) (hback : back.head? ≠ some '"') :
    first? (front ++ back) = some (literal, after ++ back) := by
  obtain ⟨code, hcode, hbetween, rfl⟩ := exists_between_of_first? hfirst
  have hmore : Between code literal (after ++ back) := by
    cases hbetween with
    | quoted hquote hbefore hbody => exact .quoted hquote hbefore hbody
    | verbatim hbefore hbody hafter =>
      refine .verbatim hbefore hbody ?_
      cases after with
      | nil => exact hback
      | cons c after => exact hafter
  rw [List.append_assoc]
  exact first?_of_between hcode hmore

/-- Where all literals of a text end, those of what follows come behind them. -/
theorem Closed.all_append {front back : List Char} (hfront : Closed front)
    (hback : back.head? ≠ some '"') : all (front ++ back) = all front ++ all back := by
  induction hfront with
  | code htext =>
    rw [all_congr (first?_append htext fun _ ↦ hback), all_of_none (first?_eq_none htext),
      List.nil_append]
  | literal hfirst _ ih =>
    rw [all_of_some (first?_append_of_some hfirst hback), all_of_some hfirst, ih, List.cons_append]

/-- Two texts whose literals end are so in a row, if no quote at the joint makes a literal longer.
-/
theorem Closed.append {front back : List Char} (hfront : Closed front) (hback : Closed back)
    (hnext : back.head? ≠ some '"') : Closed (front ++ back) := by
  induction hfront with
  | code htext =>
    cases hback with
    | code hfree => exact .code (htext.append hfree)
    | literal hfirst hafter =>
      exact .literal ((first?_append htext fun _ ↦ hnext).trans hfirst) hafter
  | literal hfirst _ ih => exact .literal (first?_append_of_some hfirst hnext) ih

/-- What follows a text whose literals end begins outside of literals. -/
theorem Closed.of_append {front back : List Char} (hfront : Closed front)
    (htext : Closed (front ++ back)) (hnext : back.head? ≠ some '"') : Closed back := by
  induction hfront with
  | @code front hfree =>
    have hskip := first?_append hfree fun _ ↦ hnext
    cases htext with
    | code htext => exact .code fun c hc ↦ htext c (List.mem_append_right _ hc)
    | literal hfirst hafter => exact .literal (hskip.symm.trans hfirst) hafter
  | @literal front after literal hfirst _ ih =>
    have hmore := first?_append_of_some hfirst hnext
    cases htext with
    | code htext => exact absurd (hmore.symm.trans (first?_eq_none htext)) (by simp)
    | literal hsome hafter =>
      obtain ⟨rfl, rfl⟩ := Prod.mk.inj (Option.some.inj (hmore.symm.trans hsome))
      exact ih hafter

/-- Text in which no literal begins or ends, wherever in code it stands. -/
structure IsCode (text : List Char) : Prop where
  ne_nil : text ≠ []
  quoteFree : QuoteFree text
  getLast?_ne : text.getLast? ≠ some '@'

theorem IsCode.head?_append_ne {text : List Char} (htext : IsCode text) (rest : List Char) :
    (text ++ rest).head? ≠ some '"' := by
  obtain ⟨c, others, rfl⟩ := List.exists_cons_of_ne_nil htext.ne_nil
  intro hhead
  obtain rfl := Option.some.inj hhead
  exact htext.quoteFree '"' List.mem_cons_self (by decide)

theorem IsCode.first?_append {text : List Char} (htext : IsCode text) (rest : List Char) :
    first? (text ++ rest) = first? rest :=
  Literal.first?_append htext.quoteFree fun hlast ↦ absurd hlast htext.getLast?_ne

/-- Code before a text opens no literal in it. -/
theorem IsCode.closed_append_iff {text rest : List Char} (htext : IsCode text) :
    Closed (text ++ rest) ↔ Closed rest := by
  have hskip := htext.first?_append rest
  constructor
  · intro hclosed
    cases hclosed with
    | code hfree => exact .code fun c hc ↦ hfree c (List.mem_append_right _ hc)
    | literal hfirst hafter => exact .literal (hskip.symm.trans hfirst) hafter
  · intro hclosed
    cases hclosed with
    | code hfree => exact .code (htext.quoteFree.append hfree)
    | literal hfirst hafter => exact .literal (hskip.trans hfirst) hafter

def quoteCount (text : List Char) : Nat := text.countP fun c ↦ c ∈ quotes

theorem quoteCount_append (front back : List Char) :
    quoteCount (front ++ back) = quoteCount front + quoteCount back :=
  List.countP_append

theorem quoteCount_eq_zero_iff {text : List Char} : quoteCount text = 0 ↔ QuoteFree text := by
  simp [quoteCount, QuoteFree, List.countP_eq_zero]

/-- Two texts that are cut at the same quote have been cut at the same place. -/
theorem eq_of_append_quote_eq {left right left' right' : List Char} {quote quote' : Char}
    (hquote : quote ∈ quotes) (hquote' : quote' ∈ quotes)
    (hcount : quoteCount left = quoteCount left')
    (heq : left ++ quote :: right = left' ++ quote' :: right') : left = left' ∧ right = right' := by
  rcases Lists.append_cons_cases heq with ⟨between, rfl, hbetween⟩ | ⟨within, rfl, -⟩
  · cases between with
    | nil =>
      rw [List.append_nil]
      exact ⟨rfl, (List.cons.inj hbetween).2⟩
    | cons c between =>
      obtain ⟨rfl, -⟩ := List.cons.inj hbetween
      simp [quoteCount, hquote] at hcount
  · simp [quoteCount, hquote'] at hcount

theorem exists_first?_of_all_eq_cons {text : List Char} {literal : Literal} {others : List Literal}
    (hall : all text = literal :: others) :
    ∃ after, first? text = some (literal, after) ∧ all after = others := by
  cases hfirst : first? text with
  | none => simp [all_of_none hfirst] at hall
  | some found =>
    obtain ⟨first, after⟩ := found
    rw [all_of_some hfirst] at hall
    obtain ⟨rfl, hothers⟩ := List.cons.inj hall
    exact ⟨after, rfl, hothers⟩

/-- A text whose first literal is known has its quotes where the literal has them. -/
theorem eq_of_all_eq_cons {front inside back body : List Char} {quote : Char} {literal : Literal}
    {others : List Literal} (hquote : quote ∈ quotes)
    (hliteral : literal.text = quote :: body ++ [quote]) (hfront : QuoteFree front)
    (hcount : quoteCount inside = quoteCount body)
    (hall : all (front ++ quote :: (inside ++ quote :: back)) = literal :: others) :
    inside = body ∧ all back = others := by
  obtain ⟨after, hfirst, hafter⟩ := exists_first?_of_all_eq_cons hall
  obtain ⟨code, hcode, -, heq⟩ := exists_between_of_first? hfirst
  have hsame : front ++ quote :: (inside ++ quote :: back) =
      code ++ quote :: (body ++ quote :: after) := by
    rw [heq, hliteral]
    simp
  have hcountCode : quoteCount front = quoteCount code := by
    rw [quoteCount_eq_zero_iff.mpr hfront, quoteCount_eq_zero_iff.mpr hcode]
  obtain ⟨-, hbehind⟩ := eq_of_append_quote_eq hquote hquote hcountCode hsame
  obtain ⟨hinside, rfl⟩ := eq_of_append_quote_eq hquote hquote hcount hbehind
  exact ⟨hinside, hafter⟩

/-- In a closed text every quote belongs to a literal, so the same literals need as many quotes. -/
theorem Closed.quoteCount_le {text other : List Char} (htext : Closed text)
    (hall : all text = all other) : quoteCount text ≤ quoteCount other := by
  induction htext generalizing other with
  | code hfree => exact (quoteCount_eq_zero_iff.mpr hfree).le.trans (Nat.zero_le _)
  | literal hfirst _ ih =>
    rw [all_of_some hfirst] at hall
    obtain ⟨rest, hother, hrest⟩ := exists_first?_of_all_eq_cons hall.symm
    obtain ⟨code, hcode, -, rfl⟩ := exists_between_of_first? hfirst
    obtain ⟨front, -, -, rfl⟩ := exists_between_of_first? hother
    have hcount := ih hrest.symm
    have hzero := quoteCount_eq_zero_iff.mpr hcode
    simp only [quoteCount_append]
    omega

end Literal

namespace Invocation

open Literal

variable {depth : Nat} {piece : List Char} {found : List String}

theorem splitArguments_quoted_of_ne {quote c : Char} (hc : c ≠ '\\') (rest : List Char) :
    splitArguments (.quoted quote) depth piece found (c :: rest) =
      splitArguments (if c = quote then .code else .quoted quote) depth (c :: piece) found rest := by
  cases rest <;> simp [splitArguments, hc]

theorem splitArguments_verbatim_of_ne {c : Char} (hc : c ≠ '"') (rest : List Char) :
    splitArguments .verbatim depth piece found (c :: rest) =
      splitArguments .verbatim depth (c :: piece) found rest := by
  rw [splitArguments.eq_def]
  simp [hc]

/-- In a literal, the reader of arguments goes on in code behind the quote that ends it. -/
theorem splitArguments_quoted (quote : Char) (cs : List Char) :
    splitArguments (.quoted quote) depth piece found cs =
      (readQuoted quote cs).bind fun (body, rest) ↦
        splitArguments .code depth (quote :: (body.reverse ++ piece)) found rest := by
  fun_induction readQuoted quote cs generalizing piece with
  | case1 => rfl
  | case2 => rfl
  | case3 escaped tail ih =>
    rw [splitArguments, if_pos rfl, ih]
    cases readQuoted quote tail <;> simp
  | case4 tail hbackslash =>
    rw [splitArguments_quoted_of_ne hbackslash, if_pos rfl]
    rfl
  | case5 c tail hbackslash hc ih =>
    rw [splitArguments_quoted_of_ne hbackslash, if_neg hc, ih]
    cases readQuoted quote tail <;> simp

/-- The reader of arguments takes a verbatim string to its end, and fails where there is none. -/
theorem splitArguments_verbatim (cs : List Char) :
    splitArguments .verbatim depth piece found cs =
      (readVerbatim cs).bind fun (body, rest) ↦
        splitArguments .code depth ('"' :: (body.reverse ++ piece)) found rest := by
  fun_induction readVerbatim cs generalizing piece with
  | case1 => rfl
  | case2 tail ih =>
    rw [splitArguments, if_pos rfl, ih]
    cases readVerbatim tail <;> simp
  | case3 tail hnext => simp [splitArguments]
  | case4 c tail hc ih =>
    rw [splitArguments_verbatim_of_ne hc, ih]
    cases readVerbatim tail <;> simp

end Invocation

end GuardedProxy
