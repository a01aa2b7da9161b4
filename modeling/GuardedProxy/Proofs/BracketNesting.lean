import GuardedProxy.Proofs.InvocationText
import GuardedProxy.Proofs.TextMarks

/-!
# Brackets in an argument

The reader of arguments counts brackets and forgets their kinds. So in an argument that it accepts
every literal ends and the brackets outside of literals are nested when their kinds are left out of
account, but a bracket may be closed by one of another kind. The brackets are matched as well
exactly when each closing bracket is of the kind of the bracket that was opened last and is still
open.
-/

namespace GuardedProxy.Invocation

open Literal

/-- The characters of a text that stand outside of literals. The quotes of a literal are a part of
it. -/
def outside (text : List Char) : List Char :=
  ((classify (.code false) text).filter fun c ↦ c.2 == .code).map Prod.fst

/-- The brackets of a text that stand outside of literals. -/
def bracketsIn (text : List Char) : List Char :=
  (outside text).filter (· ∈ openings ++ closings)

theorem outside_code {c : Char} {rest : List Char} (hc : c ∉ quotes)
    (hat : c = '@' → rest.head? ≠ some '"') : outside (c :: rest) = c :: outside rest := by
  rw [outside, classify_code hc hat]
  rfl

theorem filter_literal {role : Role} (hrole : role ≠ .code) (text : List Char) :
    (text.map (·, role)).filter (fun c ↦ c.2 == .code) = [] := by
  simp [List.filter_map, Function.comp_def, beq_eq_false_iff_ne.mpr hrole]

theorem outside_quoted {quote : Char} {body : List Char} (hquote : quote ∈ quotes)
    (hbody : QuotedBody quote body) (rest : List Char) :
    outside (quote :: body ++ [quote] ++ rest) = outside rest := by
  rw [outside, classify_quotedLiteral hquote hbody, List.filter_append,
    filter_literal (Role.ofQuote_ne_code quote), List.nil_append, outside]

/-- Of a verbatim string, only the at sign is outside of literals. -/
theorem outside_verbatim {body rest : List Char} (hbody : VerbatimBody body)
    (hrest : rest.head? ≠ some '"') :
    outside ('@' :: '"' :: body ++ ['"'] ++ rest) = '@' :: outside rest := by
  rw [outside, classify_verbatimLiteral hbody hrest, List.filter_cons_of_pos rfl,
    List.filter_append, filter_literal (by decide), List.nil_append, List.map_cons, outside]

theorem bracketsIn_bracket {c : Char} (hc : c ∈ openings ++ closings) (rest : List Char) :
    bracketsIn ([c] ++ rest) = c :: bracketsIn rest := by
  have hcode : ∀ c ∈ openings ++ closings, c ∉ quotes ∧ c ≠ '@' :=
    List.all_iff_forall_prop.mp (by decide)
  rw [bracketsIn, List.singleton_append,
    outside_code (hcode c hc).1 fun hat ↦ absurd hat (hcode c hc).2,
    List.filter_cons, if_pos (decide_eq_true hc), bracketsIn]

theorem bracketsIn_code {c : Char} {rest : List Char} (hc : c ∉ openings ++ closings)
    (hquote : c ∉ quotes) (hends : Ends [c] rest) : bracketsIn ([c] ++ rest) = bracketsIn rest := by
  have hnot : ¬decide (c ∈ openings ++ closings) = true := by simpa using hc
  rw [bracketsIn, List.singleton_append,
    outside_code hquote fun hat ↦ hends (congrArg some hat), List.filter_cons, if_neg hnot,
    bracketsIn]

theorem bracketsIn_quoted {quote : Char} {body : List Char} (hquote : quote ∈ quotes)
    (hbody : QuotedBody quote body) (rest : List Char) :
    bracketsIn (quote :: body ++ [quote] ++ rest) = bracketsIn rest := by
  rw [bracketsIn, outside_quoted hquote hbody, bracketsIn]

theorem bracketsIn_verbatim {body rest : List Char} (hbody : VerbatimBody body)
    (hrest : rest.head? ≠ some '"') :
    bracketsIn ('@' :: '"' :: body ++ ['"'] ++ rest) = bracketsIn rest := by
  rw [bracketsIn, outside_verbatim hbody hrest]
  rfl

/-- Every bracket that is opened is closed by the other one of a pair, the last one first. -/
inductive Nested (pairs : List (Char × Char)) : List Char → Prop
  | nil : Nested pairs []
  | group {opening closing : Char} {inside rest : List Char}
      (hpair : (opening, closing) ∈ pairs) (hinside : Nested pairs inside)
      (hrest : Nested pairs rest) : Nested pairs (opening :: inside ++ closing :: rest)

/-- Any opening bracket with any closing one. -/
def anyBrackets : List (Char × Char) := openings ×ˢ closings

/-- The brackets close as many that are open before them as the depth says, and leave none open. -/
def Closes : Nat → List Char → Prop
  | 0, brackets => Nested anyBrackets brackets
  | depth + 1, brackets => ∃ inside closing rest, brackets = inside ++ closing :: rest ∧
      Nested anyBrackets inside ∧ closing ∈ closings ∧ Closes depth rest

/-- An opening bracket needs one more closing bracket behind it. -/
theorem Closes.opening {depth : Nat} {brackets : List Char} {c : Char} (hc : c ∈ openings)
    (hcloses : Closes (depth + 1) brackets) : Closes depth (c :: brackets) := by
  obtain ⟨inside, closing, rest, rfl, hinside, hclosing, hrest⟩ := hcloses
  have hpair : (c, closing) ∈ anyBrackets := List.pair_mem_product.mpr ⟨hc, hclosing⟩
  cases depth with
  | zero => exact .group hpair hinside hrest
  | succ depth =>
    obtain ⟨next, last, behind, rfl, hnext, hlast, hbehind⟩ := hrest
    exact ⟨c :: inside ++ closing :: next, last, behind, by simp, .group hpair hinside hnext, hlast,
      hbehind⟩

/-- The reader counts as the brackets are nested, one step after the other. -/
theorem Passage.closes {depth : Nat} {text : List Char} (htext : Passage depth text 0) :
    Closes depth (bracketsIn text) := by
  generalize hend : 0 = after at htext
  induction htext with
  | nil =>
    subst hend
    exact .nil
  | @step depth middle after text rest hstep hends _ ih =>
    have hrest := ih hend
    cases hstep with
    | plain hc =>
      rw [mem_signs_iff] at hc
      rw [bracketsIn_code (by simp_all) (by simp_all) hends]
      exact hrest
    | atSign | comma =>
      rw [bracketsIn_code (by decide) (by decide) hends]
      exact hrest
    | quoted hquote hbody =>
      rw [bracketsIn_quoted hquote hbody]
      exact hrest
    | verbatim hbody =>
      rw [bracketsIn_verbatim hbody (hends rfl)]
      exact hrest
    | opening hc =>
      rw [bracketsIn_bracket (List.mem_append_left _ hc)]
      exact hrest.opening hc
    | @closing _ c hc =>
      rw [bracketsIn_bracket (List.mem_append_right _ hc)]
      exact ⟨[], c, _, rfl, .nil, hc, hrest⟩

/-! ## The kinds of brackets -/

/-- The brackets that are open behind a bracket, the one that was opened last at the head. -/
def keepOpen (stack : List Char) (c : Char) : List Char :=
  if c ∈ openings then c :: stack else stack.tail

/-- The brackets that are still open behind a list of them. -/
def stillOpen (stack brackets : List Char) : List Char := brackets.foldl keepOpen stack

/-- Each closing bracket is of the kind of the bracket that was opened last and is still open. -/
def KindsMatch (stack text : List Char) : Prop :=
  ∀ before closing after, text = before ++ closing :: after → closing ∈ closings →
    ∃ opening, (stillOpen stack before).head? = some opening ∧ (opening, closing) ∈ brackets

theorem stillOpen_opening {c : Char} (hc : c ∈ openings) (stack brackets : List Char) :
    stillOpen stack (c :: brackets) = stillOpen (c :: stack) brackets := by
  rw [stillOpen, List.foldl_cons, keepOpen, if_pos hc, stillOpen]

theorem stillOpen_closing {c : Char} (hc : c ∈ closings) (stack brackets : List Char) :
    stillOpen stack (c :: brackets) = stillOpen stack.tail brackets := by
  have hopening : c ∉ openings := fun hopening ↦ not_mem_closings hopening hc
  rw [stillOpen, List.foldl_cons, keepOpen, if_neg hopening, stillOpen]

theorem stillOpen_append (stack front back : List Char) :
    stillOpen stack (front ++ back) = stillOpen (stillOpen stack front) back :=
  List.foldl_append

/-- What is nested leaves the open brackets before it as they are. -/
theorem Nested.stillOpen_eq {text : List Char} (htext : Nested anyBrackets text)
    (stack : List Char) : stillOpen stack text = stack := by
  induction htext generalizing stack with
  | nil => rfl
  | @group opening closing inside rest hpair _ _ ihinside ihrest =>
    obtain ⟨hopening, hclosing⟩ := List.pair_mem_product.mp hpair
    rw [List.cons_append, stillOpen_opening hopening, stillOpen_append, ihinside,
      stillOpen_closing hclosing, List.tail_cons, ihrest]

/-- Kinds match in a text if they match in its parts, where the second begins with what the first
left open. -/
theorem kindsMatch_append_iff {stack front back : List Char} :
    KindsMatch stack (front ++ back) ↔
      KindsMatch stack front ∧ KindsMatch (stillOpen stack front) back := by
  constructor
  · intro hkinds
    constructor
    · rintro before closing after rfl hclosing
      exact hkinds before closing (after ++ back) (by simp) hclosing
    · rintro before closing after rfl hclosing
      rw [← stillOpen_append]
      exact hkinds (front ++ before) closing after (by simp) hclosing
  · rintro ⟨hfront, hback⟩ before closing after heq hclosing
    rcases Lists.append_cons_cases heq with ⟨between, rfl, hbetween⟩ | ⟨within, hwithin, -⟩
    · rw [stillOpen_append]
      exact hback between closing after hbetween hclosing
    · exact hfront before closing within hwithin hclosing

theorem kindsMatch_singleton_iff {stack : List Char} {closing : Char} (hclosing : closing ∈ closings) :
    KindsMatch stack [closing] ↔
      ∃ opening, stack.head? = some opening ∧ (opening, closing) ∈ brackets := by
  constructor
  · exact fun hkinds ↦ hkinds [] closing [] rfl hclosing
  · rintro hkind before found after heq -
    cases before with
    | nil =>
      obtain ⟨rfl, -⟩ := List.cons.inj heq
      exact hkind
    | cons first before => simp at heq

theorem kindsMatch_opening {stack : List Char} {opening : Char} (hopening : opening ∈ openings) :
    KindsMatch stack [opening] := by
  intro before found after heq hfound
  have hmem : found ∈ [opening] := by simp [heq]
  rw [List.mem_singleton.mp hmem] at hfound
  exact absurd hfound (not_mem_closings hopening)

/-- In a group the closing bracket meets the opening one, whatever is nested between them. -/
theorem kindsMatch_group_iff {stack inside rest : List Char} {opening closing : Char}
    (hpair : (opening, closing) ∈ anyBrackets) (hinside : Nested anyBrackets inside) :
    KindsMatch stack (opening :: inside ++ closing :: rest) ↔
      (opening, closing) ∈ brackets ∧ KindsMatch (opening :: stack) inside ∧
        KindsMatch stack rest := by
  obtain ⟨hopening, hclosing⟩ := List.pair_mem_product.mp hpair
  have hsplit : opening :: inside ++ closing :: rest =
      [opening] ++ (inside ++ ([closing] ++ rest)) := by simp
  have hopen : stillOpen stack [opening] = opening :: stack := stillOpen_opening hopening stack []
  have hclose : stillOpen (opening :: stack) [closing] = stack :=
    stillOpen_closing hclosing (opening :: stack) []
  rw [hsplit, kindsMatch_append_iff, and_iff_right (kindsMatch_opening hopening), hopen,
    kindsMatch_append_iff, hinside.stillOpen_eq, kindsMatch_append_iff,
    kindsMatch_singleton_iff hclosing, hclose]
  simp only [List.head?_cons, Option.some.injEq, exists_eq_left']
  exact and_left_comm

theorem Nested.any {text : List Char} (htext : Nested brackets text) : Nested anyBrackets text := by
  induction htext with
  | nil => exact .nil
  | group hpair _ _ ihinside ihrest =>
    exact .group (List.pair_mem_product.mpr (mem_openings_of_brackets hpair)) ihinside ihrest

/-- Brackets that are nested with their kinds match, whatever is open before them. -/
theorem Nested.kindsMatch {text : List Char} (htext : Nested brackets text) (stack : List Char) :
    KindsMatch stack text := by
  induction htext generalizing stack with
  | nil => exact fun before closing after heq ↦ by simp at heq
  | group hpair hinside _ ihinside ihrest =>
    have hany := List.pair_mem_product.mpr (mem_openings_of_brackets hpair)
    exact (kindsMatch_group_iff hany hinside.any).mpr ⟨hpair, ihinside _, ihrest _⟩

/-- Brackets that are nested and match are nested with their kinds. -/
theorem Nested.of_kindsMatch {text stack : List Char} (htext : Nested anyBrackets text)
    (hkinds : KindsMatch stack text) : Nested brackets text := by
  induction htext generalizing stack with
  | nil => exact .nil
  | group hpair hinside _ ihinside ihrest =>
    obtain ⟨hkind, hkindsInside, hkindsRest⟩ := (kindsMatch_group_iff hpair hinside).mp hkinds
    exact .group hkind (ihinside hkindsInside) (ihrest hkindsRest)

/-- In every argument of an invocation that is read off a text all literals end and all brackets
outside of them are nested, apart from their kinds. They are nested with their kinds exactly when
each closing bracket is of the kind of the bracket that was opened last and is still open. -/
theorem nested_arguments_of_parse {text : String} {invocation : Invocation}
    (hparse : parse text = some invocation) {argument : String}
    (hargument : argument ∈ invocation.arguments) :
    Closed argument.toList ∧ Nested anyBrackets (bracketsIn argument.toList) ∧
      (Nested brackets (bracketsIn argument.toList) ↔
        KindsMatch [] (bracketsIn argument.toList)) := by
  obtain ⟨-, -, hpassage⟩ := (isReadable_of_parse hparse).arguments argument hargument
  have hnested : Nested anyBrackets (bracketsIn argument.toList) := hpassage.closes
  refine ⟨hpassage.closed, hnested, ?_⟩
  constructor
  · exact fun hmatched ↦ hmatched.kindsMatch []
  · exact fun hkinds ↦ hnested.of_kindsMatch hkinds

/-- A parenthesis that a square bracket closes is accepted. -/
theorem nested_arguments_of_parse_mismatch :
    let invocation : Invocation := ⟨"Contract.Requires", none, ["a(b]"]⟩
    parse "Contract.Requires(a(b])" = some invocation ∧ "a(b]" ∈ invocation.arguments ∧
      Nested anyBrackets (bracketsIn "a(b]".toList) ∧ ¬Nested brackets (bracketsIn "a(b]".toList) := by
  intro invocation
  have hparse : parse "Contract.Requires(a(b])" = some invocation := by decide +kernel
  have hargument : "a(b]" ∈ invocation.arguments := by decide
  obtain ⟨-, hnested, hiff⟩ := nested_arguments_of_parse hparse hargument
  refine ⟨hparse, hargument, hnested, fun hmatched ↦ ?_⟩
  obtain ⟨opening, hopening, hkind⟩ := hiff.mp hmatched ['('] ']' [] (by decide) (by decide)
  obtain rfl : '(' = opening := Option.some.inj hopening
  exact absurd hkind (by decide)

end GuardedProxy.Invocation
