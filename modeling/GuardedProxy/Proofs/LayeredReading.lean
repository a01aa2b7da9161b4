import GuardedProxy.Proofs.ByteSpan
import GuardedProxy.Proofs.TextMarks
import Mathlib.Logic.Relation

/-!
# Argument lists are read in layers

The reader of an argument list tells literals from code, counts brackets and cuts at commas all at
once, and it looks ahead and skips characters on the way. What it reads is nevertheless what the
layers give, where every character is classified before the first bracket is counted and every
bracket counted before the first cut is made. Its counter is the number of brackets that are open,
and it is never lowered at zero.
-/

namespace GuardedProxy.Invocation

open Literal

theorem Mark.isCode_eq_false {mark : Mark} (hrole : mark.role ≠ .code) (chars : List Char) :
    mark.isCode chars = false := by
  rw [isCode, beq_eq_false_iff_ne.mpr hrole, Bool.false_and]

/-- What belongs to a literal neither ends nor divides a list. -/
theorem Mark.passed_of_role {mark : Mark} (hrole : mark.role ≠ .code) : mark.Passed := by
  simp [Passed, ends, strays, divides, isCode_eq_false hrole]

/-- What stands in brackets neither ends nor divides a list. -/
theorem Mark.passed_of_depth {mark : Mark} (hdepth : mark.depth ≠ 0) : mark.Passed := by
  simp [Passed, ends, strays, divides, hdepth]

/-- Marks that take a reader from the one depth to the other. -/
structure Passes (depth : Nat) (taken : List Mark) (after : Nat) : Prop where
  passed : ∀ mark ∈ taken, mark.Passed
  count : after + taken.countP Mark.closes = depth + taken.countP Mark.opens

/-- A literal is passed over at the depth where it begins. -/
theorem passes_literal {role : Role} (hrole : role ≠ .code) (depth : Nat) (text : List Char) :
    Passes depth (text.map fun c ↦ ⟨c, role, depth⟩) depth := by
  have hmarks : ∀ mark ∈ text.map fun c ↦ (⟨c, role, depth⟩ : Mark), mark.role ≠ .code := by
    simp [hrole]
  constructor
  · exact fun mark hmark ↦ Mark.passed_of_role (hmarks mark hmark)
  · have hnone (chars : List Char) : (text.map fun c ↦ (⟨c, role, depth⟩ : Mark)).countP
        (Mark.isCode · chars) = 0 :=
      List.countP_eq_zero.mpr fun mark hmark ↦
        Bool.eq_false_iff.mp (Mark.isCode_eq_false (hmarks mark hmark) chars)
    exact congrArg (depth + ·) ((hnone closings).trans (hnone openings).symm)

theorem levels_literal {role : Role} (hrole : role ≠ .code) (depth : Int) (text : List Char)
    (rest : List (Char × Role)) :
    levels depth (text.map (·, role) ++ rest) =
      (text.map fun c ↦ ⟨c, role, depth⟩) ++ levels depth rest := by
  have hweight (c : Char) : Mark.weight ⟨c, role, depth⟩ = 0 := by
    simp [Mark.weight, Mark.opens, Mark.closes, Mark.isCode, hrole]
  induction text with
  | nil => rfl
  | cons c text ih => simp [levels, hweight, ih]

theorem Mark.weight_eq (mark : Mark) :
    mark.weight = ([mark].countP Mark.opens : Int) - [mark].countP Mark.closes := by
  cases hopens : mark.opens with
  | true =>
    have hcloses : mark.closes = false := by
      have hclosing := not_mem_closings (mem_of_isCode hopens)
      simp [closes, isCode, hclosing]
    simp [weight, hopens, hcloses]
  | false => cases hcloses : mark.closes <;> simp [weight, hopens, hcloses]

section Code

variable {c : Char} (depth : Int)

theorem passed_code (hclosing : c ∉ closings) (hcomma : c ≠ ',') :
    Mark.Passed ⟨c, .code, depth⟩ := by
  have hother : c ≠ ')' ∧ c ≠ ']' ∧ c ≠ '}' := by simpa [closings] using hclosing
  simp [Mark.Passed, Mark.ends, Mark.strays, Mark.divides, Mark.isCode, hother, hcomma]

theorem weight_opening (hc : c ∈ openings) : Mark.weight ⟨c, .code, depth⟩ = 1 := by
  simp [Mark.weight, Mark.opens, Mark.isCode, hc]

theorem weight_closing (hc : c ∈ closings) : Mark.weight ⟨c, .code, depth⟩ = -1 := by
  have hopening : c ∉ openings := fun hopening ↦ not_mem_closings hopening hc
  simp [Mark.weight, Mark.opens, Mark.closes, Mark.isCode, hopening, hc]

theorem weight_other (hopening : c ∉ openings) (hclosing : c ∉ closings) :
    Mark.weight ⟨c, .code, depth⟩ = 0 := by
  simp [Mark.weight, Mark.opens, Mark.closes, Mark.isCode, hopening, hclosing]

end Code

theorem passes_code {depth after : Nat} {c : Char} (hpassed : Mark.Passed ⟨c, .code, depth⟩)
    (hweight : after = depth + Mark.weight ⟨c, .code, depth⟩) :
    Passes depth [⟨c, .code, depth⟩] after := by
  refine ⟨by simpa using hpassed, ?_⟩
  rw [Mark.weight_eq] at hweight
  omega

theorem Passes.append {depth middle after : Nat} {front back : List Mark}
    (hfront : Passes depth front middle) (hback : Passes middle back after) :
    Passes depth (front ++ back) after := by
  constructor
  · exact List.forall_mem_append.mpr ⟨hfront.passed, hback.passed⟩
  · have hfront := hfront.count
    have hback := hback.count
    rw [List.countP_append, List.countP_append]
    omega

/-- A character of code leaves the marks of what follows as they are, one level up or down. -/
theorem levels_code {depth after : Nat} {c : Char} {rest : List Char} (hc : c ∉ quotes)
    (hends : Ends [c] rest) (hweight : after = depth + Mark.weight ⟨c, .code, depth⟩) :
    levels depth (classify (.code false) (c :: rest)) =
      ⟨c, .code, depth⟩ :: levels after (classify (.code false) rest) := by
  rw [classify_code hc fun hat ↦ hends (congrArg some hat), levels, ← hweight]

/-- The marks of a step stand before the marks of what follows, and they take the reader along. -/
theorem Step.exists_passes {depth after : Nat} {text rest : List Char}
    (hstep : Step depth text after) (hends : Ends text rest) :
    ∃ taken, Passes depth taken after ∧
      levels depth (classify (.code false) (text ++ rest)) =
        taken ++ levels after (classify (.code false) rest) := by
  have hcode : ∀ c : Char, text = [c] → c ∉ quotes → Mark.Passed ⟨c, .code, depth⟩ →
      after = depth + Mark.weight ⟨c, .code, depth⟩ → ∃ taken, Passes depth taken after ∧
        levels depth (classify (.code false) (text ++ rest)) =
          taken ++ levels after (classify (.code false) rest) := by
    rintro c rfl hc hpassed hweight
    exact ⟨_, passes_code hpassed hweight, levels_code hc hends hweight⟩
  cases hstep with
  | @plain _ c hc =>
    rw [mem_signs_iff, not_or, not_or, not_or, not_or] at hc
    obtain ⟨-, hquote, hopening, hclosing, hcomma⟩ := hc
    apply hcode c rfl hquote (passed_code _ hclosing hcomma)
    rw [weight_other _ hopening hclosing, Int.add_zero]
  | atSign =>
    apply hcode '@' rfl (by decide) (passed_code _ (by decide) (by decide))
    rw [weight_other _ (by decide) (by decide), Int.add_zero]
  | @quoted _ quote body hquote hbody =>
    have hrole := Role.ofQuote_ne_code quote
    refine ⟨_, passes_literal hrole depth (quote :: body ++ [quote]), ?_⟩
    rw [← levels_literal hrole, classify_quotedLiteral hquote hbody]
  | @verbatim _ body hbody =>
    have hrole : Role.verbatim ≠ .code := by decide
    have hweight : (depth : Int) = depth + Mark.weight ⟨'@', .code, depth⟩ := by
      rw [weight_other _ (by decide) (by decide), Int.add_zero]
    have hat : Passes depth [⟨'@', .code, depth⟩] depth :=
      passes_code (passed_code _ (by decide) (by decide)) hweight
    refine ⟨_, hat.append (passes_literal hrole depth ('"' :: body ++ ['"'])), ?_⟩
    rw [classify_verbatimLiteral hbody (hends rfl), levels, ← hweight, levels_literal hrole]
    rfl
  | @opening _ c hc =>
    have hopenings : ∀ c ∈ openings, c ∉ quotes ∧ c ≠ ',' :=
      List.all_iff_forall_prop.mp (by decide)
    obtain ⟨hquote, hcomma⟩ := hopenings c hc
    apply hcode c rfl hquote (passed_code _ (not_mem_closings hc) hcomma)
    rw [weight_opening _ hc, Int.natCast_succ]
  | @closing _ c hc =>
    have hclosings : ∀ c ∈ closings, c ∉ quotes := List.all_iff_forall_prop.mp (by decide)
    apply hcode c rfl (hclosings c hc) (Mark.passed_of_depth (Int.natCast_succ_pos _).ne')
    rw [weight_closing _ hc]
    omega
  | comma =>
    apply hcode ',' rfl (by decide) (Mark.passed_of_depth (Int.natCast_succ_pos _).ne')
    rw [weight_other _ (by decide) (by decide), Int.add_zero]

/-- A list has no end in a literal. -/
theorem gather_literal {text : List (Char × Role)} (htext : ∀ c ∈ text, c.2 ≠ .code) (depth : Int)
    (piece : List Char) (found : List String) : gather piece found (levels depth text) = none := by
  induction text generalizing depth piece with
  | nil => rfl
  | cons c text ih =>
    obtain ⟨hc, htext⟩ := List.forall_mem_cons.mp htext
    have hpassed : ∀ mark ∈ [(⟨c.1, c.2, depth⟩ : Mark)], mark.Passed := by
      simpa using Mark.passed_of_role hc
    rw [levels, ← List.singleton_append, gather_append hpassed, ih htext]

/-- A quoted literal without an end goes on to the end of the text. -/
theorem role_of_readQuoted_eq_none {quote : Char} {rest : List Char}
    (hread : readQuoted quote rest = none) :
    ∀ c ∈ classify (.quoted quote false) rest, c.2 ≠ .code := by
  have hrole := Role.ofQuote_ne_code quote
  fun_induction readQuoted quote rest with
  | case1 => simp [classify]
  | case2 => simpa [classify, Scan.read] using hrole
  | case3 escaped tail ih =>
    have htail := ih (Option.map_eq_none_iff.mp hread)
    simpa [classify, Scan.read, hrole] using htail
  | case4 => contradiction
  | case5 c tail hbackslash hc ih =>
    have htail := ih (Option.map_eq_none_iff.mp hread)
    simpa [classify, Scan.read, hrole, hbackslash, hc] using htail

/-- A verbatim string without an end goes on to the end of the text. -/
theorem role_of_readVerbatim_eq_none {rest : List Char} (hread : readVerbatim rest = none) :
    ∀ c ∈ classify (.verbatim false) rest, c.2 ≠ .code := by
  fun_induction readVerbatim rest with
  | case1 => simp [classify]
  | case2 tail ih =>
    have htail := ih (Option.map_eq_none_iff.mp hread)
    simpa [classify, Scan.read] using htail
  | case3 => contradiction
  | case4 c tail hc ih =>
    have htail := ih (Option.map_eq_none_iff.mp hread)
    simpa [classify, Scan.read, beq_eq_false_iff_ne.mpr hc] using htail

/-- No end of an argument list stands in a text that is unfinished. -/
theorem Unfinished.gather_eq_none {text : List Char} (htext : Unfinished text) (depth : Int)
    (piece : List Char) (found : List String) :
    gather piece found (levels depth (classify (.code false) text)) = none := by
  cases htext with
  | nil => rfl
  | @quoted quote rest hquote hread =>
    apply gather_literal
    rw [classify_quote hquote]
    exact List.forall_mem_cons.mpr
      ⟨Role.ofQuote_ne_code quote, role_of_readQuoted_eq_none hread⟩
  | @verbatim rest hread =>
    have hclassify : classify (.code false) ('@' :: '"' :: rest) =
        ('@', .code) :: ('"', .verbatim) :: classify (.verbatim false) rest := rfl
    have hat : ∀ mark ∈ [(⟨'@', .code, depth⟩ : Mark)], mark.Passed := by
      simpa using passed_code depth (by decide) (by decide)
    rw [hclassify, levels, ← List.singleton_append, gather_append hat]
    apply gather_literal
    exact List.forall_mem_cons.mpr ⟨by simp, role_of_readVerbatim_eq_none hread⟩

/-! ## The reader -/

/-- A reader of arguments that stands in code. -/
structure Reader where
  depth : Nat
  piece : List Char
  found : List String
  rest : List Char

namespace Reader

def start (body : List Char) : Reader := ⟨0, [], [], body⟩

def result (reader : Reader) : Option (List String × List Char) :=
  splitArguments .code reader.depth reader.piece reader.found reader.rest

/-- The marks of what the reader has before it. -/
def marks (reader : Reader) : List Mark :=
  levels reader.depth (classify (.code false) reader.rest)

/-- The reader goes over a character of code or a literal, or from one argument to the next. -/
inductive Advances : Reader → Reader → Prop
  | step {depth after : Nat} {piece text rest : List Char} {found : List String}
      (hstep : Step depth text after) (hends : Ends text rest) :
      Advances ⟨depth, piece, found, text ++ rest⟩ ⟨after, text.reverse ++ piece, found, rest⟩
  | comma {piece rest : List Char} {found : List String} {next : String}
      (hnext : argument? piece = some next) :
      Advances ⟨0, piece, found, ',' :: rest⟩ ⟨0, [], next :: found, rest⟩

/-- The reader has come to a result. -/
inductive Stops : Reader → Option (List String × List Char) → Prop
  | finished {piece rest : List Char} {found : List String} :
      Stops ⟨0, piece, found, ')' :: rest⟩
        ((argument? piece).map fun last ↦ ((last :: found).reverse, rest))
  | stray {c : Char} {piece rest : List Char} {found : List String} (hc : c = ']' ∨ c = '}') :
      Stops ⟨0, piece, found, c :: rest⟩ none
  | blank {piece rest : List Char} {found : List String} (hblank : argument? piece = none) :
      Stops ⟨0, piece, found, ',' :: rest⟩ none
  | unfinished {depth : Nat} {piece rest : List Char} {found : List String}
      (hrest : Unfinished rest) : Stops ⟨depth, piece, found, rest⟩ none

variable {reader next : Reader} {result : Option (List String × List Char)}

/-- The result stays the same from one step to the next. -/
theorem Advances.result_eq (hadvances : reader.Advances next) : reader.result = next.result := by
  cases hadvances with
  | step hstep hends => exact hstep.splitArguments_append hends
  | comma hnext => simp [Reader.result, splitArguments, hnext]

theorem Stops.result_eq (hstops : reader.Stops result) : reader.result = result := by
  cases hstops with
  | finished => rfl
  | stray hc => rcases hc with rfl | rfl <;> rfl
  | blank hblank => simp [Reader.result, splitArguments, hblank]
  | unfinished hrest => exact hrest.splitArguments_eq_none

/-- A reader can go on or has come to a result. -/
theorem advances_or_stops (reader : Reader) :
    (∃ next, reader.Advances next) ∨ ∃ result, reader.Stops result := by
  obtain ⟨depth, piece, found, rest⟩ := reader
  rcases step_cases depth rest with
    ⟨text, after, rest, hstep, hends, rfl⟩ | ⟨rfl, c, rest, hclosing | rfl, rfl⟩ | hunfinished
  · exact .inl ⟨_, .step hstep hends⟩
  · simp only [closings, List.mem_cons, List.not_mem_nil, or_false] at hclosing
    rcases hclosing with rfl | hstray
    · exact .inr ⟨_, .finished⟩
    · exact .inr ⟨_, .stray hstray⟩
  · cases hnext : argument? piece with
    | none => exact .inr ⟨_, .blank hnext⟩
    | some next => exact .inl ⟨_, .comma hnext⟩
  · exact .inr ⟨_, .unfinished hunfinished⟩

/-- The reader leaves marks behind, and its depth changes by the brackets among them. -/
theorem Advances.exists_taken (hadvances : reader.Advances next) :
    ∃ taken, reader.marks = taken ++ next.marks ∧
      next.depth + taken.countP Mark.closes = reader.depth + taken.countP Mark.opens ∧
      gather reader.piece reader.found reader.marks = gather next.piece next.found next.marks := by
  cases hadvances with
  | @step depth after piece text rest found hstep hends =>
    obtain ⟨taken, htaken, hmarks⟩ := hstep.exists_passes hends
    have htext : taken.map Mark.char = text := by
      have hchars := congrArg (List.map Mark.char) hmarks
      rw [List.map_append, map_char_levels, map_char_levels] at hchars
      exact (List.append_cancel_right hchars).symm
    refine ⟨taken, hmarks, htaken.count, ?_⟩
    rw [marks, hmarks, gather_append htaken.passed, htext, marks]
  | @comma piece rest found next hnext =>
    have hmarks : marks ⟨0, piece, found, ',' :: rest⟩ =
        ⟨',', .code, 0⟩ :: marks ⟨0, [], next :: found, rest⟩ := rfl
    refine ⟨[⟨',', .code, 0⟩], hmarks, rfl, ?_⟩
    rw [hmarks, gather, hnext]
    rfl

/-- Where the reader stops, the marks before it are gathered to the same result. -/
theorem Stops.gather_eq (hstops : reader.Stops result) :
    gather reader.piece reader.found reader.marks = result := by
  cases hstops with
  | @finished piece rest found =>
    have hmarks : marks ⟨0, piece, found, ')' :: rest⟩ =
        ⟨')', .code, 0⟩ :: levels (-1) (classify (.code false) rest) := rfl
    rw [hmarks, gather, map_char_levels]
    rfl
  | stray hc => rcases hc with rfl | rfl <;> rfl
  | @blank piece rest found hblank =>
    have hmarks : marks ⟨0, piece, found, ',' :: rest⟩ =
        ⟨',', .code, 0⟩ :: levels 0 (classify (.code false) rest) := rfl
    rw [hmarks, gather, hblank]
    rfl
  | unfinished hrest => exact hrest.gather_eq_none _ _ _

theorem Advances.length_rest_lt (hadvances : reader.Advances next) :
    next.rest.length < reader.rest.length := by
  cases hadvances with
  | step hstep hends =>
    rw [List.length_append]
    exact Nat.lt_add_of_pos_left (List.length_pos_iff.mpr hstep.text_ne_nil)
  | comma hnext => exact Nat.lt_succ_self _

/-- Every reader comes to a stop, and there it has its result. -/
theorem exists_stops (reader : Reader) :
    ∃ last, Relation.ReflTransGen Advances reader last ∧ last.Stops reader.result := by
  induction hlength : reader.rest.length using Nat.strong_induction_on generalizing reader with
  | _ length ih =>
    rcases reader.advances_or_stops with ⟨next, hadvances⟩ | ⟨result, hstops⟩
    · obtain ⟨last, hrun, hstops⟩ := ih _ (hlength ▸ hadvances.length_rest_lt) next rfl
      rw [← hadvances.result_eq] at hstops
      exact ⟨last, .head hadvances hrun, hstops⟩
    · rw [← hstops.result_eq] at hstops
      exact ⟨reader, .refl, hstops⟩

/-- What is still to be read comes to what is gathered from its marks. -/
theorem result_eq_gather (reader : Reader) :
    reader.result = gather reader.piece reader.found reader.marks := by
  obtain ⟨last, hrun, hstops⟩ := reader.exists_stops
  have hgather : gather reader.piece reader.found reader.marks =
      gather last.piece last.found last.marks := by
    induction hrun using Relation.ReflTransGen.head_induction_on with
    | refl => rfl
    | head hadvances _ ih =>
      obtain ⟨taken, -, -, hsame⟩ := hadvances.exists_taken
      rw [hadvances.result_eq] at hstops
      rw [hsame, ih hstops]
  rw [hgather, hstops.gather_eq]

/-- The reader comes here from the front of the text. -/
def Reached (body : List Char) : Reader → Prop := Relation.ReflTransGen Advances (start body)

/-- The reader is on its way to the result for the text. It has as many brackets to close as were
opened and not closed in what lies behind it, and to close one it takes one from its count. -/
structure Counts (body : List Char) (reader : Reader) : Prop where
  result_eq : reader.result = readArguments body
  count : ∃ front, body = front ++ reader.rest ∧
    let behind := (Invocation.marks body).take front.length
    reader.depth + behind.countP Mark.closes = behind.countP Mark.opens
  closing : ∀ next c, reader.Advances next → reader.rest.head? = some c → c ∈ closings →
    next.depth + 1 = reader.depth

/-- The count of a reader is that of the brackets among the marks behind it. -/
theorem Reached.exists_behind {body : List Char} (hreached : Reached body reader) :
    ∃ behind, Invocation.marks body = behind ++ reader.marks ∧
      reader.depth + behind.countP Mark.closes = behind.countP Mark.opens := by
  induction hreached with
  | refl => exact ⟨[], rfl, rfl⟩
  | tail _ hadvances ih =>
    obtain ⟨behind, hmarks, hcount⟩ := ih
    obtain ⟨taken, htaken, hdepth, -⟩ := hadvances.exists_taken
    refine ⟨behind ++ taken, ?_, ?_⟩
    · rw [hmarks, htaken, List.append_assoc]
    · rw [List.countP_append, List.countP_append]
      omega

theorem Reached.result_eq {body : List Char} (hreached : Reached body reader) :
    reader.result = readArguments body := by
  induction hreached with
  | refl => rfl
  | tail _ hadvances ih => rw [← hadvances.result_eq, ih]

/-- A reader that goes over a closing bracket had one to close. -/
theorem Advances.depth_of_closing {c : Char} (hadvances : reader.Advances next)
    (hnext : reader.rest.head? = some c) (hc : c ∈ closings) : next.depth + 1 = reader.depth := by
  cases hadvances with
  | step hstep hends =>
    -- of all steps only that over a closing bracket begins with one
    cases hstep with
    | plain hplain =>
      obtain rfl := Option.some.inj hnext
      exact absurd (mem_signs_iff.mpr (.inr (.inr (.inr (.inl hc))))) hplain
    | atSign | verbatim | comma =>
      obtain rfl := Option.some.inj hnext
      exact absurd hc (by decide)
    | quoted hquote =>
      have hquotes : ∀ c ∈ quotes, c ∉ closings := List.all_iff_forall_prop.mp (by decide)
      obtain rfl := Option.some.inj hnext
      exact absurd hc (hquotes _ hquote)
    | opening hopening =>
      obtain rfl := Option.some.inj hnext
      exact absurd hc (not_mem_closings hopening)
    | closing => rfl
  | comma =>
    obtain rfl := Option.some.inj hnext
    exact absurd hc (by decide)

/-- Wherever the reader comes, its count is right. -/
theorem Reached.counts {body : List Char} (hreached : Reached body reader) :
    reader.Counts body := by
  obtain ⟨behind, hmarks, hcount⟩ := hreached.exists_behind
  refine ⟨hreached.result_eq, ⟨behind.map Mark.char, ?_, ?_⟩, ?_⟩
  · have hchars := congrArg (List.map Mark.char) hmarks
    rwa [map_char_marks, List.map_append, marks, map_char_levels] at hchars
  · rw [hmarks, List.length_map, List.take_left]
    exact hcount
  · exact fun next c hadvances hnext hc ↦ hadvances.depth_of_closing hnext hc

end Reader

/-! ## Argument lists -/

/-- The reader accepts a list exactly when the layers find one, with the same arguments and the same
end. -/
theorem readArguments_eq_some_iff_isArgumentList {body rest : List Char} {arguments : List String} :
    readArguments body = some (arguments, rest) ↔
      ∃ index parts, IsArgumentList (marks body) index parts ∧ arguments = parts.map asArgument ∧
        rest = body.drop (index + 1) := by
  have hgather : readArguments body = gather ([] : List Char).reverse ([] : List String).reverse
      (marks body) := (Reader.start body).result_eq_gather
  rw [hgather, gather_eq_some_iff]
  simp only [Lists.modifyHead_nil_append, List.map_drop, map_char_marks]
  constructor
  · rintro ⟨index, hends, hstrays, hblank, rfl, rfl⟩
    exact ⟨index, _, ⟨hends, hstrays, rfl, hblank⟩, rfl, rfl⟩
  · rintro ⟨index, _, ⟨hends, hstrays, rfl, hblank⟩, rfl, rfl⟩
    exact ⟨index, hends, hstrays, hblank, rfl, rfl⟩

/-- The bytes of an argument list are those of its pieces and of the parenthesis. -/
theorem IsArgumentList.slice_eq {body : String} {index : Nat} {parts : List (List Char)}
    (hlist : IsArgumentList (marks body.toList) index parts) :
    Text.slice body 0 (Text.byteLength (body.toList.take (index + 1))) =
      String.ofList ([','].intercalate parts ++ [')']) := by
  have hdivides : Text.Divides body 0 (Text.byteLength (body.toList.take (index + 1))) []
      (body.toList.take (index + 1)) (body.toList.drop (index + 1)) :=
    ⟨(List.take_append_drop _ _).symm, rfl, (Nat.zero_add _).symm⟩
  rw [hdivides.slice_eq, hlist.intercalate_append]

/-- An argument list is read as the layers cut it, and the count of brackets is right all the way to
where the reader stops. -/
theorem split_iff_isArgumentList (body : String) :
    (∀ arguments consumed, split body = some (arguments, consumed) ↔
      ∃ index parts, IsArgumentList (marks body.toList) index parts ∧
        arguments = parts.map asArgument ∧
        consumed = Text.byteLength (body.toList.take (index + 1))) ∧
    (∀ index parts, IsArgumentList (marks body.toList) index parts →
      Text.slice body 0 (Text.byteLength (body.toList.take (index + 1))) =
        String.ofList ([','].intercalate parts ++ [')'])) ∧
    (∀ reader, Reader.Reached body.toList reader → reader.Counts body.toList) ∧
    ∃ last, Reader.Reached body.toList last ∧ last.Stops (readArguments body.toList) := by
  refine ⟨?_, fun index parts hlist ↦ hlist.slice_eq, fun reader hreached ↦ hreached.counts,
    (Reader.start body.toList).exists_stops⟩
  intro arguments consumed
  have hconsumed (index : Nat) : Text.byteLength body.toList -
      Text.byteLength (body.toList.drop (index + 1)) =
        Text.byteLength (body.toList.take (index + 1)) := by
    have hbytes := Text.byteLength_append (body.toList.take (index + 1))
      (body.toList.drop (index + 1))
    rw [List.take_append_drop] at hbytes
    omega
  rw [split, Option.map_eq_some_iff]
  constructor
  · rintro ⟨⟨_, _⟩, hread, hsplit⟩
    obtain ⟨rfl, rfl⟩ := Prod.mk.inj hsplit
    obtain ⟨index, parts, hlist, rfl, rfl⟩ := readArguments_eq_some_iff_isArgumentList.mp hread
    exact ⟨index, parts, hlist, rfl, hconsumed index⟩
  · rintro ⟨index, parts, hlist, rfl, rfl⟩
    have hread := readArguments_eq_some_iff_isArgumentList.mpr ⟨index, parts, hlist, rfl, rfl⟩
    exact ⟨_, hread, Prod.ext rfl (hconsumed index)⟩

/-- Brackets, commas and quotes in literals are passed over, and what follows the list is left. -/
theorem split_iff_isArgumentList_literals :
    let body := "f(x, '\\''), @\"]\"\",\") && y"
    let arguments := ["f(x, '\\'')", "@\"]\"\",\""]
    split body = some (arguments, 20) ∧
      (∃ index parts, IsArgumentList (marks body.toList) index parts ∧
        arguments = parts.map asArgument ∧
        20 = Text.byteLength (body.toList.take (index + 1))) ∧
      (Reader.start body.toList).Counts body.toList := by
  intro body arguments
  have hsplit : split body = some (arguments, 20) := by
    decide +kernel
  obtain ⟨hiff, -, hcounts, -⟩ := split_iff_isArgumentList body
  exact ⟨hsplit, (hiff _ _).mp hsplit, hcounts _ .refl⟩

end GuardedProxy.Invocation
