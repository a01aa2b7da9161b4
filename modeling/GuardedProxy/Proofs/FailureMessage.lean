import GuardedProxy.Json.Token
import GuardedProxy.Proofs.ClauseGuard
import Mathlib.Algebra.Group.Nat.Even
import Mathlib.Data.List.DropRight

/-!
# Messages of failed conditions

A guard without a message of its own reports its condition in a string literal. The double quotes of
the condition become single ones there, and everything else is copied. So the quotes of a condition
never end the literal early, but the backslashes of a verbatim string and the ends of lines come into
it as they are. The message is a string literal exactly when the condition stands on one line and
each of its backslashes that is not taken up by the one before it begins an escape sequence.
-/

namespace GuardedProxy

namespace StringLiteral

/-- The characters that end a line. -/
def lineEnds : List Char := ['\n', '\r', '\u0085', '\u2028', '\u2029']

/-- What stands for one character behind a backslash. -/
def simpleEscapes : List Char := ['\'', '"', '\\', '0', 'a', 'b', 'e', 'f', 'n', 'r', 't', 'v']

/-- The number that hexadecimal digits stand for. -/
def hexNumber (digits : List Char) : Option Nat :=
  digits.foldlM (fun number digit ↦ (Json.hexValue digit).map (16 * number + ·)) 0

/-- What may follow the backslash of an escape sequence. -/
inductive IsEscape : List Char → Prop
  | simple {c : Char} (hc : c ∈ simpleEscapes) : IsEscape [c]
  | hexadecimal {digits : List Char} {code : Nat} (hcode : hexNumber digits = some code)
      (hlength : 1 ≤ digits.length ∧ digits.length ≤ 4) : IsEscape ('x' :: digits)
  | unit {digits : List Char} {code : Nat} (hcode : hexNumber digits = some code)
      (hlength : digits.length = 4) : IsEscape ('u' :: digits)
  | codePoint {digits : List Char} {code : Nat} (hcode : hexNumber digits = some code)
      (hlength : digits.length = 8) (hbound : code ≤ 0x10FFFF) : IsEscape ('U' :: digits)

/-- Escape sequences and characters that are neither forbidden nor a backslash. -/
inductive Body (forbidden : List Char) : List Char → Prop
  | nil : Body forbidden []
  | plain {c : Char} {rest : List Char} (hc : c ∉ forbidden) (hbackslash : c ≠ '\\')
      (hrest : Body forbidden rest) : Body forbidden (c :: rest)
  | escape {escape rest : List Char} (hescape : IsEscape escape) (hrest : Body forbidden rest) :
      Body forbidden ('\\' :: escape ++ rest)

end StringLiteral

open StringLiteral

/-- A string literal that is not verbatim: it opens and ends with a quote, and a quote in between is
written with a backslash. -/
def IsStringLiteral (text : List Char) : Prop :=
  ∃ body, Body ('"' :: lineEnds) body ∧ text = '"' :: body ++ ['"']

namespace StringLiteral

variable {forbidden escape text rest : List Char}

theorem isSome_hexValue_of_mem {digits : List Char} {start code : Nat} {c : Char}
    (hcode : digits.foldlM (fun number digit ↦ (Json.hexValue digit).map (16 * number + ·)) start =
      some code) (hc : c ∈ digits) : (Json.hexValue c).isSome = true := by
  induction digits generalizing start with
  | nil => exact absurd hc List.not_mem_nil
  | cons digit digits ih =>
    rw [List.foldlM_cons, Option.bind_eq_bind, Option.bind_eq_some_iff] at hcode
    obtain ⟨next, hnext, hrest⟩ := hcode
    rcases List.mem_cons.mp hc with rfl | hmem
    · obtain ⟨value, hvalue, -⟩ := Option.map_eq_some_iff.mp hnext
      rw [hvalue, Option.isSome_some]
    · exact ih hrest hmem

/-- The letters that hexadecimal digits follow in an escape sequence. -/
def numberMarks : List Char := ['x', 'u', 'U']

/-- An escape sequence is one character, or a mark with hexadecimal digits behind it. -/
theorem IsEscape.exists_cons (hescape : IsEscape escape) :
    ∃ c digits, escape = c :: digits ∧ (c ∈ simpleEscapes ∧ digits = [] ∨ c ∈ numberMarks) ∧
      ∀ digit ∈ digits, (Json.hexValue digit).isSome = true := by
  cases hescape with
  | simple hc => exact ⟨_, [], rfl, .inl ⟨hc, rfl⟩, by simp⟩
  | hexadecimal hcode =>
    exact ⟨'x', _, rfl, .inr (by decide), fun _ ↦ isSome_hexValue_of_mem hcode⟩
  | unit hcode => exact ⟨'u', _, rfl, .inr (by decide), fun _ ↦ isSome_hexValue_of_mem hcode⟩
  | codePoint hcode => exact ⟨'U', _, rfl, .inr (by decide), fun _ ↦ isSome_hexValue_of_mem hcode⟩

/-- What is neither a mark nor a hexadecimal digit can only be all of an escape sequence. -/
theorem IsEscape.eq_of_mem {c : Char} (hescape : IsEscape escape) (hmark : c ∉ numberMarks)
    (hdigit : Json.hexValue c = none) (hc : c ∈ escape) : c ∈ simpleEscapes ∧ escape = [c] := by
  obtain ⟨first, digits, rfl, hfirst, hdigits⟩ := hescape.exists_cons
  rcases List.mem_cons.mp hc with rfl | hmem
  · rcases hfirst with ⟨hsimple, rfl⟩ | hnumber
    · exact ⟨hsimple, rfl⟩
    · exact absurd hnumber hmark
  · have hsome := hdigits c hmem
    rw [hdigit] at hsome
    exact absurd hsome Bool.false_ne_true

theorem IsEscape.not_mem {c : Char} (hescape : IsEscape escape)
    (hc : c ∉ numberMarks ++ simpleEscapes) (hdigit : Json.hexValue c = none) : c ∉ escape := by
  rw [List.mem_append, not_or] at hc
  exact fun hmem ↦ hc.2 (hescape.eq_of_mem hc.1 hdigit hmem).1

theorem body_cons_iff {c : Char} (hbackslash : c ≠ '\\') :
    Body forbidden (c :: rest) ↔ c ∉ forbidden ∧ Body forbidden rest := by
  constructor
  · intro hbody
    cases hbody with
    | plain hc _ hrest => exact ⟨hc, hrest⟩
    | escape => exact absurd rfl hbackslash
  · rintro ⟨hc, hrest⟩
    exact .plain hc hbackslash hrest

theorem body_append_iff_of_plain {front : List Char}
    (hfront : ∀ c ∈ front, c ∉ forbidden ∧ c ≠ '\\') :
    Body forbidden (front ++ rest) ↔ Body forbidden rest := by
  induction front with
  | nil => rfl
  | cons c front ih =>
    obtain ⟨hc, hbackslash⟩ := hfront c List.mem_cons_self
    rw [List.cons_append, body_cons_iff hbackslash, and_iff_right hc]
    exact ih fun d hd ↦ hfront d (List.mem_cons_of_mem _ hd)

theorem Body.append {front back : List Char} (hfront : Body forbidden front)
    (hback : Body forbidden back) : Body forbidden (front ++ back) := by
  induction hfront with
  | nil => exact hback
  | plain hc hbackslash _ ih => exact .plain hc hbackslash ih
  | escape hescape _ ih =>
    rw [List.append_assoc]
    exact .escape hescape ih

/-- An escape sequence does not reach over a character that is in none. -/
theorem Body.of_append {c : Char} (hbody : Body forbidden (text ++ c :: rest))
    (hbackslash : c ≠ '\\') (hc : ∀ escape, IsEscape escape → c ∉ escape) :
    Body forbidden text := by
  generalize hfull : text ++ c :: rest = full at hbody
  induction hbody generalizing text with
  | nil => simp at hfull
  | plain hd hplain _ ih =>
    cases text with
    | nil => exact .nil
    | cons first text =>
      obtain ⟨rfl, hrest⟩ := List.cons.inj hfull
      exact .plain hd hplain (ih hrest)
  | @escape escape behind hescape _ ih =>
    cases text with
    | nil => exact absurd (List.cons.inj hfull).1 hbackslash
    | cons first text =>
      obtain ⟨rfl, hrest⟩ := List.cons.inj hfull
      rcases Lists.append_cons_cases hrest.symm with ⟨between, rfl, hbetween⟩ | ⟨within, rfl, -⟩
      · exact .escape hescape (ih hbetween.symm)
      · exact absurd (List.mem_append_right _ List.mem_cons_self) (hc _ hescape)

/-! ## Backslashes -/

/-- How many backslashes a text ends in. -/
def backslashesAtEnd (text : List Char) : Nat := (text.rtakeWhile (· = '\\')).length

/-- Every backslash that the one before it does not take up begins an escape sequence. -/
def EscapesBackslashes (text : List Char) : Prop :=
  ∀ front back, text = front ++ '\\' :: back → Even (backslashesAtEnd front) →
    ∃ escape, IsEscape escape ∧ escape <+: back

@[simp] theorem backslashesAtEnd_nil : backslashesAtEnd [] = 0 := rfl

theorem backslashesAtEnd_of_forall (front : List Char) {back : List Char}
    (hback : ∀ c ∈ back, c = '\\') :
    backslashesAtEnd (front ++ back) = backslashesAtEnd front + back.length := by
  have hall : ∀ c ∈ back.reverse, decide (c = '\\') = true := by
    intro c hc
    exact decide_eq_true (hback c (List.mem_reverse.mp hc))
  simp only [backslashesAtEnd, List.rtakeWhile, List.length_reverse, List.reverse_append]
  rw [List.takeWhile_append_of_pos hall, List.length_append, List.length_reverse, Nat.add_comm]

theorem backslashesAtEnd_of_exists (front : List Char) {back : List Char}
    (hback : ∃ c ∈ back, c ≠ '\\') :
    backslashesAtEnd (front ++ back) = backslashesAtEnd back := by
  induction back using List.reverseRecOn with
  | nil => simp at hback
  | append_singleton back last ih =>
    rw [← List.append_assoc]
    by_cases hlast : last = '\\'
    · have hrest : ∃ c ∈ back, c ≠ '\\' := by
        obtain ⟨c, hc, hne⟩ := hback
        rcases List.mem_append.mp hc with hmem | hmem
        · exact ⟨c, hmem, hne⟩
        · exact absurd ((List.mem_singleton.mp hmem).trans hlast) hne
      have hsingle : ∀ c ∈ [last], c = '\\' := by simpa using hlast
      rw [backslashesAtEnd_of_forall _ hsingle, ih hrest, backslashesAtEnd_of_forall _ hsingle]
    · simp [backslashesAtEnd, List.rtakeWhile_concat_neg, hlast]

/-- An escape sequence ends in no backslash or in two. -/
theorem IsEscape.even_backslashesAtEnd (hescape : IsEscape escape) :
    Even (backslashesAtEnd ('\\' :: escape)) := by
  by_cases hmem : '\\' ∈ escape
  · rw [(hescape.eq_of_mem (by decide) (by decide) hmem).2]
    decide
  · obtain ⟨first, digits, rfl, -⟩ := hescape.exists_cons
    have hlast : (first :: digits).rtakeWhile (· = '\\') = [] := by
      rw [List.rtakeWhile_eq_nil_iff]
      intro hne hlast
      exact hmem (of_decide_eq_true hlast ▸ List.getLast_mem hne)
    have hfirst : ∃ c ∈ first :: digits, c ≠ '\\' :=
      ⟨first, List.mem_cons_self, fun h ↦ hmem (h ▸ List.mem_cons_self)⟩
    have hskip := backslashesAtEnd_of_exists ['\\'] hfirst
    rw [List.singleton_append] at hskip
    rw [hskip, backslashesAtEnd, hlast]
    exact Even.zero

/-- Behind an even number of backslashes the same ones are taken up as at the beginning of a text. -/
theorem even_backslashesAtEnd_append_iff {front : List Char} (hfront : Even (backslashesAtEnd front))
    (back : List Char) :
    Even (backslashesAtEnd (front ++ back)) ↔ Even (backslashesAtEnd back) := by
  by_cases hback : ∃ c ∈ back, c ≠ '\\'
  · rw [backslashesAtEnd_of_exists _ hback]
  · have hall : ∀ c ∈ back, c = '\\' := by simpa using hback
    have hlength := backslashesAtEnd_of_forall [] hall
    rw [List.nil_append, backslashesAtEnd_nil, Nat.zero_add] at hlength
    rw [backslashesAtEnd_of_forall _ hall, Nat.even_add, hlength]
    exact iff_true_left hfront

theorem even_backslashesAtEnd_singleton {c : Char} (hc : c ≠ '\\') :
    Even (backslashesAtEnd [c]) := by
  have hnone : [c].rtakeWhile (· = '\\') = [] := by
    simpa using List.rtakeWhile_concat_neg (fun d ↦ decide (d = '\\')) [] c (by simpa using hc)
  rw [backslashesAtEnd, hnone]
  exact Even.zero

/-- A text may be cut where no backslash waits for what it escapes. -/
theorem EscapesBackslashes.of_append {front : List Char}
    (htext : EscapesBackslashes (front ++ text)) (hfront : Even (backslashesAtEnd front)) :
    EscapesBackslashes text := by
  rintro before back rfl heven
  refine htext (front ++ before) back (by simp) ?_
  exact (even_backslashesAtEnd_append_iff hfront before).mpr heven

theorem EscapesBackslashes.cons {c : Char} (htext : EscapesBackslashes text) (hc : c ≠ '\\') :
    EscapesBackslashes (c :: text) := by
  intro front back heq heven
  cases front with
  | nil => exact absurd (List.cons.inj heq).1 hc
  | cons first front =>
    obtain ⟨rfl, hrest⟩ := List.cons.inj heq
    refine htext front back hrest ?_
    exact (even_backslashesAtEnd_append_iff (even_backslashesAtEnd_singleton hc) front).mp heven

/-- An escape sequence may stand before a text that escapes its backslashes. -/
theorem EscapesBackslashes.escape_append (htext : EscapesBackslashes text)
    (hescape : IsEscape escape) : EscapesBackslashes ('\\' :: escape ++ text) := by
  intro front back heq heven
  cases front with
  | nil =>
    obtain ⟨-, rfl⟩ := List.cons.inj heq
    exact ⟨escape, hescape, List.prefix_append _ _⟩
  | cons first front =>
    obtain ⟨rfl, hrest⟩ := List.cons.inj heq
    rcases Lists.append_cons_cases hrest with ⟨between, rfl, hbetween⟩ | ⟨within, rfl, -⟩
    · refine htext between back hbetween ?_
      exact (even_backslashesAtEnd_append_iff hescape.even_backslashesAtEnd between).mp heven
    · -- inside an escape sequence there is only the second backslash of two, which is taken up
      have hmem : '\\' ∈ front ++ '\\' :: within := by simp
      have hdouble := (hescape.eq_of_mem (by decide) (by decide) hmem).2
      obtain ⟨rfl, -⟩ : front = [] ∧ within = [] := by
        simpa [List.append_eq_singleton_iff] using hdouble
      exact absurd heven (by decide)

/-- A text can be the body of a literal, its quotes aside, exactly when it is on one line and every
backslash that is not escaped begins an escape sequence. -/
theorem body_lineEnds_iff :
    Body lineEnds text ↔ (∀ c ∈ text, c ∉ lineEnds) ∧ EscapesBackslashes text := by
  constructor
  · intro hbody
    induction hbody with
    | nil => exact ⟨by simp, fun front back heq ↦ by simp at heq⟩
    | plain hc hbackslash _ ih =>
      exact ⟨List.forall_mem_cons.mpr ⟨hc, ih.1⟩, ih.2.cons hbackslash⟩
    | escape hescape _ ih =>
      refine ⟨?_, ih.2.escape_append hescape⟩
      have hend : ∀ c ∈ lineEnds, c ∉ numberMarks ++ simpleEscapes ∧ Json.hexValue c = none :=
        List.all_iff_forall_prop.mp (by decide)
      intro c hc hline
      rw [List.cons_append, List.mem_cons, List.mem_append] at hc
      rcases hc with rfl | hc | hc
      · exact absurd hline (by decide)
      · exact hescape.not_mem (hend c hline).1 (hend c hline).2 hc
      · exact ih.1 c hc hline
  · intro htext
    induction hlength : text.length using Nat.strong_induction_on generalizing text with
    | _ length ih =>
      obtain ⟨hline, hescapes⟩ := htext
      cases text with
      | nil => exact .nil
      | cons c rest =>
        by_cases hbackslash : c = '\\'
        · subst hbackslash
          obtain ⟨escape, hescape, tail, rfl⟩ := hescapes [] rest rfl Even.zero
          have htail : EscapesBackslashes tail := by
            rw [← List.cons_append] at hescapes
            exact hescapes.of_append hescape.even_backslashesAtEnd
          have hends : ∀ c ∈ tail, c ∉ lineEnds := fun c hc ↦ hline c (by simp [hc])
          rw [← List.cons_append]
          refine .escape hescape (ih _ ?_ ⟨hends, htail⟩ rfl)
          simp only [List.length_cons, List.length_append] at hlength
          omega
        · obtain ⟨hc, hrest⟩ := List.forall_mem_cons.mp hline
          have htail : EscapesBackslashes rest :=
            EscapesBackslashes.of_append hescapes (even_backslashesAtEnd_singleton hbackslash)
          exact .plain hc hbackslash (ih _ (by simp [← hlength]) ⟨hrest, htail⟩ rfl)

/-- A double quote becomes a single one. -/
def soften (c : Char) : Char := if c = '"' then '\'' else c

theorem soften_of_ne {c : Char} (hc : c ≠ '"') : soften c = c := if_neg hc

theorem map_soften_of_not_mem (htext : '"' ∉ text) : text.map soften = text := by
  have hsame : ∀ c ∈ text, soften c = c := fun c hc ↦ soften_of_ne fun heq ↦ htext (heq ▸ hc)
  rw [List.map_congr_left hsame, List.map_id']

/-- Softened quotes leave an escape sequence an escape sequence. -/
theorem IsEscape.map_soften (hescape : IsEscape escape) : IsEscape (escape.map soften) := by
  by_cases hquote : '"' ∈ escape
  · rw [(hescape.eq_of_mem (by decide) (by decide) hquote).2]
    exact .simple (by decide)
  · rwa [map_soften_of_not_mem hquote]

theorem IsEscape.of_map_soften (hescape : IsEscape (escape.map soften)) : IsEscape escape := by
  by_cases hquote : '"' ∈ escape
  · have hsingle : '\'' ∈ escape.map soften := List.mem_map.mpr ⟨'"', hquote, rfl⟩
    obtain ⟨c, rfl⟩ : ∃ c, escape = [c] := by
      have hlength := congrArg List.length (hescape.eq_of_mem (by decide) (by decide) hsingle).2
      rwa [List.length_map, List.length_singleton, List.length_eq_one_iff] at hlength
    rw [← List.mem_singleton.mp hquote]
    exact .simple (by decide)
  · rwa [map_soften_of_not_mem hquote] at hescape

theorem soften_not_mem_iff {c : Char} : soften c ∉ '"' :: lineEnds ↔ c ∉ lineEnds := by
  by_cases hc : c = '"'
  · rw [hc]
    decide
  · rw [soften_of_ne hc, List.mem_cons, not_or, and_iff_right hc]

theorem soften_eq_backslash_iff {c : Char} : soften c = '\\' ↔ c = '\\' := by
  by_cases hc : c = '"'
  · rw [hc]
    decide
  · rw [soften_of_ne hc]

/-- With single quotes for double ones, nothing but the ends of lines is forbidden any more. -/
theorem body_map_soften_iff :
    Body ('"' :: lineEnds) (text.map soften) ↔ Body lineEnds text := by
  constructor
  · intro hbody
    generalize hsoft : text.map soften = softened at hbody
    induction hbody generalizing text with
    | nil =>
      rw [List.map_eq_nil_iff.mp hsoft]
      exact .nil
    | plain hc hbackslash _ ih =>
      obtain ⟨d, rest, rfl, rfl, hrest⟩ := List.map_eq_cons_iff.mp hsoft
      refine .plain (soften_not_mem_iff.mp hc) ?_ (ih hrest)
      exact fun heq ↦ hbackslash (soften_eq_backslash_iff.mpr heq)
    | escape hescape _ ih =>
      obtain ⟨d, behind, rfl, hd, hbehind⟩ := List.map_eq_cons_iff.mp hsoft
      obtain ⟨escape, rest, rfl, rfl, hrest⟩ := List.map_eq_append_iff.mp hbehind
      rw [soften_eq_backslash_iff.mp hd]
      exact .escape hescape.of_map_soften (ih hrest)
  · intro hbody
    induction hbody with
    | nil => exact .nil
    | plain hc hbackslash _ ih =>
      refine .plain (soften_not_mem_iff.mpr hc) ?_ ih
      exact fun heq ↦ hbackslash (soften_eq_backslash_iff.mp heq)
    | escape hescape _ ih =>
      rw [List.cons_append, List.map_cons, List.map_append]
      exact .escape hescape.map_soften ih

end StringLiteral

/-! ## The message of a guard -/

/-- A string literal is a body without quotes and line ends, in quotes. -/
theorem isStringLiteral_iff {body : List Char} :
    IsStringLiteral ('"' :: body ++ ['"']) ↔ Body ('"' :: lineEnds) body := by
  constructor
  · rintro ⟨other, hother, heq⟩
    rwa [List.append_cancel_right (List.cons.inj heq).2]
  · exact fun hbody ↦ ⟨body, hbody, rfl⟩

/-- The default message is a label and the condition with softened quotes, in quotes. -/
theorem toList_failureMessage (label condition : String) :
    (failureMessage label condition).toList =
      '"' :: (label.toList ++ " (".toList ++ (condition.toList.map soften ++
        ") is not satisfied!".toList)) ++ ['"'] := by
  have hquote : ") is not satisfied!\"".toList = ") is not satisfied!".toList ++ ['"'] := by decide
  simp only [failureMessage, String.toList_append, String.toList_ofList, hquote]
  simp [soften]

/-- The words around a condition begin and end no escape sequence, so they have no part in whether
the message is a string literal. -/
theorem isStringLiteral_failureMessage_iff {label condition : String}
    (hlabel : ∀ c ∈ label.toList, c ∉ '"' :: lineEnds ∧ c ≠ '\\') :
    IsStringLiteral (failureMessage label condition).toList ↔
      (∀ c ∈ condition.toList, c ∉ lineEnds) ∧ EscapesBackslashes condition.toList := by
  have hfront : ∀ c ∈ label.toList ++ " (".toList, c ∉ '"' :: lineEnds ∧ c ≠ '\\' := by
    intro c hc
    rcases List.mem_append.mp hc with hmem | hmem
    · exact hlabel c hmem
    · have hopening : ∀ c ∈ " (".toList, c ∉ '"' :: lineEnds ∧ c ≠ '\\' :=
        List.all_iff_forall_prop.mp (by decide)
      exact hopening c hmem
  have hbehind : ∀ c ∈ ") is not satisfied!".toList, c ∉ '"' :: lineEnds ∧ c ≠ '\\' :=
    List.all_iff_forall_prop.mp (by decide)
  have hback : Body ('"' :: lineEnds) ") is not satisfied!".toList := by
    rw [← List.append_nil ") is not satisfied!".toList, body_append_iff_of_plain hbehind]
    exact .nil
  rw [toList_failureMessage, isStringLiteral_iff, body_append_iff_of_plain hfront,
    ← body_lineEnds_iff, ← body_map_soften_iff]
  constructor
  · intro hbody
    have hclosing : ") is not satisfied!".toList = ')' :: " is not satisfied!".toList := by decide
    rw [hclosing] at hbody
    exact hbody.of_append (by decide) fun escape hescape ↦ hescape.not_mem (by decide) (by decide)
  · exact fun hbody ↦ hbody.append hback

namespace Clause

variable {member : Member} {naming : NamingScheme} {clause : Clause} {guard : Guard}
  {invocation : Invocation}

theorem nonempty_source_of_guard (hguard : (clause.compile member naming).value.guard = some guard) :
    Nonempty (Source member naming clause.form clause (clause.compile member naming).value) := by
  rcases clause.value_compile_cases member naming with hdropped | ⟨compiled, rfl, hsource⟩
  · rw [hdropped] at hguard
    exact absurd hguard (Option.some_ne_none guard).symm
  · exact hsource

theorem plain_messageLabel (form : ClauseForm) :
    ∀ c ∈ (messageLabel form).toList, c ∉ '"' :: lineEnds ∧ c ≠ '\\' := by
  cases form <;> exact List.all_iff_forall_prop.mp (by decide)

/-- A guard whose clause gives no message reports the condition in a string literal exactly when the
condition has no end of a line and each of its backslashes that is not taken up by the one before it
begins an escape sequence. -/
theorem isStringLiteral_message_iff {condition : String}
    (hguard : (clause.compile member naming).value.guard = some guard)
    (hinvocation : clause.invocation = some invocation)
    (harguments : invocation.arguments = [condition]) :
    IsStringLiteral guard.message.toList ↔
      (∀ c ∈ condition.toList, c ∉ lineEnds) ∧ EscapesBackslashes condition.toList := by
  obtain ⟨source⟩ := nonempty_source_of_guard hguard
  obtain ⟨checked, found, hfound, hcall⟩ := source.guardsCall
  obtain rfl := Option.some.inj (hguard.symm.trans hfound)
  obtain rfl := Option.some.inj (hinvocation.symm.trans source.invocation_eq)
  have hcondition : source.condition = condition := by
    have hfirst := hcall.condition_eq
    rw [harguments] at hfirst
    exact (Option.some.inj hfirst).symm
  have hmessage : guard.message = failureMessage (messageLabel clause.form) condition := by
    rw [hcall.message_eq, harguments, hcondition]
    rfl
  rw [hmessage]
  exact isStringLiteral_failureMessage_iff (plain_messageLabel clause.form)

/-- A precondition on a pattern in a verbatim string: the backslash and the letter behind it make no
escape sequence. -/
theorem isStringLiteral_message_iff_pattern :
    let clause : Clause := ⟨"Contract.Requires(Regex.IsMatch(s, @\"\\d+\"))", 0⟩
    let condition := "Regex.IsMatch(s, @\"\\d+\")"
    let guard : Guard := ⟨condition, "Exception",
      "\"Precondition (Regex.IsMatch(s, @'\\d+')) is not satisfied!\""⟩
    (clause.compile { name := "Find", shape := .method .void } {}).value.guard = some guard ∧
      clause.invocation = some ⟨"Contract.Requires", none, [condition]⟩ ∧
      ¬EscapesBackslashes condition.toList ∧ ¬IsStringLiteral guard.message.toList := by
  intro clause condition guard
  have hguard : (clause.compile { name := "Find", shape := .method .void } {}).value.guard =
      some guard := by decide +kernel
  have hinvocation : clause.invocation = some ⟨"Contract.Requires", none, [condition]⟩ := by
    decide +kernel
  have hescapes : ¬EscapesBackslashes condition.toList := by
    intro hescapes
    obtain ⟨escape, hescape, hprefix⟩ := hescapes "Regex.IsMatch(s, @\"".toList
      ('d' :: "+\")".toList) (by decide) (by decide)
    obtain ⟨first, digits, rfl, hfirst, -⟩ := hescape.exists_cons
    obtain ⟨rfl, -⟩ := List.cons_prefix_cons.mp hprefix
    rcases hfirst with ⟨hsimple, -⟩ | hmark
    · exact absurd hsimple (by decide)
    · exact absurd hmark (by decide)
  refine ⟨hguard, hinvocation, hescapes, ?_⟩
  rw [isStringLiteral_message_iff hguard hinvocation rfl]
  exact fun hboth ↦ hescapes hboth.2

end Clause

end GuardedProxy
