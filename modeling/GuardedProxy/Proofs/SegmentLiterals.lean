import GuardedProxy.Proofs.Literal
import GuardedProxy.Proofs.SegmentCut

/-!
# Substitution and literals

A substitution replaces the references of a text wherever they stand, in code or in a literal. It
keeps the literals of the text as they are if every reference begins in code and has no quote in it.
The converse holds too, because the quotes of the two texts can be matched one by one: where the
literals are the same, no reference can have had a quote, and what stands between the quotes of a
literal is the same before and after, so no reference stood there.
-/

namespace GuardedProxy.Segment

open Literal

variable {α : Type} {replacement : α → List Char}

/-- Every reference begins in code and has no quote in it. -/
def OutsideLiterals (segments : List (Segment α)) : Prop :=
  ∀ front value text back, segments = front ++ reference value text :: back →
    Closed (spelling front) ∧ QuoteFree text

/-- A text and what replaces it: code, which has fewer marks than the text. -/
structure Exchange (mark : Char) (text new : List Char) : Prop where
  isCode : IsCode new
  getLast?_ne : text.getLast? ≠ some '@'
  count_lt : new.count mark < text.count mark

/-- A text without quotes that can be exchanged is code. -/
theorem Exchange.isCode_text {mark : Char} {text new : List Char}
    (hexchange : Exchange mark text new) (hfree : QuoteFree text) : IsCode text where
  ne_nil := by
    rintro rfl
    exact Nat.not_lt_zero _ hexchange.count_lt
  quoteFree := hfree
  getLast?_ne := hexchange.getLast?_ne

/-- References outside of literals are replaced by other code, which leaves every literal alone. -/
theorem all_append_substitute {mark : Char} {segments : List (Segment α)} (before : List Char)
    (hexchange : ∀ value text, reference value text ∈ segments →
      Exchange mark text (replacement value))
    (houtside : ∀ front value text back, segments = front ++ reference value text :: back →
      Closed (before ++ spelling front) ∧ QuoteFree text) :
    all (before ++ substitute replacement segments) = all (before ++ spelling segments) ∧
      (Closed (before ++ spelling segments) →
        Closed (before ++ substitute replacement segments)) := by
  induction segments generalizing before with
  | nil => exact ⟨rfl, id⟩
  | cons segment segments ih =>
    have hrest : ∀ value text, reference value text ∈ segments →
        Exchange mark text (replacement value) :=
      fun value text hmem ↦ hexchange value text (List.mem_cons_of_mem _ hmem)
    cases segment with
    | plain c =>
      have hih := ih (before ++ [c]) hrest fun front value text back heq ↦ by
        simpa using houtside (plain c :: front) value text back (by rw [heq, List.cons_append])
      simpa using hih
    | reference value text =>
      have hfirst := hexchange value text List.mem_cons_self
      obtain ⟨hbefore, hfree⟩ := houtside [] value text segments rfl
      rw [spelling_nil, List.append_nil] at hbefore
      have hold : IsCode text := hfirst.isCode_text hfree
      have hnew : IsCode (replacement value) := hfirst.isCode
      obtain ⟨hall, hclosed⟩ := ih [] hrest fun front other more back heq ↦ by
        obtain ⟨hfront, hmore⟩ := houtside (reference value text :: front) other more back
          (by rw [heq, List.cons_append])
        have hbehind := hbefore.of_append hfront (hold.head?_append_ne _)
        exact ⟨hold.closed_append_iff.mp hbehind, hmore⟩
      rw [substitute_reference, spelling_reference]
      constructor
      · rw [hbefore.all_append (hnew.head?_append_ne _), hbefore.all_append (hold.head?_append_ne _),
          all_congr (hnew.first?_append _), all_congr (hold.first?_append _)]
        exact congrArg (all before ++ ·) hall
      · intro hfull
        have hbehind := hold.closed_append_iff.mp (hbefore.of_append hfull (hold.head?_append_ne _))
        exact hbefore.append (hnew.closed_append_iff.mpr (hclosed hbehind)) (hnew.head?_append_ne _)

section Counting

variable {p : Char → Bool} {segments : List (Segment α)}

theorem countP_substitute_le (hcount : ∀ value text, reference value text ∈ segments →
      (replacement value).countP p ≤ text.countP p) :
    (substitute replacement segments).countP p ≤ (spelling segments).countP p := by
  induction segments with
  | nil => exact Nat.le_refl _
  | cons segment segments ih =>
    have hrest := ih fun value text hmem ↦ hcount value text (List.mem_cons_of_mem _ hmem)
    cases segment with
    | plain c =>
      rw [substitute_plain, spelling_plain, List.countP_cons, List.countP_cons]
      omega
    | reference value text =>
      have hfirst := hcount value text List.mem_cons_self
      rw [substitute_reference, spelling_reference, List.countP_append, List.countP_append]
      omega

/-- Where the total does not fall, it falls at no reference. -/
theorem countP_le_of_substitute (hcount : ∀ value text, reference value text ∈ segments →
      (replacement value).countP p ≤ text.countP p)
    (htotal : (spelling segments).countP p ≤ (substitute replacement segments).countP p)
    {value : α} {text : List Char} (hmem : reference value text ∈ segments) :
    text.countP p ≤ (replacement value).countP p := by
  obtain ⟨front, back, rfl⟩ := List.append_of_mem hmem
  have hfront := countP_substitute_le fun value text h ↦
    hcount value text (List.mem_append_left _ h)
  have hback := countP_substitute_le fun value text h ↦
    hcount value text (List.mem_append_right _ (List.mem_cons_of_mem _ h))
  simp only [spelling_append, spelling_reference, substitute_append, substitute_reference,
    List.countP_append] at htotal
  omega

/-- Replacements without quotes add no quotes. -/
theorem quoteCount_substitute_le (hfree : ∀ value text, reference value text ∈ segments →
      QuoteFree (replacement value)) :
    quoteCount (substitute replacement segments) ≤ quoteCount (spelling segments) := by
  refine countP_substitute_le fun value text hmem ↦ ?_
  have hzero : (replacement value).countP (fun c ↦ c ∈ quotes) = 0 :=
    quoteCount_eq_zero_iff.mpr (hfree value text hmem)
  omega

/-- If as many quotes are left, no reference had one. -/
theorem quoteFree_of_quoteCount_le (hfree : ∀ value text, reference value text ∈ segments →
      QuoteFree (replacement value))
    (htotal : quoteCount (spelling segments) ≤ quoteCount (substitute replacement segments))
    {value : α} {text : List Char} (hmem : reference value text ∈ segments) : QuoteFree text := by
  have hzero : ∀ value text, reference value text ∈ segments →
      (replacement value).countP (fun c ↦ c ∈ quotes) = 0 :=
    fun value text hmem ↦ quoteCount_eq_zero_iff.mpr (hfree value text hmem)
  have hle : quoteCount text ≤ (replacement value).countP fun c ↦ c ∈ quotes :=
    countP_le_of_substitute (fun value text hmem ↦ by rw [hzero value text hmem]; omega) htotal hmem
  rw [hzero value text hmem] at hle
  exact quoteCount_eq_zero_iff.mp (Nat.le_zero.mp hle)

end Counting

/-- The segment with the text of a reference for its value. -/
def ownText : Segment α → Segment (List Char)
  | plain c => plain c
  | reference _ text => reference text text

/-- Spelling replaces every reference by its own text. -/
theorem substitute_ownText (segments : List (Segment α)) :
    substitute id (segments.map ownText) = spelling segments := by
  induction segments with
  | nil => rfl
  | cons segment segments ih => cases segment <;> simp [ownText, ih]

/-- A character that no reference contains stands by itself. -/
theorem exists_plain_of_spelling_eq {segments : List (Segment α)} {left right : List Char} {c : Char}
    (hc : ∀ value text, reference value text ∈ segments → c ∉ text)
    (hspelling : spelling segments = left ++ c :: right) :
    ∃ front back, segments = front ++ plain c :: back ∧ spelling front = left ∧
      spelling back = right := by
  have hown : ∀ value text, reference value text ∈ segments.map ownText → c ∉ id value := by
    intro value text hmem
    obtain ⟨segment, hsegment, heq⟩ := List.mem_map.mp hmem
    cases segment with
    | plain d => contradiction
    | reference other found =>
      obtain ⟨rfl, rfl⟩ := Segment.reference.inj heq
      exact hc other _ hsegment
  rw [← substitute_ownText] at hspelling
  obtain ⟨front', back', heq, hfront, hback⟩ := exists_plain_of_substitute_eq hown hspelling
  obtain ⟨front, rest, rfl, rfl, hrest⟩ := List.map_eq_append_iff.mp heq
  obtain ⟨segment, back, rfl, hsegment, rfl⟩ := List.map_eq_cons_iff.mp hrest
  rw [substitute_ownText] at hfront hback
  cases segment with
  | reference value text => contradiction
  | plain d =>
    obtain rfl := Segment.plain.inj hsegment
    exact ⟨front, back, rfl, hfront, hback⟩

/-- The two quotes of a literal stand by themselves, if no reference contains them. -/
theorem exists_literal_of_spelling_eq {segments : List (Segment α)} {code body after : List Char}
    {quote : Char} (hquote : ∀ value text, reference value text ∈ segments → quote ∉ text)
    (hspelling : spelling segments = code ++ (quote :: body ++ [quote]) ++ after) :
    ∃ front inside back, segments = front ++ plain quote :: (inside ++ plain quote :: back) ∧
      spelling front = code ∧ spelling inside = body ∧ spelling back = after := by
  have hopening : spelling segments = code ++ quote :: (body ++ quote :: after) := by
    rw [hspelling]
    simp
  obtain ⟨front, rest, rfl, hfront, hrest⟩ := exists_plain_of_spelling_eq hquote hopening
  have hbehind : ∀ value text, reference value text ∈ rest → quote ∉ text :=
    fun value text hmem ↦ hquote value text (by simp [hmem])
  obtain ⟨inside, back, rfl, hinside, hback⟩ := exists_plain_of_spelling_eq hbehind hrest
  exact ⟨front, inside, back, rfl, hfront, hinside, hback⟩

theorem exists_of_plain_cons_eq {segments front back : List (Segment α)} {c : Char} {value : α}
    {text : List Char} (heq : plain c :: segments = front ++ reference value text :: back) :
    ∃ rest, front = plain c :: rest ∧ segments = rest ++ reference value text :: back := by
  cases front with
  | nil => exact absurd (List.cons.inj heq).1 (by simp)
  | cons segment front =>
    obtain ⟨rfl, hrest⟩ := List.cons.inj heq
    exact ⟨front, rfl, hrest⟩

/-! ## The same literals before and after -/

/-- A way to rewrite a text that keeps its quotes, changes only what stands between two of them and
adds no further mark there. -/
structure KeepsQuotes (mark : Char) (rewrite : List Char → List Char → Prop) : Prop where
  exists_split : ∀ {left right new : List Char} {quote : Char}, quote ∈ quotes →
    rewrite (left ++ quote :: right) new → ∃ newLeft newRight,
      new = newLeft ++ quote :: newRight ∧ rewrite left newLeft ∧ rewrite right newRight
  quoteCount_eq : ∀ {text new : List Char}, rewrite text new → quoteCount new = quoteCount text
  count_le : ∀ {text new : List Char}, rewrite text new → new.count mark ≤ text.count mark

theorem keepsQuotes_eq (mark : Char) : KeepsQuotes mark Eq where
  exists_split := fun {left right _ _} _ heq ↦ ⟨left, right, heq.symm, rfl, rfl⟩
  quoteCount_eq heq := congrArg quoteCount heq.symm
  count_le heq := (congrArg (List.count mark) heq.symm).le

/-- References without quotes are replaced by texts without quotes that have no more marks. -/
def Replaces (replacement : α → List Char) (mark : Char) (segments : List (Segment α)) : Prop :=
  ∀ value text, reference value text ∈ segments →
    QuoteFree text ∧ QuoteFree (replacement value) ∧
      (replacement value).count mark ≤ text.count mark

theorem Replaces.mono {mark : Char} {segments others : List (Segment α)}
    (hreplaces : Replaces replacement mark segments) (hsubset : others ⊆ segments) :
    Replaces replacement mark others :=
  fun value text hmem ↦ hreplaces value text (hsubset hmem)

theorem Replaces.quoteCount_substitute {mark : Char} {segments : List (Segment α)}
    (hreplaces : Replaces replacement mark segments) :
    quoteCount (substitute replacement segments) = quoteCount (spelling segments) := by
  induction segments with
  | nil => rfl
  | cons segment segments ih =>
    have hrest := ih fun value text hmem ↦ hreplaces value text (List.mem_cons_of_mem _ hmem)
    cases segment with
    | plain c =>
      rw [substitute_plain, spelling_plain, quoteCount, List.countP_cons, quoteCount,
        List.countP_cons]
      exact congrArg (· + _) hrest
    | reference value text =>
      obtain ⟨hold, hnew, -⟩ := hreplaces value text List.mem_cons_self
      rw [substitute_reference, spelling_reference, quoteCount_append, quoteCount_append,
        quoteCount_eq_zero_iff.mpr hold, quoteCount_eq_zero_iff.mpr hnew, hrest]

/-- A substitution keeps the quotes if no reference and no replacement has one. -/
theorem keepsQuotes_substitute (replacement : α → List Char) (mark : Char) :
    KeepsQuotes mark fun text new ↦ ∃ segments, Replaces replacement mark segments ∧
      text = spelling segments ∧ new = substitute replacement segments where
  exists_split := by
    rintro left right new quote hquote ⟨segments, hreplaces, htext, rfl⟩
    have hnot : ∀ value text, reference value text ∈ segments → quote ∉ text :=
      fun value text hmem hmem' ↦ (hreplaces value text hmem).1 quote hmem' hquote
    obtain ⟨front, back, rfl, rfl, rfl⟩ := exists_plain_of_spelling_eq hnot htext.symm
    refine ⟨_, _, by rw [substitute_append, substitute_plain], ⟨front, ?_, rfl, rfl⟩,
      ⟨back, ?_, rfl, rfl⟩⟩
    · exact hreplaces.mono (by simp)
    · exact hreplaces.mono (by simp)
  quoteCount_eq := by
    rintro text new ⟨segments, hreplaces, rfl, rfl⟩
    exact hreplaces.quoteCount_substitute
  count_le := by
    rintro text new ⟨segments, hreplaces, rfl, rfl⟩
    exact countP_substitute_le fun value text hmem ↦ (hreplaces value text hmem).2.2

/-- One literal and what follows it: if the references behind it are outside of literals and there
are none in it, all are. -/
theorem outsideLiterals_of_literal {code body after : List (Segment α)} {quote : Char}
    {literal : Literal} (hcode : QuoteFree (spelling code))
    (hbetween : Between (spelling code) literal (spelling after))
    (hliteral : literal.text = quote :: spelling body ++ [quote])
    (hfree : ∀ value text, reference value text ∈ code → QuoteFree text)
    (hbody : ∀ value text, reference value text ∉ body) (hafter : OutsideLiterals after) :
    OutsideLiterals (code ++ plain quote :: (body ++ plain quote :: after)) := by
  intro front value text back heq
  rcases Lists.append_cons_cases heq with ⟨rest, rfl, hrest⟩ | ⟨rest, rfl, -⟩
  · obtain ⟨inner, rfl, hinner⟩ := exists_of_plain_cons_eq hrest
    rcases Lists.append_cons_cases hinner with ⟨more, rfl, hmore⟩ | ⟨more, rfl, -⟩
    · obtain ⟨last, rfl, rfl⟩ := exists_of_plain_cons_eq hmore
      obtain ⟨hlast, htext⟩ := hafter last value text back rfl
      rw [spelling_append] at hbetween
      have hfirst := first?_of_between hcode hbetween.of_append
      rw [hliteral] at hfirst
      exact ⟨.literal (by simpa using hfirst) hlast, htext⟩
    · exact absurd (by simp) (hbody value text)
  · refine ⟨.code fun c hc ↦ hcode c ?_, hfree value text (by simp)⟩
    rw [spelling_append]
    exact List.mem_append_left _ hc

/-- Where the literals of the text are the literals of what it is rewritten to, also after a further
rewriting that keeps the quotes, no reference was in a literal. -/
theorem outsideLiterals_of_all_eq {mark : Char} {rewrite : List Char → List Char → Prop}
    (hrewrite : KeepsQuotes mark rewrite) {segments : List (Segment α)} {new : List Char}
    (hclosed : Closed (spelling segments)) (hreplaces : Replaces replacement mark segments)
    (hmark : ∀ value text, reference value text ∈ segments →
      (replacement value).count mark < text.count mark)
    (hnew : rewrite (substitute replacement segments) new)
    (hall : all (spelling segments) = all new) : OutsideLiterals segments := by
  generalize htext : spelling segments = text at hclosed hall
  induction hclosed generalizing segments new with
  | code hcode =>
    subst htext
    rintro front value text back rfl
    refine ⟨.code fun c hc ↦ hcode c ?_, (hreplaces value text (by simp)).1⟩
    rw [spelling_append]
    exact List.mem_append_left _ hc
  | @literal text after literal hfirst hafter ih =>
    obtain ⟨code, hcode, hbetween, rfl⟩ := exists_between_of_first? hfirst
    obtain ⟨quote, hquote, body, hliteral⟩ := hbetween.exists_quote
    have hnot : ∀ value text, reference value text ∈ segments → quote ∉ text :=
      fun value text hmem hmem' ↦ (hreplaces value text hmem).1 quote hmem' hquote
    rw [hliteral] at htext
    obtain ⟨front, inside, back, rfl, rfl, rfl, rfl⟩ := exists_literal_of_spelling_eq hnot htext
    have hfront : Replaces replacement mark front := hreplaces.mono (by simp)
    have hinside : Replaces replacement mark inside :=
      hreplaces.mono fun segment hmem ↦ by simp [hmem]
    -- the two quotes of the literal stand in the new text as well
    simp only [substitute_append, substitute_plain] at hnew
    obtain ⟨newFront, newRest, rfl, hnewFront, hnewRest⟩ := hrewrite.exists_split hquote hnew
    obtain ⟨newInside, newBack, rfl, hnewInside, hnewBack⟩ :=
      hrewrite.exists_split hquote hnewRest
    have hnewCode : QuoteFree newFront := by
      rw [← quoteCount_eq_zero_iff, hrewrite.quoteCount_eq hnewFront, hfront.quoteCount_substitute]
      exact quoteCount_eq_zero_iff.mpr hcode
    have hcount : quoteCount newInside = quoteCount (spelling inside) :=
      (hrewrite.quoteCount_eq hnewInside).trans hinside.quoteCount_substitute
    rw [all_of_some hfirst] at hall
    obtain ⟨rfl, hnewAll⟩ := eq_of_all_eq_cons hquote hliteral hnewCode hcount hall.symm
    -- what stands between them is the same, so no reference was there
    have hbody : ∀ value text, reference value text ∉ inside := by
      intro value text hmem
      have htotal : (spelling inside).count mark ≤ (substitute replacement inside).count mark :=
        hrewrite.count_le hnewInside
      have hle : text.count mark ≤ (replacement value).count mark :=
        countP_le_of_substitute (fun value text hmem ↦ (hinside value text hmem).2.2) htotal hmem
      exact absurd hle (Nat.not_le_of_lt (hmark value text (by simp [hmem])))
    have hback : OutsideLiterals back :=
      ih (hreplaces.mono fun segment hmem ↦ by simp [hmem])
        (fun value text hmem ↦ hmark value text (by simp [hmem])) hnewBack rfl hnewAll.symm
    exact outsideLiterals_of_literal hcode hbetween hliteral
      (fun value text hmem ↦ (hfront value text hmem).1) hbody hback

/-- If as many quotes are left as there were, no reference had one. -/
theorem replaces_of_exchange {mark : Char} {segments : List (Segment α)}
    (hexchange : ∀ value text, reference value text ∈ segments →
      Exchange mark text (replacement value))
    (htotal : quoteCount (spelling segments) ≤ quoteCount (substitute replacement segments)) :
    Replaces replacement mark segments := by
  intro value text hmem
  have hnew := hexchange value text hmem
  refine ⟨?_, hnew.isCode.quoteFree, hnew.count_lt.le⟩
  exact quoteFree_of_quoteCount_le (fun value text h ↦ (hexchange value text h).isCode.quoteFree)
    htotal hmem

/-- A substitution keeps the literals of a closed text exactly when every reference stands outside
of them. -/
theorem all_substitute_eq_iff {mark : Char} {segments : List (Segment α)}
    (hexchange : ∀ value text, reference value text ∈ segments →
      Exchange mark text (replacement value)) (hclosed : Closed (spelling segments)) :
    all (substitute replacement segments) = all (spelling segments) ↔ OutsideLiterals segments := by
  constructor
  · intro hall
    have htotal := hclosed.quoteCount_le hall.symm
    exact outsideLiterals_of_all_eq (keepsQuotes_eq mark) hclosed
      (replaces_of_exchange hexchange htotal)
      (fun value text hmem ↦ (hexchange value text hmem).count_lt) rfl hall.symm
  · intro houtside
    exact (all_append_substitute [] hexchange houtside).1

end GuardedProxy.Segment
