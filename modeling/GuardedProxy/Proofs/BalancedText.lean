import GuardedProxy.TypeArgument
import GuardedProxy.Proofs.Text

/-!
# Balanced text

The search for the end of a type argument counts the angle brackets and parentheses that are open.
A text is balanced when passing over it leaves both counts as they were, whatever they were. What
stands inside the angle brackets of a type argument is exactly such a text.
-/

namespace GuardedProxy.TypeArgument

/-- The numbers of open angle brackets and parentheses behind one more character. There are none
where the search ends. -/
def pass (counts : Nat × Nat) (c : Char) : Option (Nat × Nat) :=
  match c, counts with
  | '<', (angles, parens) => some (angles + 1, parens)
  | '>', (0, _) => none
  | '>', (angles + 1, parens) => some (angles, parens)
  | '(', (angles, parens) => some (angles, parens + 1)
  | ')', (_, 0) => none
  | ')', (angles, parens + 1) => some (angles, parens)
  | ';', _ => none
  | '"', _ => none
  | _, counts => some counts

def Balanced (text : List Char) : Prop :=
  ∀ counts, text.foldlM pass counts = some counts

/-- The characters that the search looks at. -/
def marks : List Char := ['<', '>', '(', ')', ';', '"']

theorem pass_of_not_mem_marks {c : Char} (hc : c ∉ marks) (counts : Nat × Nat) :
    pass counts c = some counts := by
  simp only [marks, List.mem_cons, List.not_mem_nil, or_false, not_or] at hc
  obtain ⟨h1, h2, h3, h4, h5, h6⟩ := hc
  rw [pass]
  all_goals intros
  all_goals contradiction

theorem not_mem_marks_of_isWordChar {c : Char} (hword : Text.isWordChar c = true) : c ∉ marks := by
  have hmarks : ∀ mark ∈ marks, Text.isWordChar mark = false :=
    List.all_iff_forall_prop.mp (by decide)
  intro hmem
  rw [hmarks c hmem] at hword
  exact Bool.false_ne_true hword

theorem not_mem_marks_of_isBlank {c : Char} (hblank : Text.isBlank c = true) : c ∉ marks := by
  have hmarks : ∀ mark ∈ marks, Text.isBlank mark = false :=
    List.all_iff_forall_prop.mp (by decide)
  intro hmem
  rw [hmarks c hmem] at hblank
  exact Bool.false_ne_true hblank

theorem balanced_nil : Balanced [] := fun _ ↦ rfl

theorem Balanced.append {first second : List Char} (hfirst : Balanced first)
    (hsecond : Balanced second) : Balanced (first ++ second) := by
  intro counts
  rw [List.foldlM_append, hfirst counts]
  exact hsecond counts

theorem balanced_of_not_mem_marks {text : List Char} (htext : ∀ c ∈ text, c ∉ marks) :
    Balanced text := by
  intro counts
  induction text with
  | nil => rfl
  | cons c text ih =>
    rw [List.foldlM_cons, pass_of_not_mem_marks (htext c List.mem_cons_self)]
    exact ih fun d hd ↦ htext d (List.mem_cons_of_mem _ hd)

theorem Balanced.angles {text : List Char} (htext : Balanced text) :
    Balanced ('<' :: text ++ ['>']) := by
  rintro ⟨angles, parens⟩
  rw [List.cons_append, List.foldlM_cons, pass, Option.bind_eq_bind, Option.bind_some,
    List.foldlM_append, htext]
  rfl

theorem Balanced.parens {text : List Char} (htext : Balanced text) :
    Balanced ('(' :: text ++ [')']) := by
  rintro ⟨angles, parens⟩
  rw [List.cons_append, List.foldlM_cons, pass, Option.bind_eq_bind, Option.bind_some,
    List.foldlM_append, htext]
  rfl

/-- Brackets that are open from the start stay open as long as the text closes only its own. -/
theorem pass_add {counts after : Nat × Nat} {c : Char} (hpass : pass counts c = some after)
    (angles parens : Nat) :
    pass (counts.1 + angles, counts.2 + parens) c = some (after.1 + angles, after.2 + parens) := by
  obtain ⟨openAngles, openParens⟩ := counts
  by_cases hmark : c ∈ marks
  · simp only [marks, List.mem_cons, List.not_mem_nil, or_false] at hmark
    rcases hmark with rfl | rfl | rfl | rfl | rfl | rfl
    · obtain rfl := Option.some.inj hpass
      simp [pass, Nat.add_right_comm]
    · cases openAngles with
      | zero => simp [pass] at hpass
      | succ openAngles =>
        obtain rfl := Option.some.inj hpass
        simp [pass, Nat.add_right_comm]
    · obtain rfl := Option.some.inj hpass
      simp [pass, Nat.add_right_comm]
    · cases openParens with
      | zero => simp [pass] at hpass
      | succ openParens =>
        obtain rfl := Option.some.inj hpass
        simp [pass, Nat.add_right_comm]
    · simp [pass] at hpass
    · simp [pass] at hpass
  · rw [pass_of_not_mem_marks hmark] at hpass ⊢
    obtain rfl := Option.some.inj hpass
    rfl

/-- More open brackets before a text do not stop the search that fewer let through. -/
theorem foldlM_pass_add {counts after : Nat × Nat} {text : List Char}
    (hpass : text.foldlM pass counts = some after) (angles parens : Nat) :
    text.foldlM pass (counts.1 + angles, counts.2 + parens) =
      some (after.1 + angles, after.2 + parens) := by
  induction text generalizing counts with
  | nil =>
    obtain rfl := Option.some.inj hpass
    rfl
  | cons c text ih =>
    rw [List.foldlM_cons] at hpass ⊢
    obtain ⟨next, hnext, hrest⟩ := Option.bind_eq_some_iff.mp hpass
    rw [pass_add hnext]
    exact ih hrest

/-- It is enough that a text closes what it opens when nothing else is open. -/
theorem balanced_of_foldlM {text : List Char} (hpass : text.foldlM pass (0, 0) = some (0, 0)) :
    Balanced text := by
  rintro ⟨angles, parens⟩
  have hadd := foldlM_pass_add hpass angles parens
  simpa only [Nat.zero_add] using hadd

/-- The search goes on where a character can be passed, and ends at any other. -/
theorem closing_cons (angles parens passed : Nat) (c : Char) (rest : List Char) :
    closing angles parens passed (c :: rest) =
      match pass (angles, parens) c with
      | some (angles, parens) => closing angles parens (passed + 1) rest
      | none => if c = '>' ∧ parens = 0 then some passed else none := by
  by_cases hmark : c ∈ marks
  · simp only [marks, List.mem_cons, List.not_mem_nil, or_false] at hmark
    rcases hmark with rfl | rfl | rfl | rfl | rfl | rfl
    · rfl
    · cases angles <;> simp [closing, pass]
    · rfl
    · cases parens <;> simp [closing, pass]
    · simp [closing, pass]
    · simp [closing, pass]
  · rw [pass_of_not_mem_marks hmark]
    simp only [marks, List.mem_cons, List.not_mem_nil, or_false, not_or] at hmark
    obtain ⟨h1, h2, h3, h4, h5, h6⟩ := hmark
    rw [closing]
    all_goals assumption

/-- What stands before the closing bracket brings both counts down to zero. -/
theorem foldlM_pass_of_closing {angles parens passed index : Nat} {cs : List Char}
    (hclosing : closing angles parens passed cs = some index) :
    ∃ inside rest, cs = inside ++ '>' :: rest ∧ index = passed + inside.length ∧
      inside.foldlM pass (angles, parens) = some (0, 0) := by
  induction cs generalizing angles parens passed with
  | nil => simp [closing] at hclosing
  | cons c cs ih =>
    rw [closing_cons] at hclosing
    cases hpass : pass (angles, parens) c with
    | none =>
      rw [hpass] at hclosing
      obtain ⟨⟨rfl, rfl⟩, rfl⟩ : (c = '>' ∧ parens = 0) ∧ passed = index := by
        simpa using hclosing
      have hangles : angles = 0 := by
        cases angles with
        | zero => rfl
        | succ angles => simp [pass] at hpass
      subst hangles
      exact ⟨[], cs, rfl, rfl, rfl⟩
    | some counts =>
      rw [hpass] at hclosing
      obtain ⟨inside, rest, rfl, rfl, hinside⟩ := ih hclosing
      refine ⟨c :: inside, rest, rfl, ?_, ?_⟩
      · rw [List.length_cons]
        omega
      · rw [List.foldlM_cons, hpass]
        exact hinside

/-- The search stops at the first bracket behind a text that brings both counts down to zero. -/
theorem closing_of_foldlM_pass {angles parens : Nat} {inside : List Char} (passed : Nat)
    (rest : List Char) (hpass : inside.foldlM pass (angles, parens) = some (0, 0)) :
    closing angles parens passed (inside ++ '>' :: rest) = some (passed + inside.length) := by
  induction inside generalizing angles parens passed with
  | nil =>
    obtain ⟨rfl, rfl⟩ : angles = 0 ∧ parens = 0 := by simpa using hpass
    rfl
  | cons c inside ih =>
    rw [List.foldlM_cons] at hpass
    obtain ⟨⟨nextAngles, nextParens⟩, hnext, hinside⟩ := Option.bind_eq_some_iff.mp hpass
    rw [List.cons_append, closing_cons, hnext, List.length_cons, Nat.add_comm inside.length,
      ← Nat.add_assoc]
    exact ih (passed + 1) hinside

/-- A type argument is read off the front of a text exactly when what stands between its angle
brackets is balanced. -/
theorem read_eq_some_iff {cs inside rest : List Char} :
    read cs = some (inside, rest) ↔ cs = '<' :: inside ++ '>' :: rest ∧ Balanced inside := by
  constructor
  · intro hread
    have heq := eq_of_read hread
    subst heq
    refine ⟨rfl, ?_⟩
    obtain ⟨index, hindex, hparts⟩ := Option.map_eq_some_iff.mp hread
    obtain ⟨text, after, htext, rfl, hpass⟩ := foldlM_pass_of_closing hindex
    rw [htext] at hparts
    obtain ⟨rfl, -⟩ : text = inside ∧ after = rest := by simpa using hparts
    exact balanced_of_foldlM hpass
  · rintro ⟨rfl, hinside⟩
    have hclosing := closing_of_foldlM_pass 0 rest (hinside (0, 0))
    simp [read, hclosing]

end GuardedProxy.TypeArgument
