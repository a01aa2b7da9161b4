import GuardedProxy.Invocation.Arguments
import GuardedProxy.Proofs.Text

/-!
# What the reader of an argument list passes over

Outside of literals the reader looks at brackets and commas only. It passes over a text when it
takes all of it into the argument under way and comes out at the same depth, in code. Texts without
any sign are of this kind, so are their concatenations and what stands in brackets, and a comma is
where some bracket is open. Arguments that were found stay at the front of the list.
-/

namespace GuardedProxy.Invocation

/-- The characters that the reader looks at in code. -/
def signs : List Char := ['@', '"', '\'', '(', '[', '{', ')', ']', '}', ',']

/-- In code at the given depth, the text becomes a part of the argument under way. -/
def PassesOver (depth : Nat) (text : List Char) : Prop :=
  ∀ piece found rest, splitArguments .code depth piece found (text ++ rest) =
    splitArguments .code depth (text.reverse ++ piece) found rest

variable {depth : Nat}

theorem passesOver_nil : PassesOver depth [] := fun _ _ _ ↦ rfl

theorem PassesOver.append {first second : List Char} (hfirst : PassesOver depth first)
    (hsecond : PassesOver depth second) : PassesOver depth (first ++ second) := by
  intro piece found rest
  rw [List.append_assoc, hfirst, hsecond, List.reverse_append, List.append_assoc]

theorem passesOver_singleton {c : Char} (hc : c ∉ signs) : PassesOver depth [c] := by
  intro piece found rest
  simp only [signs, List.mem_cons, List.not_mem_nil, or_false, not_or] at hc
  obtain ⟨h1, h2, h3, h4, h5, h6, h7, h8, h9, h10⟩ := hc
  rw [List.singleton_append, splitArguments, List.reverse_singleton, List.singleton_append]
  all_goals assumption

/-- Text without quotes, brackets and commas is passed over at any depth. -/
theorem passesOver_of_not_mem_signs {text : List Char} (htext : ∀ c ∈ text, c ∉ signs) :
    PassesOver depth text := by
  induction text with
  | nil => exact passesOver_nil
  | cons c text ih =>
    have hc : PassesOver depth [c] := passesOver_singleton (htext c List.mem_cons_self)
    exact hc.append (ih fun d hd ↦ htext d (List.mem_cons_of_mem _ hd))

/-- Angle brackets do not count as brackets of an argument list. -/
theorem PassesOver.angles {depth : Nat} {text : List Char} (htext : PassesOver depth text) :
    PassesOver depth ('<' :: text ++ ['>']) :=
  ((passesOver_singleton (by decide)).append htext).append (passesOver_singleton (by decide))

theorem passesOver_comma : PassesOver (depth + 1) [','] := fun _ _ _ ↦ rfl

/-- Brackets are counted without regard to their kind. -/
theorem PassesOver.enclosed {opening closing : Char} {text : List Char}
    (hopening : opening ∈ ['(', '[', '{']) (hclosing : closing ∈ [')', ']', '}'])
    (htext : PassesOver (depth + 1) text) : PassesOver depth (opening :: text ++ [closing]) := by
  simp only [List.mem_cons, List.not_mem_nil, or_false] at hopening hclosing
  have hopen : ∀ piece found rest, splitArguments .code depth piece found (opening :: rest) =
      splitArguments .code (depth + 1) (opening :: piece) found rest := by
    rcases hopening with rfl | rfl | rfl <;> exact fun _ _ _ ↦ rfl
  have hclose : ∀ piece found rest,
      splitArguments .code (depth + 1) piece found (closing :: rest) =
        splitArguments .code depth (closing :: piece) found rest := by
    rcases hclosing with rfl | rfl | rfl <;> exact fun _ _ _ ↦ rfl
  intro piece found rest
  calc splitArguments .code depth piece found (opening :: text ++ [closing] ++ rest)
      = splitArguments .code (depth + 1) (opening :: piece) found (text ++ (closing :: rest)) := by
        rw [List.append_assoc, List.cons_append, hopen, List.singleton_append]
    _ = splitArguments .code depth (closing :: (text.reverse ++ opening :: piece)) found rest := by
        rw [htext, hclose]
    _ = splitArguments .code depth ((opening :: text ++ [closing]).reverse ++ piece) found
          rest := by
        simp

theorem not_mem_signs_of_isWordChar {c : Char} (hword : Text.isWordChar c = true) : c ∉ signs := by
  have hsigns : ∀ sign ∈ signs, Text.isWordChar sign = false :=
    List.all_iff_forall_prop.mp (by decide)
  intro hmem
  rw [hsigns c hmem] at hword
  exact Bool.false_ne_true hword

theorem argument?_reverse {first last : Char} (middle : List Char)
    (hfirst : Text.isBlank first = false) (hlast : Text.isBlank last = false) :
    argument? (first :: middle ++ [last]).reverse =
      some (String.ofList (first :: middle ++ [last])) := by
  rw [argument?, List.reverse_reverse, Text.trim_eq_self hfirst hlast]
  rfl

theorem mem_of_argument?_reverse {text : List Char} {argument : String} {c : Char}
    (hargument : argument? text.reverse = some argument) (hc : c ∈ argument.toList) : c ∈ text := by
  rw [argument?, List.reverse_reverse] at hargument
  split at hargument
  · exact absurd hargument (by simp)
  · rename_i first rest htrim
    obtain rfl := Option.some.inj hargument
    rw [String.toList_ofList, ← htrim] at hc
    exact Text.mem_of_mem_trim hc

/-- A text that the reader passes over is the only argument. -/
theorem readArguments_of_passesOver {text : List Char} {argument : String}
    (htext : PassesOver 0 text) (hargument : argument? text.reverse = some argument) :
    readArguments (text ++ [')']) = some ([argument], []) := by
  rw [readArguments, htext, List.append_nil]
  simp [splitArguments, hargument]

/-- The arguments that have been found stay in front of those that follow. -/
theorem prefix_of_splitArguments {mode : Mode} {piece : List Char} {found arguments : List String}
    {cs rest : List Char}
    (hsplit : splitArguments mode depth piece found cs = some (arguments, rest)) :
    found.reverse <+: arguments := by
  fun_induction splitArguments mode depth piece found cs with
  | case1 | case2 | case17 | case19 | case21 => exact absurd hsplit (by simp)
  | case15 =>
    -- the closing parenthesis puts the last argument behind the others
    obtain ⟨last, -, hlast⟩ := Option.map_eq_some_iff.mp hsplit
    obtain ⟨rfl, -⟩ := Prod.mk.inj hlast
    rw [List.reverse_cons]
    exact List.prefix_append _ _
  | case22 =>
    -- a comma puts the next argument behind the others
    rename_i next hnext ih
    have hlonger := ih hsplit
    rw [List.reverse_cons] at hlonger
    exact (List.prefix_append _ _).trans hlonger
  | _ =>
    rename_i ih
    exact ih hsplit

/-- What stands before a comma that divides the arguments is the first of them. -/
theorem condition_of_readArguments {front back after : List Char} {arguments : List String}
    (hfront : PassesOver 0 front)
    (hread : readArguments (front ++ ',' :: back) = some (arguments, after)) :
    ∃ first, argument? front.reverse = some first ∧ arguments[0]? = some first := by
  rw [readArguments, hfront, List.append_nil] at hread
  cases hfirst : argument? front.reverse with
  | none => simp [splitArguments, hfirst] at hread
  | some first =>
    have hsplit : splitArguments .code 0 [] [first] back = some (arguments, after) := by
      simpa [splitArguments, hfirst] using hread
    obtain ⟨others, rfl⟩ := prefix_of_splitArguments hsplit
    exact ⟨first, rfl, rfl⟩

end GuardedProxy.Invocation
